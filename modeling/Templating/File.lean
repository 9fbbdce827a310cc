import Templating.Text.Search

/-!
# Files and their names

A program sees files by their paths. The format of a file is told by the extension of its name: what
follows the last dot, unless that dot starts the name.
-/

namespace Templating

/-- The contents of the files at hand. -/
abbrev Files := String → Option ByteArray

namespace Path

/-- The last part of a path that is a name. -/
def fileName? (path : String) : Option (List Char) :=
  let parts := (Text.splitAtChar '/' path.toList).filter fun part => part ≠ [] && part ≠ ['.']
  parts.getLast?.filter fun name => name ≠ ['.', '.']

def extension? (path : String) : Option String := do
  let name ← fileName? path
  match name.reverse.takeWhile (· ≠ '.'), name.reverse.dropWhile (· ≠ '.') with
  | backwards, '.' :: before =>
      if before.isEmpty then none else some (String.ofList backwards.reverse)
  | _, _ => none

end Path

end Templating
