import Templating.Text.Bytes
import Templating.Yaml.Blank

/-!
# Places in a YAML text

A cursor stands before the rest of a text and knows its line, its column, how many bytes lie before
it and how many characters lie ahead. A line ends at a break; a carriage return and a line feed
after it are one break.
-/

namespace Templating.Yaml

structure Cursor where
  rest : List Char
  index : Nat := 0
  line : Nat := 0
  column : Nat := 0
  ahead : Nat := rest.length
  ahead_eq : ahead = rest.length := by rfl

namespace Cursor

/-- Moves over characters of one line. -/
def skip (cursor : Cursor) (count : Nat) : Cursor :=
  { cursor with
    rest := cursor.rest.drop count
    index := cursor.index + Text.byteLength (cursor.rest.take count)
    column := cursor.column + count
    ahead := cursor.ahead - count
    ahead_eq := by simp [cursor.ahead_eq] }

/-- Moves over the characters that satisfy `test`, which no break does. -/
def skipWhile (cursor : Cursor) (test : Char → Bool) : Cursor :=
  cursor.skip (cursor.rest.takeWhile test).length

/-- Moves over the break that stands here; gives it as it counts in a scalar, where all but the
Unicode separators are line feeds. -/
def takeBreak (cursor : Cursor) : List Char × Cursor :=
  let pass := fun (count : Nat) =>
    { cursor with
      rest := cursor.rest.drop count
      index := cursor.index + Text.byteLength (cursor.rest.take count)
      line := cursor.line + 1
      column := 0
      ahead := cursor.ahead - count
      ahead_eq := by simp [cursor.ahead_eq] : Cursor }
  match cursor.rest with
  | '\r' :: '\n' :: _ => (['\n'], pass 2)
  | c :: _ =>
      if c.toNat = 0x2028 || c.toNat = 0x2029 then ([c], pass 1)
      else if isBreak c then (['\n'], pass 1)
      else ([], cursor)
  | [] => ([], cursor)

def skipBreak (cursor : Cursor) : Cursor := cursor.takeBreak.2

def startsWith (cursor : Cursor) (text : List Char) : Bool := text.isPrefixOf cursor.rest

/-- Whether a mark that starts or ends a document stands here. -/
def atDocumentMark (cursor : Cursor) : Bool :=
  cursor.column == 0 &&
    (cursor.startsWith ['-', '-', '-'] || cursor.startsWith ['.', '.', '.']) &&
    startsBlank (cursor.rest.drop 3)

end Cursor

end Templating.Yaml
