/-!
# Blanks and breaks of YAML

Spaces and tabs separate within a line; five characters end a line.
-/

namespace Templating.Yaml

def isBreak (c : Char) : Bool :=
  c == '\n' || c == '\r' || c.toNat == 0x85 || c.toNat == 0x2028 || c.toNat == 0x2029

def isSpaceOrTab (c : Char) : Bool := c == ' ' || c == '\t'

/-- Whether a blank, a break or the end comes next. -/
def startsBlank : List Char → Bool
  | [] => true
  | c :: _ => isSpaceOrTab c || isBreak c

/-- Whether a break or the end comes next. -/
def startsBreak : List Char → Bool
  | [] => true
  | c :: _ => isBreak c

end Templating.Yaml
