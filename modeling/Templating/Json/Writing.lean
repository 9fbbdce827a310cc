import Templating.Decimal.Layout
import Templating.Json.Quoted
import Templating.Json.Tree

/-!
# Writing JSON

The compact form has no blanks; the indented form has one item or member a line, two spaces for
each level. Empty arrays and objects are closed at once in both.
-/

namespace Templating.Json

/-- Floats from `1e-5` up to below `1e16` are positional with at least one digit after the point;
the exponent of all others has a sign. -/
def floatLayout : Decimal.Layout where
  tie := .even
  window := some (-5, 16)
  pointZero := true
  plusSign := true
  notANumber := "null"
  infinite := "null"

def Number.write : Number → List Char
  | natural value => Decimal.writeNat value.toNat
  | negative value => Decimal.writeInteger value.toInt
  | float value => floatLayout.write value

def openBrace : Char := Char.ofNat 0x7b

def closeBrace : Char := Char.ofNat 0x7d

namespace Tree

/-- Trees without parts. -/
def writeScalar : Tree → List Char
  | null => ['n', 'u', 'l', 'l']
  | bool true => ['t', 'r', 'u', 'e']
  | bool false => ['f', 'a', 'l', 's', 'e']
  | number value => value.write
  | string text => quoted text.toList
  | _ => []

mutual

def compact : Tree → List Char
  | array items => '[' :: compactItems items ++ [']']
  | object members => openBrace :: compactMembers members ++ [closeBrace]
  | scalar => scalar.writeScalar

def compactItems : List Tree → List Char
  | [] => []
  | item :: rest =>
      compact item ++ (if rest.isEmpty then [] else ',' :: compactItems rest)

def compactMembers : List (String × Tree) → List Char
  | [] => []
  | (name, item) :: rest =>
      quoted name.toList ++ ':' :: compact item ++
        (if rest.isEmpty then [] else ',' :: compactMembers rest)

end

/-- A line break and the indentation of a level. -/
def newLine (level : Nat) : List Char := '\n' :: List.replicate (2 * level) ' '

mutual

def indented (level : Nat) : Tree → List Char
  | array [] => ['[', ']']
  | array (item :: rest) =>
      '[' :: indentedItems (level + 1) (item :: rest) ++ newLine level ++ [']']
  | object [] => [openBrace, closeBrace]
  | object (member :: rest) =>
      openBrace :: indentedMembers (level + 1) (member :: rest) ++ newLine level ++ [closeBrace]
  | scalar => scalar.writeScalar

def indentedItems (level : Nat) : List Tree → List Char
  | [] => []
  | item :: rest =>
      newLine level ++ indented level item ++
        (if rest.isEmpty then [] else ',' :: indentedItems level rest)

def indentedMembers (level : Nat) : List (String × Tree) → List Char
  | [] => []
  | (name, item) :: rest =>
      newLine level ++ quoted name.toList ++ ':' :: ' ' :: indented level item ++
        (if rest.isEmpty then [] else ',' :: indentedMembers level rest)

end

end Tree

end Templating.Json
