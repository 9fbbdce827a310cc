import Templating.Yaml.ScalarScan

/-!
# Words, handles and escaped bytes of YAML

What directives, anchors and tags are written with.
-/

namespace Templating.Yaml

def isWordChar (c : Char) : Bool := c.isAlphanum || c == '_' || c == '-'

/-- A handle: an exclamation mark, or a word between two. -/
def handle? : List Char → Option (List Char × List Char)
  | '!' :: rest =>
      let word := rest.takeWhile isWordChar
      match rest.dropWhile isWordChar with
      | '!' :: rest => some ('!' :: word ++ ['!'], rest)
      | rest => some ('!' :: word, rest)
  | _ => none

def versionNumber? (text : List Char) : Option (Nat × List Char) :=
  let digits := text.takeWhile Char.isDigit
  if digits.isEmpty || 9 < digits.length then none
  else some (Nat.ofDigitChars 10 digits 0, text.dropWhile Char.isDigit)

/-- One byte that is written as a percent sign and two digits. -/
def percentByte? : List Char → Option (Nat × List Char)
  | '%' :: first :: second :: rest =>
      (Text.readBase? 16 [first, second]).map fun byte => (byte, rest)
  | _ => none

/-- How many bytes of UTF-8 go on from a first one. -/
def followers? (first : Nat) : Option Nat :=
  if first < 0x80 then some 0
  else if first / 0x20 = 0x6 then some 1
  else if first / 0x10 = 0xe then some 2
  else if first / 0x08 = 0x1e then some 3
  else none

end Templating.Yaml
