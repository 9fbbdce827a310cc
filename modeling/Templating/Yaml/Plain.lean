import Templating.Decimal.Reading
import Templating.Text.Digit
import Templating.Text.Search

/-!
# What a plain scalar means

A scalar without quotes and without a tag stands for nothing, a boolean, a whole number, a float or
itself. Digits after a leading zero are text, and whole numbers go up to 128 bits; larger ones are
floats.
-/

namespace Templating.Yaml

inductive Plain where
  | null
  | bool (value : Bool)
  | whole (value : Int)
  | float (value : Float)
  | text

def isNullWord (text : String) : Bool :=
  text == "null" || text == "Null" || text == "NULL" || text == "~"

def boolWord? (text : String) : Option Bool :=
  if text = "true" || text = "True" || text = "TRUE" then some true
  else if text = "false" || text = "False" || text = "FALSE" then some false
  else none

/-- The text without one leading plus sign. -/
def withoutPlus : List Char → List Char
  | '+' :: rest => rest
  | text => text

def startsWithSign : List Char → Bool
  | '+' :: _ => true
  | '-' :: _ => true
  | _ => false

/-- Digits that only a leading zero keeps from being a number. -/
def isZeroPadded (text : List Char) : Bool :=
  let digits := if startsWithSign text then text.drop 1 else text
  match digits with
  | '0' :: rest => !rest.isEmpty && rest.all Char.isDigit
  | _ => false

/-- The base that the two characters after an optional sign stand for. -/
def markedBase? : List Char → Option (Nat × List Char)
  | '0' :: 'x' :: digits => some (16, digits)
  | '0' :: 'o' :: digits => some (8, digits)
  | '0' :: 'b' :: digits => some (2, digits)
  | _ => none

/-- A number without a sign of its own, in decimal or in a marked base. -/
def unsigned? (zeroPadded : Bool) (text : List Char) : Option Nat :=
  match markedBase? text with
  | some (base, digits) => Text.readBase? base digits
  | none => if zeroPadded then none else Decimal.readDigits? text

/-- How many numbers 128 bits hold. -/
def wideSize : Nat := UInt64.size * UInt64.size

/-- A whole number of at most 128 bits. -/
def whole? (text : List Char) : Option Int :=
  let padded := isZeroPadded text
  match text with
  | '-' :: magnitude =>
      ((unsigned? padded magnitude).filter (· ≤ wideSize / 2)).map fun value => -(value : Int)
  | text => ((unsigned? padded (withoutPlus text)).filter (· < wideSize)).map Int.ofNat

def isInfinityWord (text : List Char) : Bool :=
  let word := String.ofList text
  word == ".inf" || word == ".Inf" || word == ".INF"

def isNoNumberWord (text : List Char) : Bool :=
  let word := String.ofList text
  word == ".nan" || word == ".NaN" || word == ".NAN"

/-- Words for the special values, and finite numbers. -/
def float? (text : List Char) : Option Float :=
  let unsigned := withoutPlus text
  if unsigned.length < text.length && startsWithSign unsigned then none
  else if isInfinityWord unsigned then some (Float.ofBits 0x7ff0000000000000)
  else if text.head? == some '-' && isInfinityWord (text.drop 1) then
    some (Float.ofBits 0xfff0000000000000)
  else if isNoNumberWord text then some (Float.ofBits 0x7ff8000000000000)
  else (Decimal.readFloat? unsigned).filter Float.isFinite

def plain (text : String) : Plain :=
  let chars := text.toList
  if text = "" || isNullWord text then .null
  else
    match boolWord? text with
    | some value => .bool value
    | none =>
        match whole? chars with
        | some value => .whole value
        | none =>
            if isZeroPadded chars then .text
            else
              match float? chars with
              | some value => .float value
              | none => .text

end Templating.Yaml
