import Templating.Decimal.Integer
import Templating.Json.Tree

/-!
# JSON numbers

A number without point and exponent stays whole as long as a 64-bit word holds it; the rest are
floats. A float is built from the leading digits that a 64-bit word holds, scaled by one power of
ten, so its last bit may differ from the nearest float. A number too large for a float is refused.
-/

namespace Templating.Json

/-- The digits of a number by place; no fraction and no exponent are told apart from empty ones. -/
structure Numeral where
  negative : Bool
  whole : List Char
  fraction : Option (List Char)
  exponent : Option (Bool × List Char)

/-- Whether a character may stand in a number; what follows a number never starts with one. -/
def isNumberChar (c : Char) : Bool :=
  c.isDigit || c == '-' || c == '+' || c == '.' || c == 'e' || c == 'E'

/-- Splits an exponent off: whether it is negative, and its digits. -/
def splitExponent? : List Char → Option (Option (Bool × List Char))
  | [] => some none
  | letter :: rest =>
      if letter = 'e' || letter = 'E' then
        let (negative, digits) := match rest with
          | '-' :: digits => (true, digits)
          | '+' :: digits => (false, digits)
          | digits => (false, digits)
        if digits.isEmpty || !digits.all Char.isDigit then none else some (some (negative, digits))
      else none

/-- A leading zero stands alone, and a point has digits on both sides. -/
def numeral? (text : List Char) : Option Numeral := do
  let (negative, unsigned) := match text with
    | '-' :: rest => (true, rest)
    | rest => (false, rest)
  let whole := unsigned.takeWhile Char.isDigit
  let tail := unsigned.dropWhile Char.isDigit
  if whole.isEmpty || (whole.head? == some '0' && 1 < whole.length) then none
  else
    match tail with
    | '.' :: rest =>
        let fraction := rest.takeWhile Char.isDigit
        if fraction.isEmpty then none
        else
          let exponent ← splitExponent? (rest.dropWhile Char.isDigit)
          return ⟨negative, whole, some fraction, exponent⟩
    | tail =>
        let exponent ← splitExponent? tail
        return ⟨negative, whole, none, exponent⟩

def digitValue (c : Char) : Nat := c.toNat - 0x30

/-- Takes digits in as long as the word holds them: the number so far and the digits left. -/
def gather (word : Nat) : List Char → Nat × List Char
  | [] => (word, [])
  | c :: rest =>
      let next := word * 10 + digitValue c
      if next < UInt64.size then gather next rest else (word, c :: rest)

/-- One power of ten, as a float. -/
def powerOfTen (power : Nat) : Float := Float.ofScientific 1 false power

/-- `word * 10 ^ power`, with at most two roundings more than the product itself needs; nothing when
the result is too large. -/
def scale? (word : Nat) (power : Int) : Option Float :=
  let start := Float.ofNat word
  if 0 ≤ power then
    if power ≤ 308 then
      let product := start * powerOfTen power.toNat
      if product.isInf then none else some product
    else if word = 0 then some start else none
  else if -308 ≤ power then some (start / powerOfTen (-power).toNat)
  else if word = 0 then some start
  else
    let reduced := start / powerOfTen 308
    if -616 ≤ power then some (reduced / powerOfTen (-power - 308).toNat) else some 0.0

namespace Numeral

/-- The power of ten after the exponent; nothing when the exponent has no 32-bit value. -/
def power? (numeral : Numeral) (start : Int) : Option Int :=
  match numeral.exponent with
  | none => some start
  | some (negative, digits) =>
      let value := Nat.ofDigitChars 10 digits 0
      if UInt32.size / 2 ≤ value then none
      else if negative then some (start - value)
      else some (start + value)

/-- The magnitude as a float. -/
def magnitude? (numeral : Numeral) : Option Float :=
  let (word, beyond) := gather 0 numeral.whole
  let fraction := numeral.fraction.getD []
  let (significand, left) := gather word fraction
  let start : Int := beyond.length - (fraction.length - left.length : Nat)
  match numeral.power? start with
  | some power => scale? significand power
  | none =>
      let negative := (numeral.exponent.map Prod.fst).getD false
      if significand = 0 || negative then some 0.0 else none

def value? (numeral : Numeral) : Option Number :=
  let (word, beyond) := gather 0 numeral.whole
  let asFloat := numeral.magnitude?.map fun magnitude =>
    Number.float (if numeral.negative then -magnitude else magnitude)
  if numeral.fraction.isSome || numeral.exponent.isSome || !beyond.isEmpty then asFloat
  else if !numeral.negative then some (.natural (UInt64.ofNat word))
  else if word = 0 || UInt64.size / 2 < word then asFloat
  else some (.negative (Int64.ofInt (-(word : Int))))

end Numeral

def number? (text : List Char) : Option Number := (numeral? text).bind Numeral.value?

end Templating.Json
