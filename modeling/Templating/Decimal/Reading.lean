import Templating.Decimal.Integer

/-!
# Reading decimal fractions

A number is an optional sign, digits with an optional point and at least one digit on either side
of it, and an optional exponent. It is rounded to the nearest float. The words for infinity and for
no number are read in any case.
-/

namespace Templating.Decimal

/-- The parts of a number without its sign: `digits * 10 ^ power`, with the digits as written. -/
structure Parts where
  digits : List Char
  power : Int

/-- An exponent after its letter. -/
def readPower? : List Char → Option Int
  | '-' :: digits => (readDigits? digits).map fun value => -(value : Int)
  | '+' :: digits => (readDigits? digits).map Int.ofNat
  | digits => (readDigits? digits).map Int.ofNat

def readParts? (text : List Char) : Option Parts :=
  let whole := text.takeWhile Char.isDigit
  let afterWhole := text.dropWhile Char.isDigit
  let (fraction, tail) := match afterWhole with
    | '.' :: rest => (rest.takeWhile Char.isDigit, rest.dropWhile Char.isDigit)
    | rest => ([], rest)
  if whole.isEmpty && fraction.isEmpty then none
  else
    let digits := whole ++ fraction
    match tail with
    | [] => some ⟨digits, -fraction.length⟩
    | letter :: rest =>
        if letter = 'e' || letter = 'E' then
          (readPower? rest).map fun power => ⟨digits, power - fraction.length⟩
        else none

/-- The float nearest to the number. Magnitudes far outside the range of floats are settled by
their leading power alone. -/
def Parts.round (parts : Parts) : Float :=
  let digits := parts.digits.dropWhile (· == '0')
  let leading := parts.power + digits.length
  if digits.isEmpty || leading < -400 then 0.0
  else if 400 < leading then Float.ofBits 0x7ff0000000000000
  else
    Float.ofScientific (Nat.ofDigitChars 10 digits 0) (parts.power < 0) parts.power.natAbs

def readMagnitude? (text : List Char) : Option Float :=
  let word := String.ofList (text.map Char.toLower)
  if word = "inf" || word = "infinity" then some (Float.ofBits 0x7ff0000000000000)
  else if word = "nan" then some (Float.ofBits 0x7ff8000000000000)
  else (readParts? text).map Parts.round

def readFloat? : List Char → Option Float
  | '-' :: text => (readMagnitude? text).map fun value => -value
  | '+' :: text => readMagnitude? text
  | text => readMagnitude? text

end Templating.Decimal
