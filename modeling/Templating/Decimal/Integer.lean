/-!
# Integers in decimal

An integer is written with its shortest digits and a minus sign when it is negative. The readers
take an optional sign and at least one digit; leading zeros are allowed, anything else is refused.
-/

namespace Templating.Decimal

/-- The number that a non-empty run of decimal digits stands for. -/
def readDigits? (digits : List Char) : Option Nat :=
  if digits.isEmpty || !digits.all Char.isDigit then none
  else some (Nat.ofDigitChars 10 digits 0)

/-- An integer with an optional sign. -/
def readInteger? : List Char → Option Int
  | '-' :: digits => (readDigits? digits).map fun value => -(value : Int)
  | '+' :: digits => (readDigits? digits).map Int.ofNat
  | digits => (readDigits? digits).map Int.ofNat

/-- The word for `value` when it lies in the range of signed 64-bit words. -/
def int64? (value : Int) : Option Int64 :=
  if Int64.minValue.toInt ≤ value ∧ value ≤ Int64.maxValue.toInt then some (Int64.ofInt value)
  else none

def readInt64? (text : List Char) : Option Int64 := (readInteger? text).bind int64?

/-- A list position: an unsigned 64-bit number, with an optional plus sign. -/
def readIndex? (text : List Char) : Option Nat :=
  let digits := match text with
    | '+' :: digits => digits
    | digits => digits
  (readDigits? digits).filter (· < UInt64.size)

def writeNat (value : Nat) : List Char := Nat.toDigits 10 value

def writeInteger : Int → List Char
  | .ofNat value => writeNat value
  | .negSucc value => '-' :: writeNat (value + 1)

/-- Digits in front of which zeros fill up to `width` places. -/
def padded (width value : Nat) : List Char :=
  let digits := writeNat value
  List.replicate (width - digits.length) '0' ++ digits

theorem readDigits?_writeNat (value : Nat) : readDigits? (writeNat value) = some value := by
  have digits : ∀ c ∈ Nat.toDigits 10 value, c.isDigit = true := fun c member =>
    Nat.isDigit_of_mem_toDigits (by decide) (by decide) member
  have nonempty : (Nat.toDigits 10 value).isEmpty = false := by
    cases equal : Nat.toDigits 10 value with
    | nil => exact absurd equal Nat.toDigits_ne_nil
    | cons => rfl
  have every : (Nat.toDigits 10 value).all Char.isDigit = true := List.all_eq_true.mpr digits
  simp [readDigits?, writeNat, nonempty, every,
    Nat.ofDigitChars_toDigits (b := 10) (n := value) (by decide) (by decide)]

end Templating.Decimal
