import Templating.Decimal.Integer

/-!
# The shortest digits of a binary number

A finite 64-bit float is `mantissa * 2 ^ exponent`. The reals that round to it form an interval,
which includes its ends exactly when the mantissa is even. The shortest digits are those of a
point of the coarsest decimal grid that meets the interval, and of two such points the nearer one.
-/

namespace Templating.Decimal

/-- A positive binary number. `narrowBelow` says that the gap to the next smaller float is half of
the gap to the next larger one. -/
structure Binary where
  mantissa : Nat
  exponent : Int
  narrowBelow : Bool

/-- What the bits of a float say, next to its sign. -/
inductive FloatKind where
  | notANumber
  | infinite
  | zero
  | finite (binary : Binary)

def isNegative (value : Float) : Bool := UInt64.size / 2 ≤ value.toBits.toNat

/-- One more than the largest fraction. -/
def fractionLimit : Nat := 0x10000000000000

/-- Takes the bits apart: 52 bits of fraction, 11 bits of exponent. -/
def kindOf (value : Float) : FloatKind :=
  let bits : Nat := value.toBits.toNat
  let fraction : Nat := bits % fractionLimit
  let field : Nat := bits / fractionLimit % 2048
  if field = 2047 then
    if fraction = 0 then .infinite else .notANumber
  else if field = 0 then
    if fraction = 0 then .zero else .finite ⟨fraction, -1074, false⟩
  else .finite ⟨fractionLimit + fraction, (field : Int) - 1075, fraction = 0 && field ≠ 1⟩

/-- Which of two equally near points is taken. -/
inductive Tie where
  | up
  | even
  deriving DecidableEq

namespace Binary

/-- The power of ten of the leading digit. -/
def leadingPower (binary : Binary) : Int :=
  let above := binary.mantissa * Nat.pow 2 binary.exponent.toNat
  let below := Nat.pow 2 (-binary.exponent).toNat
  if below ≤ above then ((writeNat (above / below)).length : Int) - 1
  else -((writeNat ((above + below - 1 - above) / above)).length : Int)

/-- The chosen multiple of `10 ^ power` in the interval of the number. All lengths are counted in
quarters of the gap above, over a common denominator. -/
def onGrid? (tie : Tie) (binary : Binary) (power : Int) : Option Nat :=
  let step := Nat.pow 10 power.toNat * Nat.pow 2 (2 - binary.exponent).toNat
  let quarter := Nat.pow 2 (binary.exponent - 2).toNat * Nat.pow 10 (-power).toNat
  let centre := 4 * binary.mantissa * quarter
  let low := (4 * binary.mantissa - if binary.narrowBelow then 1 else 2) * quarter
  let high := (4 * binary.mantissa + 2) * quarter
  let inside := fun point =>
    if binary.mantissa % 2 = 0 then low ≤ point && point ≤ high else low < point && point < high
  let lower := centre / step
  let upper := lower + 1
  let below := centre - lower * step
  let above := upper * step - centre
  match inside (lower * step), inside (upper * step) with
  | false, false => none
  | true, false => some lower
  | false, true => some upper
  | true, true =>
      if below < above then some lower
      else if above < below then some upper
      else if tie = .up || lower % 2 = 1 then some upper else some lower

end Binary

/-- A positive decimal number `significand * 10 ^ power`. -/
structure Scaled where
  significand : Nat
  power : Int

/-- Moves the zeros at the end of the significand into the power. -/
def Scaled.normal (number : Scaled) : Scaled :=
  let digits := (writeNat number.significand).reverse
  let zeros := (digits.takeWhile (· == '0')).length
  ⟨number.significand / Nat.pow 10 zeros, number.power + zeros⟩

/-- The first hit on the grids of `count`, ..., seventeen digits. -/
def shortestFrom (tie : Tie) (binary : Binary) (leading : Int) : Nat → Scaled
  | 0 => ⟨binary.mantissa, 0⟩
  | left + 1 =>
      let power := leading - 17 + (left + 1)
      match binary.onGrid? tie power with
      | some significand => ⟨significand, power⟩
      | none => shortestFrom tie binary leading left

def shortest (tie : Tie) (binary : Binary) : Scaled :=
  (shortestFrom tie binary binary.leadingPower 17).normal

end Templating.Decimal
