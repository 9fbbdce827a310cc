import Mathlib.Data.List.TakeWhile
import Templating.Json.Number
import Templating.Json.Writing
import Templating.Proofs.Decimal.Numeral

/-!
# Whole numbers come back

A number without point and exponent is written with digits alone, after a minus sign if it is
negative. The digits have no leading zero and fit the word that they are gathered into, so reading
them gives the number, and neither its sign nor its kind changes.
-/

namespace Templating.Json

/-- Numbers as integers have them: no float, and the negative ones below zero. -/
def Number.Whole : Number → Prop
  | natural _ => True
  | negative value => value < 0
  | float _ => False

/-! ## Digits -/

/-- Only zero is written with a zero in front. -/
theorem eq_zero_of_head?_writeNat {value : Nat}
    (leading : (Decimal.writeNat value).head? = some '0') : value = 0 := by
  induction value using Nat.strongRecOn with
  | ind value ih =>
      rw [Decimal.writeNat, Nat.toDigits_eq_if (by decide)] at leading
      split at leading
      next => simpa using leading
      next large =>
        rw [List.head?_append_of_ne_nil _ Nat.toDigits_ne_nil] at leading
        have := ih (value / 10) (by omega) leading
        omega

/-- A zero in front stands alone. -/
theorem length_writeNat_of_head? (value : Nat)
    (leading : (Decimal.writeNat value).head? = some '0') :
    (Decimal.writeNat value).length ≤ 1 := by
  rw [eq_zero_of_head?_writeNat leading]
  decide

theorem le_ofDigitChars (word : Nat) (digits : List Char) :
    word ≤ Nat.ofDigitChars 10 digits word := by
  induction digits generalizing word with
  | nil => exact Nat.le_refl word
  | cons c rest ih =>
      rw [Nat.ofDigitChars_cons]
      have := ih (10 * word + (c.toNat - '0'.toNat))
      omega

/-- A word takes in all digits of a number that it holds. -/
theorem gather_of_lt {digits : List Char} {word : Nat}
    (fits : Nat.ofDigitChars 10 digits word < UInt64.size) :
    gather word digits = (Nat.ofDigitChars 10 digits word, []) := by
  induction digits generalizing word with
  | nil => rfl
  | cons c rest ih =>
      have step : 10 * word + (c.toNat - '0'.toNat) = word * 10 + digitValue c := by
        rw [Nat.mul_comm]
        rfl
      rw [Nat.ofDigitChars_cons, step] at fits ⊢
      rw [gather, if_pos (Nat.lt_of_le_of_lt (le_ofDigitChars _ rest) fits), ih fits]

theorem gather_writeNat {value : Nat} (fits : value < UInt64.size) :
    gather 0 (Decimal.writeNat value) = (value, []) := by
  have same : Nat.ofDigitChars 10 (Decimal.writeNat value) 0 = value :=
    Nat.ofDigitChars_toDigits (by decide) (by decide)
  rw [gather_of_lt (by rwa [same]), same]

/-! ## Numerals -/

theorem takeWhile_writeNat (value : Nat) :
    (Decimal.writeNat value).takeWhile Char.isDigit = Decimal.writeNat value :=
  List.takeWhile_eq_self_iff.mpr fun _ member => Decimal.isDigit_of_mem_writeNat member

theorem dropWhile_writeNat (value : Nat) :
    (Decimal.writeNat value).dropWhile Char.isDigit = [] :=
  List.dropWhile_eq_nil_iff.mpr fun _ member => Decimal.isDigit_of_mem_writeNat member

theorem numeral?_writeNat (value : Nat) :
    numeral? (Decimal.writeNat value) = some ⟨false, Decimal.writeNat value, none, none⟩ := by
  have takes := takeWhile_writeNat value
  have drops := dropWhile_writeNat value
  have shortest := length_writeNat_of_head? value
  have digits : ∀ c ∈ Decimal.writeNat value, c ≠ '-' := by
    rintro c member rfl
    exact absurd (Decimal.isDigit_of_mem_writeNat member) (by decide)
  cases equal : Decimal.writeNat value with
  | nil => exact absurd equal (Decimal.writeNat_ne_nil value)
  | cons c rest =>
      rw [equal] at takes drops shortest digits
      have unsigned := digits c List.mem_cons_self
      simpa [numeral?, unsigned, takes, drops, splitExponent?] using shortest

theorem numeral?_minus (value : Nat) :
    numeral? ('-' :: Decimal.writeNat value) = some ⟨true, Decimal.writeNat value, none, none⟩ := by
  have shortest := length_writeNat_of_head? value
  simpa [numeral?, takeWhile_writeNat, dropWhile_writeNat, Decimal.writeNat_ne_nil,
    splitExponent?] using shortest

theorem number?_natural (value : UInt64) :
    number? (Number.natural value).write = some (.natural value) := by
  have taken := gather_writeNat value.toNat_lt
  rw [Number.write, number?, numeral?_writeNat, Option.bind_some]
  simp [Numeral.value?, taken]

theorem number?_negative {value : Int64} (below : value < 0) :
    number? (Number.negative value).write = some (.negative value) := by
  have range := Int64.minValue_le_toInt value
  have sign : value.toInt < 0 := Int64.lt_iff_toInt_lt.mp below
  rw [Number.write]
  cases shape : value.toInt with
  | ofNat magnitude => rw [shape] at sign; exact absurd sign (by simp)
  | negSucc before =>
      have small : before + 1 ≤ UInt64.size / 2 := by
        have least : Int64.minValue.toInt = -2 ^ 63 := rfl
        have half : UInt64.size / 2 = 2 ^ 63 := rfl
        omega
      have taken : gather 0 (Decimal.writeNat (before + 1)) = (before + 1, []) :=
        gather_writeNat (Nat.lt_of_le_of_lt small (by decide))
      have back : Int64.ofInt (-((before + 1 : Nat) : Int)) = value := by
        rw [← Int64.ofInt_toInt value, shape]
        rfl
      have read : Numeral.value? ⟨true, Decimal.writeNat (before + 1), none, none⟩ =
          some (.negative (Int64.ofInt (-((before + 1 : Nat) : Int)))) := by
        simp [Numeral.value?, taken, Nat.not_lt.mpr small]
      rw [Decimal.writeInteger, number?, numeral?_minus, Option.bind_some, read, back]

theorem number?_write {number : Number} (whole : number.Whole) :
    number? number.write = some number := by
  cases number with
  | natural value => exact number?_natural value
  | negative value => exact number?_negative whole
  | float value => exact whole.elim

end Templating.Json
