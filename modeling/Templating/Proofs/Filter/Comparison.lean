import Templating.Filter.Logic
import Templating.Proofs.Binary64.Integer

/-!
# Comparing integers

The comparing filters see an integer as a float. So they compare what rounding to 53 bits makes of
integers: up to `2 ^ 53` the integers themselves, and beyond never in the wrong order, but integers
that round to the same float count as equal.
-/

namespace Templating.Filter

open Binary64 (Holds Full rounded)
open Float.Model (UnpackedFloat)

variable {first second : Int} {left right : Float.Model}

theorem lt_iff_unpack {left right : Float} :
    left < right ↔ left.toModel.unpack.lt right.toModel.unpack = true := by
  change decide (left.toModel < right.toModel) = true ↔ _
  exact decide_eq_true_iff

theorem unpack_abs_sub (left right : Float.Model) :
    (Float.ofModel left - Float.ofModel right).abs.toModel.unpack =
      (Float.Model.pack (Float.Model.pack
        (UnpackedFloat.sub .binary64 left.unpack right.unpack)).unpack.abs).unpack := rfl

theorem lt_iff (holdsLeft : Holds first left.unpack) (holdsRight : Holds second right.unpack) :
    Float.ofModel left < Float.ofModel right ↔ first < second := by
  rw [lt_iff_unpack, holdsLeft.lt_eq holdsRight, decide_eq_true_iff]

/-- Floats of integers that differ do so by more than the tolerance. -/
theorem near_iff (holdsLeft : Holds first left.unpack) (holdsRight : Holds second right.unpack) :
    (Float.ofModel left - Float.ofModel right).abs < tolerance ↔ first = second := by
  obtain ⟨same, different⟩ := holdsLeft.sub holdsRight
  rw [lt_iff_unpack, unpack_abs_sub]
  by_cases equal : first = second
  · rw [same equal]
    exact iff_of_true rfl equal
  · obtain ⟨sign, mantissa, shift, nonzero, result, full, range⟩ := different equal
    have unit : tolerance.toModel.unpack =
        .finite .positive (2 ^ 52) (((0 : Nat) : Int) - 104) (by decide) := rfl
    have fullUnit : Full (2 ^ 52) := ⟨by decide, by decide⟩
    have far : 2 ^ 52 * 2 ^ 0 ≤ mantissa * 2 ^ shift :=
      Nat.mul_le_mul full.1 (Nat.one_le_two_pow)
    rw [result, Binary64.unpack_pack full nonzero (by omega) (by omega),
      UnpackedFloat.abs, Binary64.unpack_pack full nonzero (by omega) (by omega), unit,
      Binary64.lt_finite .positive .positive full fullUnit nonzero fullUnit.pos 104,
      decide_eq_true_iff]
    refine iff_of_false (Int.not_lt.mpr ?_) equal
    exact Int.ofNat_le.mpr far

theorem equal_int (a b : Int64) :
    equal (.int a) [.int b] = .ok (.bool (rounded a.toInt = rounded b.toInt)) := by
  have near := near_iff (Binary64.holds_ofInt64 a) (Binary64.holds_ofInt64 b)
  rw [Int.mul_eq_mul_right_iff (by decide)] at near
  have answer : equal (.int a) [.int b] = .ok (.bool
      ((Float.ofModel (.ofInt64 a) - Float.ofModel (.ofInt64 b)).abs < tolerance)) := rfl
  rw [answer, decide_eq_decide.mpr near]

theorem greater_int (a b : Int64) :
    greater (.int a) [.int b] = .ok (.bool (rounded b.toInt < rounded a.toInt)) := by
  have order := lt_iff (Binary64.holds_ofInt64 b) (Binary64.holds_ofInt64 a)
  rw [Int.mul_lt_mul_right (by decide)] at order
  have answer : greater (.int a) [.int b] =
      .ok (.bool (Float.ofModel (.ofInt64 b) < Float.ofModel (.ofInt64 a))) := rfl
  rw [answer, decide_eq_decide.mpr order]

/-- Integers are compared as what they round to. So up to `2 ^ 53` they are compared exactly, and
beyond no integer counts as greater than one that is at least as great. -/
theorem int_comparison_rounds (a b : Int64) :
    equal (.int a) [.int b] = .ok (.bool (rounded a.toInt = rounded b.toInt)) ∧
    greater (.int a) [.int b] = .ok (.bool (rounded b.toInt < rounded a.toInt)) ∧
    (a.toInt.natAbs ≤ 2 ^ 53 → b.toInt.natAbs ≤ 2 ^ 53 →
      equal (.int a) [.int b] = .ok (.bool (a = b)) ∧
      greater (.int a) [.int b] = .ok (.bool (b < a))) ∧
    (a ≤ b → greater (.int a) [.int b] = .ok (.bool false)) := by
  refine ⟨equal_int a b, greater_int a b, fun small smallOther => ⟨?_, ?_⟩, fun ordered => ?_⟩
  · have same : decide (a.toInt = b.toInt) = decide (a = b) :=
      decide_eq_decide.mpr Int64.toInt_inj
    rw [equal_int, Binary64.rounded_of_natAbs_le small, Binary64.rounded_of_natAbs_le smallOther,
      same]
  · have same : decide (b.toInt < a.toInt) = decide (b < a) :=
      decide_eq_decide.mpr Int64.lt_iff_toInt_lt.symm
    rw [greater_int, Binary64.rounded_of_natAbs_le small, Binary64.rounded_of_natAbs_le smallOther,
      same]
  · have kept := Binary64.rounded_mono (Int64.le_iff_toInt_le.mp ordered)
    rw [greater_int, decide_eq_false (Int.not_lt.mpr kept)]

theorem int_comparison_rounds_last :
    let a : Int64 := 9007199254740991
    let b : Int64 := 9007199254740992
    (equal (.int a) [.int b] = .ok (.bool false) ∧
      greater (.int b) [.int a] = .ok (.bool true)) ∧
    greater (.int a) [.int b] = .ok (.bool false) := by
  intro a b
  have below : a < b := by decide
  have distinct : a ≠ b := by decide
  have forward := (int_comparison_rounds a b).2.2.1 (by decide) (by decide)
  have backward := (int_comparison_rounds b a).2.2.1 (by decide) (by decide)
  have never := (int_comparison_rounds a b).2.2.2 (by decide)
  rw [decide_eq_false distinct] at forward
  rw [decide_eq_true below] at backward
  exact ⟨⟨forward.1, backward.2⟩, never⟩

/-- The first integer that no float holds counts as equal to the one before it, and so does not
count as greater. -/
theorem not_forall_int_comparison_exact :
    (¬ ∀ a b : Int64, equal (.int a) [.int b] = .ok (.bool (a = b))) ∧
    ¬ ∀ a b : Int64, greater (.int a) [.int b] = .ok (.bool (b < a)) := by
  have collapsed : rounded (9007199254740993 : Int64).toInt =
      rounded (9007199254740992 : Int64).toInt := by decide +kernel
  have below : (9007199254740992 : Int64) < 9007199254740993 := by decide
  have distinct : (9007199254740993 : Int64) ≠ 9007199254740992 := by decide
  constructor
  · intro every
    have claimed := every 9007199254740993 9007199254740992
    rw [equal_int, decide_eq_true collapsed, decide_eq_false distinct] at claimed
    cases claimed
  · intro every
    have claimed := every 9007199254740993 9007199254740992
    rw [greater_int, collapsed, decide_eq_false (Int.lt_irrefl _), decide_eq_true below] at claimed
    cases claimed

end Templating.Filter
