import Templating.Proofs.Binary64.Overflow

/-!
# Floats of decimal numbers

A float made from `digits * 10 ^ power` is finite as long as the number is below the limit. There
are two ways to make it: a short number times or through a small power of ten, both of them floats
already, is never near the limit; any other number is a product or a quotient of integers that is
rounded once.
-/

namespace Templating.Binary64

open Float.Model (Format UnpackedFloat totalExponent)
open Float.Model.UnpackedFloat

/-! ## Short numbers -/

/-- Neither zero nor far from one. -/
def moderate : UnpackedFloat → Bool
  | .finite _ mantissa exponent _ => mantissa < 2 ^ 53 && -52 ≤ exponent && exponent ≤ 22
  | _ => false

theorem moderate_iff {sign : Sign} {mantissa : Nat} {exponent : Int} {nonzero : 0 < mantissa} :
    moderate (.finite sign mantissa exponent nonzero) = true ↔
      mantissa < 2 ^ 53 ∧ -52 ≤ exponent ∧ exponent ≤ 22 := by
  simp only [moderate, Bool.and_eq_true, decide_eq_true_eq, and_assoc]

theorem moderate_powerOfTen : ∀ power : Fin 23,
    moderate (Float.exactlyRepresentablePowersOfTen[power].toModel.unpack) = true := by
  decide +kernel

variable {value : Int} {left right : UnpackedFloat}

theorem isFinite_mul (holds : Holds value left) (bounded : moderate right = true) :
    (Float.Model.pack (UnpackedFloat.mul Format.binary64 left right)).unpack.isFinite = true := by
  cases right with
  | finite otherSign other place otherNonzero =>
      obtain ⟨less, -, high⟩ := moderate_iff.mp bounded
      cases holds with
      | zero =>
          rw [UnpackedFloat.mul]
          cases otherSign <;> rfl
      | @finite sign mantissa shift full range nonzero =>
          have product : mantissa * other < 2 ^ (105 + 1) :=
            calc mantissa * other < 2 ^ 53 * 2 ^ 53 := Nat.mul_lt_mul'' full.2 less
              _ = 2 ^ (105 + 1) := (Nat.pow_add 2 53 53).symm
          have length := log2_le_of_lt product
          exact isFinite_round_of_small _ .exact (by omega) (by omega)
  | zero => cases bounded
  | infinity => cases bounded
  | notANumber => cases bounded

/-- A quotient has as many bits more than its places as the dividend has more than the divisor. -/
theorem isFinite_div_of_lt (sign otherSign : Sign) {mantissa other bits : Nat}
    {exponent place : Int} (nonzero : 0 < mantissa) (otherNonzero : 0 < other)
    (less : mantissa < 2 ^ (bits + 1) * other) (small : bits + (exponent - place) ≤ 1022)
    (low : min (exponent - place) (Format.binary64.targetExponent
      (totalExponent mantissa exponent - totalExponent other place)) ≤ 970) :
    (Float.Model.pack (UnpackedFloat.div Format.binary64
      (.finite sign mantissa exponent nonzero)
      (.finite otherSign other place otherNonzero))).unpack.isFinite = true := by
  rw [UnpackedFloat.div, divCore]
  dsimp only
  generalize target_eq : min _ (Format.binary64.targetExponent _) = target at low ⊢
  generalize shift_eq : Int.toNat (_ - target) = more
  have quotient : mantissa <<< more / other < 2 ^ (bits + more + 1) := by
    rw [Nat.div_lt_iff_lt_mul otherNonzero, Nat.shiftLeft_eq]
    calc mantissa * 2 ^ more < 2 ^ (bits + 1) * other * 2 ^ more :=
          Nat.mul_lt_mul_of_pos_right less (Nat.two_pow_pos more)
      _ = 2 ^ (bits + more + 1) * other := by
          rw [Nat.mul_right_comm, ← Nat.pow_add, Nat.add_right_comm]
  have length := log2_le_of_lt quotient
  exact isFinite_round_of_small _ _ (by omega) low

theorem isFinite_div (holds : Holds value left) (bounded : moderate right = true) :
    (Float.Model.pack (UnpackedFloat.div Format.binary64 left right)).unpack.isFinite = true := by
  cases right with
  | finite otherSign other place otherNonzero =>
      obtain ⟨-, low, -⟩ := moderate_iff.mp bounded
      cases holds with
      | zero =>
          rw [UnpackedFloat.div]
          cases otherSign <;> rfl
      | @finite sign mantissa shift full range nonzero =>
          have less : mantissa < 2 ^ 53 * other :=
            full.2.trans_le (Nat.le_mul_of_pos_right _ otherNonzero)
          exact isFinite_div_of_lt _ _ nonzero otherNonzero less (by omega) (by omega)
  | zero => cases bounded
  | infinity => cases bounded
  | notANumber => cases bounded

/-! ## Any numbers -/

theorem isFinite_product (digits power : Nat) (nonzero : 0 < digits <<< 53) (positive : 0 < 10 ^ power) :
    (Float.Model.pack (UnpackedFloat.mul Format.binary64
      (.finite .positive (digits <<< 53) (-53) nonzero)
      (.finite .positive (10 ^ power) 0 positive))).unpack.isFinite =
      decide (digits * 10 ^ power < limit) := by
  have round := isFinite_round (.positive * .positive) (digits <<< 53 * 10 ^ power) .exact
    (show 53 ≤ 1074 by decide)
  rw [UnpackedFloat.mul]
  refine round.trans ?_
  rw [decide_eq_decide, Nat.shiftLeft_eq, Nat.mul_right_comm,
    Nat.mul_lt_mul_right (Nat.two_pow_pos 53)]

theorem isFinite_quotient (digits power : Nat) (nonzero : 0 < digits) (positive : 0 < 10 ^ power) :
    (Float.Model.pack (UnpackedFloat.div Format.binary64 (.finite .positive digits 0 nonzero)
      (.finite .positive (10 ^ power) 0 positive))).unpack.isFinite =
      decide (digits < limit * 10 ^ power) := by
  obtain ⟨places, few, target⟩ : ∃ places : Nat, places ≤ 1074 ∧
      min (0 - 0) (Format.binary64.targetExponent
        (totalExponent digits 0 - totalExponent (10 ^ power) 0)) = -(places : Int) := by
    refine ⟨(min (0 - 0) (Format.binary64.targetExponent
      (totalExponent digits 0 - totalExponent (10 ^ power) 0))).natAbs, ?_, ?_⟩
    all_goals
      rw [Format.targetExponent]
      have least : Format.binary64.minExponent = -1074 := rfl
      omega
  have shift : ((0 : Int) - 0 - -(places : Int)).toNat = places := by omega
  rw [UnpackedFloat.div, divCore, target, shift]
  refine (isFinite_round _ _ _ few).trans ?_
  rw [decide_eq_decide, Nat.shiftLeft_eq, Nat.div_lt_iff_lt_mul positive, Nat.mul_right_comm]
  exact Nat.mul_lt_mul_right (Nat.two_pow_pos places)

theorem isFinite_model_ofScientific (digits : Nat) (power : Int) :
    (Float.Model.ofScientific digits power).unpack.isFinite =
      decide (digits * 10 ^ power.toNat < limit * 10 ^ (-power).toNat) := by
  have width : (2 : Int) ^ Format.binary64.exponentBits = 2048 := rfl
  change (Float.Model.pack
    (UnpackedFloat.ofScientific Format.binary64 digits power)).unpack.isFinite = _
  rw [UnpackedFloat.ofScientific, width]
  by_cases zero : digits = 0
  · rw [dif_pos zero, zero, Nat.zero_mul]
    exact (decide_eq_true (Nat.mul_pos limit_pos (Nat.pow_pos (by decide)))).symm
  rw [dif_neg zero]
  by_cases huge : power > 2048
  · have none : (-power).toNat = 0 := by omega
    have enough : limit ≤ digits * 10 ^ power.toNat :=
      calc limit ≤ 2 ^ power.toNat := (middle_lt_two_pow (by omega)).le
        _ ≤ 10 ^ power.toNat := Nat.pow_le_pow_left (by decide) _
        _ ≤ digits * 10 ^ power.toNat := Nat.le_mul_of_pos_left _ (Nat.pos_of_ne_zero zero)
    rw [if_pos huge, none, Nat.pow_zero, Nat.mul_one]
    exact (decide_eq_false (Nat.not_lt.mpr enough)).symm
  rw [if_neg huge]
  by_cases tiny : power < -(2048 + digits.log2)
  · have none : power.toNat = 0 := by omega
    have enough : digits < limit * 10 ^ (-power).toNat :=
      calc digits < 2 ^ (digits.log2 + 1) := Nat.lt_log2_self
        _ ≤ 2 ^ (-power).toNat := Nat.pow_le_pow_right (by decide) (by omega)
        _ ≤ 10 ^ (-power).toNat := Nat.pow_le_pow_left (by decide) _
        _ ≤ limit * 10 ^ (-power).toNat := Nat.le_mul_of_pos_left _ limit_pos
    rw [if_pos tiny, none, Nat.pow_zero, Nat.mul_one]
    exact (decide_eq_true enough).symm
  rw [if_neg tiny]
  by_cases whole : 0 ≤ power
  · have none : (-power).toNat = 0 := by omega
    rw [if_pos whole, none, Nat.pow_zero, Nat.mul_one]
    exact isFinite_product digits power.toNat _ _
  · have none : power.toNat = 0 := by omega
    rw [if_neg whole, none, Nat.pow_zero, Nat.mul_one]
    exact isFinite_quotient digits (-power).toNat _ _

/-- The float made from a decimal number is finite if and only if the number is below the limit. -/
theorem isFinite_ofScientific (digits : Nat) (power : Int) :
    (Float.ofScientific digits (power < 0) power.natAbs).isFinite =
      decide (digits * 10 ^ power.toNat < limit * 10 ^ (-power).toNat) := by
  unfold Float.ofScientific
  by_cases short : digits < 2 ^ 53 ∧ power.natAbs ≤ 22
  · have below : digits * 10 ^ power.toNat < limit * 10 ^ (-power).toNat :=
      calc digits * 10 ^ power.toNat < 2 ^ 53 * 10 ^ 22 :=
            Nat.mul_lt_mul_of_lt_of_le short.1 (Nat.pow_le_pow_right (by decide) (by omega))
              (by decide)
        _ ≤ 2 ^ 127 := by decide
        _ ≤ limit := two_pow_le_middle (by decide)
        _ ≤ limit * 10 ^ (-power).toNat := Nat.le_mul_of_pos_right _ (Nat.pow_pos (by decide))
    have divisor := moderate_powerOfTen ⟨power.natAbs, by omega⟩
    have number := holds_ofUInt64 digits.toUInt64
    rw [dif_pos short, decide_eq_true below]
    by_cases fraction : power < 0
    · rw [decide_eq_true fraction]
      exact isFinite_div number divisor
    · rw [decide_eq_false fraction]
      exact isFinite_mul number divisor
  · have exponent : (if decide (power < 0) = true then Int.negOfNat power.natAbs
        else Int.ofNat power.natAbs) = power := by
      by_cases fraction : power < 0
      · rw [decide_eq_true fraction, if_pos rfl, Int.negOfNat_eq]
        change -(power.natAbs : Int) = power
        omega
      · rw [decide_eq_false fraction, if_neg Bool.false_ne_true]
        change (power.natAbs : Int) = power
        omega
    rw [dif_neg short]
    dsimp only
    rw [exponent]
    exact isFinite_model_ofScientific digits power

end Templating.Binary64
