import Mathlib
import Templating.Proofs.Binary64.Nearest

/-!
# Rounding as floats do it

A mantissa is shifted to the right bit by bit; two more bits keep what is needed of those that
fall out. The mantissa that is rounded in the end is the nearest one, so a float is made from the
first 53 bits of a number, rounded to the nearest.
-/

namespace Templating.Binary64

open Float.Model (Format UnpackedFloat totalExponent)
open Float.Model.UnpackedFloat

/-! ## Shifting -/

/-- The mantissa is `value` without its last bits; the first of them is the round bit, and the
sticky bit tells whether another one is set. -/
structure Cut (value bits : Nat) (extended : ExtendedMantissa) : Prop where
  mantissa : extended.mantissa = value / 2 ^ bits
  roundBit : extended.roundBit = true ↔ 2 ^ bits ≤ 2 * (value % 2 ^ bits)
  stickyBit : extended.stickyBit = true ↔
    2 * (value % 2 ^ bits) ≠ 0 ∧ 2 * (value % 2 ^ bits) ≠ 2 ^ bits

namespace Cut

variable {value bits : Nat} {extended : ExtendedMantissa}

theorem start (value : Nat) : Cut value 0 (.ofMantissaAndAccuracy value .exact) := by
  constructor <;> simp [ExtendedMantissa.ofMantissaAndAccuracy, Nat.mod_one]

/-- One more bit falls out; it becomes the round bit, and the old one counts for the sticky bit. -/
theorem shiftRightOne (cut : Cut value bits extended) :
    Cut value (bits + 1) extended.shiftRightOne := by
  have next : value % 2 ^ (bits + 1) = value % 2 ^ bits + 2 ^ bits * (value / 2 ^ bits % 2) :=
    Nat.mod_pow_succ
  have power : 2 ^ (bits + 1) = 2 * 2 ^ bits := Nat.pow_succ'
  have rest : value % 2 ^ bits < 2 ^ bits := Nat.mod_lt value (Nat.two_pow_pos bits)
  have sticky : (extended.roundBit || extended.stickyBit) = true ↔ value % 2 ^ bits ≠ 0 := by
    rw [Bool.or_eq_true, cut.roundBit, cut.stickyBit]
    omega
  have shifted : extended.shiftRightOne.mantissa = value / 2 ^ (bits + 1) := by
    rw [ExtendedMantissa.shiftRightOne, cut.mantissa, Nat.div_div_eq_div_mul, Nat.pow_succ]
  rcases Nat.mod_two_eq_zero_or_one (value / 2 ^ bits) with even | odd
  · refine ⟨shifted, ?_, ?_⟩
    · rw [next, power, ExtendedMantissa.shiftRightOne, cut.mantissa, even]
      refine iff_of_false Bool.false_ne_true ?_
      omega
    · rw [next, power, ExtendedMantissa.shiftRightOne, sticky, even]
      omega
  · refine ⟨shifted, ?_, ?_⟩
    · rw [next, power, ExtendedMantissa.shiftRightOne, cut.mantissa, odd]
      refine iff_of_true rfl ?_
      omega
    · rw [next, power, ExtendedMantissa.shiftRightOne, sticky, odd]
      omega

theorem shiftRight (cut : Cut value bits extended) (more : Nat) :
    Cut value (bits + more) (extended >>> more) := by
  induction more with
  | zero => exact cut
  | succ more ih => exact ih.shiftRightOne

/-- Nothing is known of the bits that fell out but how they compare with the half: two bits are
enough to stand for them. -/
theorem exists_start (value : Nat) (accuracy : Accuracy) :
    ∃ rest < 4, Cut (4 * value + rest) 2 (.ofMantissaAndAccuracy value accuracy) := by
  have cut : ∀ {rest : Nat} {round sticky : Bool}, rest < 4 → (round = true ↔ 2 ≤ rest) →
      (sticky = true ↔ rest % 2 = 1) → Cut (4 * value + rest) 2 ⟨value, round, sticky⟩ := by
    intro rest round sticky less roundBit stickyBit
    refine ⟨?_, roundBit.trans (by omega), stickyBit.trans (by omega)⟩
    change value = (4 * value + rest) / 4
    omega
  cases accuracy with
  | exact => exact ⟨0, by decide, cut (by decide) (by decide) (by decide)⟩
  | inexact order =>
      cases order with
      | lt => exact ⟨1, by decide, cut (by decide) (by decide) (by decide)⟩
      | eq => exact ⟨2, by decide, cut (by decide) (by decide) (by decide)⟩
      | gt => exact ⟨3, by decide, cut (by decide) (by decide) (by decide)⟩

theorem roundedMantissa (cut : Cut value bits extended) :
    extended.roundedMantissa = nearest value bits := by
  obtain ⟨mantissa, round, sticky⟩ := extended
  have whole : mantissa = value / 2 ^ bits := cut.mantissa
  have roundBit : round = true ↔ 2 ^ bits ≤ 2 * (value % 2 ^ bits) := cut.roundBit
  have stickyBit : sticky = true ↔
    2 * (value % 2 ^ bits) ≠ 0 ∧ 2 * (value % 2 ^ bits) ≠ 2 ^ bits := cut.stickyBit
  have positive := Nat.two_pow_pos bits
  unfold nearest
  rw [← whole]
  cases round <;> cases sticky <;>
    simp only [Bool.false_eq_true, false_iff, true_iff] at roundBit stickyBit
  · change mantissa = _
    dsimp only
    split_ifs <;> omega
  · change mantissa = _
    dsimp only
    split_ifs <;> omega
  · change mantissa + mantissa % 2 = _
    dsimp only
    split_ifs <;> omega
  · change mantissa + 1 = _
    dsimp only
    split_ifs <;> omega

end Cut

/-! ## Rounding -/

/-- A mantissa of 53 bits. -/
def Full (mantissa : Nat) : Prop := 2 ^ 52 ≤ mantissa ∧ mantissa < 2 ^ 53

theorem Full.pos {mantissa : Nat} (full : Full mantissa) : 0 < mantissa :=
  Nat.lt_of_lt_of_le (by decide) full.1

theorem Full.log2_eq {mantissa : Nat} (full : Full mantissa) : mantissa.log2 = 52 :=
  (Nat.log2_eq_iff full.pos.ne').mpr full

theorem targetExponent_eq (value : Nat) (exponent : Int) :
    Format.binary64.targetExponent (totalExponent value exponent) =
      max (value.log2 - 52 + exponent) (-1074) := by
  simp only [Format.targetExponent, totalExponent, Format.mantissaBits, Format.minExponent]
  omega

theorem shiftToTargetExponent_full {mantissa : Nat} (full : Full mantissa) {exponent : Int}
    (normal : -1074 ≤ exponent) :
    shiftToTargetExponent Format.binary64 mantissa exponent .exact =
      (.ofMantissaAndAccuracy mantissa .exact, exponent) := by
  have none : (Format.binary64.targetExponent (totalExponent mantissa exponent) -
      exponent).toNat = 0 := by
    rw [targetExponent_eq, full.log2_eq]
    omega
  rw [shiftToTargetExponent, shiftToExponent, none]
  exact congrArg _ (Int.add_zero exponent)

theorem shiftToTargetExponent_carry {exponent : Int} (normal : -1074 ≤ exponent) :
    shiftToTargetExponent Format.binary64 (2 ^ 53) exponent .exact =
      (.ofMantissaAndAccuracy (2 ^ 52) .exact, exponent + 1) := by
  have one : (Format.binary64.targetExponent (totalExponent (2 ^ 53) exponent) -
      exponent).toNat = 1 := by
    rw [targetExponent_eq, Nat.log2_two_pow]
    omega
  rw [shiftToTargetExponent, shiftToExponent, one]
  rfl

/-- The first 53 bits are rounded; if that carries into a bit more, one more shift follows. -/
theorem exists_roundWithAccuracy (sign : Sign) {value : Nat} {exponent : Int}
    (large : 52 ≤ value.log2) (normal : -1074 ≤ exponent + excess value) :
    ∃ (mantissa shift : Nat) (nonzero : 0 < mantissa),
      roundWithAccuracy Format.binary64 sign value exponent .exact =
        .finite sign mantissa (exponent + shift) nonzero ∧
      Full mantissa ∧ mantissa * 2 ^ shift = roundedNat value ∧ shift ≤ excess value + 1 := by
  have amount : (Format.binary64.targetExponent (totalExponent value exponent) -
      exponent).toNat = excess value := by
    rw [targetExponent_eq, excess] at *
    omega
  have cut := (Cut.start value).shiftRight (excess value)
  rw [Nat.zero_add] at cut
  obtain ⟨low, high⟩ := nearest_bounds large
  have first : roundWithAccuracy Format.binary64 sign value exponent .exact =
      (let shifted := shiftToTargetExponent Format.binary64 (nearest value (excess value))
        (exponent + excess value) .exact
      if h : shifted.1.mantissa = 0 then .zero sign
      else .finite sign shifted.1.mantissa shifted.2 (Nat.pos_of_ne_zero h)) := by
    rw [← cut.roundedMantissa, roundWithAccuracy, shiftToTargetExponent, shiftToExponent, amount]
  rcases Nat.lt_or_eq_of_le high with below | carried
  · have full : Full (nearest value (excess value)) := ⟨low, below⟩
    refine ⟨nearest value (excess value), excess value, full.pos, ?_, full, rfl,
      Nat.le_succ (excess value)⟩
    rw [first, shiftToTargetExponent_full full normal]
    exact dif_neg full.pos.ne'
  · have full : Full (2 ^ 52) := ⟨by decide, by decide⟩
    have value_eq : 2 ^ 52 * 2 ^ (excess value + 1) = roundedNat value := by
      rw [roundedNat, carried, ← Nat.pow_add, ← Nat.pow_add]
      congr 1
      omega
    refine ⟨2 ^ 52, excess value + 1, full.pos, ?_, full, value_eq, Nat.le_refl _⟩
    rw [first, carried, shiftToTargetExponent_carry normal]
    refine (dif_neg full.pos.ne').trans ?_
    rw [UnpackedFloat.finite.injEq]
    exact ⟨rfl, rfl, Int.add_assoc _ _ _⟩

/-- With zeros behind it, a shorter number has 53 bits, too. -/
theorem log2_widened {value : Nat} (positive : 0 < value) :
    (value * 2 ^ (52 - value.log2)).log2 = max value.log2 52 := by
  obtain ⟨low, high⟩ := (Nat.log2_eq_iff positive.ne').mp (rfl : value.log2 = value.log2)
  have length : max value.log2 52 = value.log2 + (52 - value.log2) := by omega
  refine (Nat.log2_eq_iff (Nat.mul_pos positive (Nat.two_pow_pos _)).ne').mpr ⟨?_, ?_⟩
  · rw [length, Nat.pow_add]
    exact Nat.mul_le_mul_right _ low
  · rw [length, Nat.add_right_comm, Nat.pow_add]
    exact Nat.mul_lt_mul_of_pos_right high (Nat.two_pow_pos _)

theorem roundedNat_widened {value : Nat} (positive : 0 < value) :
    roundedNat (value * 2 ^ (52 - value.log2)) = roundedNat value * 2 ^ (52 - value.log2) := by
  by_cases large : 52 ≤ value.log2
  · rw [Nat.sub_eq_zero_of_le large, Nat.pow_zero, Nat.mul_one, Nat.mul_one]
  · have length := log2_widened positive
    rw [roundedNat_of_log2 (by omega), roundedNat_of_log2 (by omega)]

theorem exists_round (sign : Sign) {value : Nat} (positive : 0 < value) {exponent : Int}
    (normal : -1022 ≤ exponent) :
    ∃ (mantissa shift : Nat) (nonzero : 0 < mantissa),
      UnpackedFloat.round Format.binary64 sign value exponent =
        .finite sign mantissa (exponent - 52 + shift) nonzero ∧
      Full mantissa ∧ mantissa * 2 ^ shift = roundedNat value * 2 ^ 52 ∧
      shift ≤ value.log2 + 1 := by
  have amount : (exponent - Format.binary64.targetExponent
      (totalExponent value exponent)).toNat = 52 - value.log2 := by
    rw [targetExponent_eq]
    omega
  have length := log2_widened positive
  have rest : excess (value * 2 ^ (52 - value.log2)) = value.log2 - 52 := by
    rw [excess, length]
    omega
  have enough : -1074 ≤ exponent - (52 - value.log2 : Nat) +
      excess (value * 2 ^ (52 - value.log2)) := by
    rw [rest]
    omega
  obtain ⟨mantissa, shift, nonzero, result, full, same, bound⟩ :=
    exists_roundWithAccuracy sign (by omega) enough
  refine ⟨mantissa, min value.log2 52 + shift, nonzero, ?_, full, ?_, by omega⟩
  · rw [UnpackedFloat.round, decreaseExponent, amount, Nat.shiftLeft_eq]
    refine result.trans ?_
    rw [UnpackedFloat.finite.injEq]
    exact ⟨rfl, rfl, by omega⟩
  · have both : 52 - value.log2 + min value.log2 52 = 52 := by omega
    calc mantissa * 2 ^ (min value.log2 52 + shift)
        = mantissa * 2 ^ shift * 2 ^ min value.log2 52 := by
          rw [Nat.add_comm, Nat.pow_add, Nat.mul_assoc]
      _ = roundedNat value * 2 ^ (52 - value.log2) * 2 ^ min value.log2 52 := by
          rw [same, roundedNat_widened positive]
      _ = roundedNat value * 2 ^ 52 := by rw [Nat.mul_assoc, ← Nat.pow_add, both]

/-! ## Packing -/

/-- The first bit of a full mantissa is not stored. -/
theorem toNat_implicit {mantissa : Nat} (full : Full mantissa) :
    (1#1 ++ BitVec.ofNat 52 mantissa).toNat = mantissa := by
  obtain ⟨low, high⟩ := full
  rw [BitVec.toNat_append, ← Nat.shiftLeft_add_eq_or_of_lt (BitVec.isLt _), BitVec.toNat_ofNat,
    BitVec.toNat_ofNat, Nat.shiftLeft_eq]
  omega

theorem biased_exponent (exponent : Int) :
    (exponent + Format.binary64.exponentBias +
      Format.binary64.mantissaBitsWithoutImplicit).toNat = (exponent + 1075).toNat := by
  change (exponent + 1023 + 52).toNat = _
  rw [Int.add_assoc]
  rfl

/-- Between the smallest and the largest normal exponent, packing loses nothing. -/
theorem unpack_pack {sign : Sign} {mantissa : Nat} {exponent : Int} (full : Full mantissa)
    (nonzero : 0 < mantissa) (low : -1074 ≤ exponent) (high : exponent ≤ 971) :
    (Float.Model.pack (.finite sign mantissa exponent nonzero)).unpack =
      .finite sign mantissa exponent nonzero := by
  have stored : (BitVec.ofNat 11 (exponent + 1075).toNat).toNat = (exponent + 1075).toNat := by
    rw [BitVec.toNat_ofNat]
    omega
  have packed : pack Format.binary64 (.finite sign mantissa exponent nonzero) =
      packComponents Format.binary64 sign (BitVec.ofNat 11 (exponent + 1075).toNat)
        (BitVec.ofNat 52 mantissa) := by
    have fits : ¬ 2 ^ 11 ≤ (exponent + 1075).toNat + 1 := by omega
    have kept : mantissa.log2 + 1 = Format.binary64.mantissaBits := by
      rw [full.log2_eq]
      rfl
    rw [pack, biased_exponent]
    exact (if_neg fits).trans (if_pos kept)
  have finite : BitVec.ofNat 11 (exponent + 1075).toNat ≠ -1#11 := by
    intro equal
    have code := congrArg BitVec.toNat equal
    rw [stored] at code
    have ones : (-1#11).toNat = 2047 := rfl
    omega
  have normal : BitVec.ofNat 11 (exponent + 1075).toNat ≠ 0#11 := by
    intro equal
    have code := congrArg BitVec.toNat equal
    rw [stored, BitVec.toNat_zero] at code
    omega
  change unpack Format.binary64 (pack Format.binary64 _) = _
  rw [packed, unpack]
  simp only [unpackMantissa_packComponents, unpackExponent_packComponents,
    unpackSign_packComponents]
  rw [if_neg finite, if_neg normal, UnpackedFloat.finite.injEq, stored]
  refine ⟨Sign.ofBitVec_toBitVec sign, toNat_implicit full, ?_⟩
  have bias : (Format.binary64.exponentBias : Int) = 1023 := rfl
  rw [bias]
  omega

end Templating.Binary64
