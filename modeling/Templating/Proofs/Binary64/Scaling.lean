import Templating.Proofs.Binary64.Scientific

/-!
# Scaling finite floats

A product of finite floats is finite or infinite, and never no number. A finite float divided by a
power of ten is finite: the power is ten or more, so the quotient keeps away from the limit even if
rounding carries into one more bit.
-/

namespace Templating.Binary64

open Float.Model (Format UnpackedFloat totalExponent)
open Float.Model.UnpackedFloat

/-! ## Products -/

theorem isInf_unpack_packInfinity (sign : Sign) :
    (unpack Format.binary64 (packedInfinity Format.binary64 sign)).isInf = true := by
  cases sign <;> rfl

theorem isFinite_unpack_pack_zero (sign : Sign) :
    (Float.Model.pack (.zero sign)).unpack.isFinite = true := by
  cases sign <;> rfl

/-- Packing makes a finite number infinite or leaves it finite. -/
theorem isFinite_unpack_pack_of_not_isInf (sign : Sign) {mantissa : Nat} {exponent : Int}
    (nonzero : 0 < mantissa)
    (bounded : (Float.Model.pack (.finite sign mantissa exponent nonzero)).unpack.isInf = false) :
    (Float.Model.pack (.finite sign mantissa exponent nonzero)).unpack.isFinite = true := by
  rw [isFinite_unpack_pack, decide_eq_true_eq]
  by_contra above
  have beyond : 2 ^ 11 ≤ (exponent + 1075).toNat + 1 := by omega
  have infinite :
      (Float.Model.pack (.finite sign mantissa exponent nonzero)).unpack.isInf = true := by
    change (unpack Format.binary64 (pack Format.binary64 _)).isInf = _
    rw [pack, biased_exponent]
    refine (congrArg (fun bits => (unpack Format.binary64 bits).isInf) (if_pos beyond)).trans ?_
    exact isInf_unpack_packInfinity sign
  rw [infinite] at bounded
  cases bounded

theorem isFinite_round_of_not_isInf (sign : Sign) (value : Nat) (exponent : Int)
    (accuracy : Accuracy)
    (bounded : (Float.Model.pack
      (roundWithAccuracy Format.binary64 sign value exponent accuracy)).unpack.isInf = false) :
    (Float.Model.pack
      (roundWithAccuracy Format.binary64 sign value exponent accuracy)).unpack.isFinite = true := by
  rw [roundWithAccuracy] at bounded ⊢
  dsimp only at bounded ⊢
  split at bounded
  · rename_i zero
    rw [dif_pos zero]
    exact isFinite_unpack_pack_zero sign
  · rename_i nonzero
    rw [dif_neg nonzero]
    exact isFinite_unpack_pack_of_not_isInf sign _ bounded

theorem isFinite_mul_unpacked {left right : UnpackedFloat} (finiteLeft : left.isFinite = true)
    (finiteRight : right.isFinite = true)
    (bounded : (Float.Model.pack
      (UnpackedFloat.mul Format.binary64 left right)).unpack.isInf = false) :
    (Float.Model.pack (UnpackedFloat.mul Format.binary64 left right)).unpack.isFinite = true := by
  cases left with
  | infinity => cases finiteLeft
  | notANumber => cases finiteLeft
  | zero sign =>
      cases right with
      | infinity => cases finiteRight
      | notANumber => cases finiteRight
      | zero => exact isFinite_unpack_pack_zero _
      | finite => exact isFinite_unpack_pack_zero _
  | finite sign mantissa exponent nonzero =>
      cases right with
      | infinity => cases finiteRight
      | notANumber => cases finiteRight
      | zero => exact isFinite_unpack_pack_zero _
      | finite => exact isFinite_round_of_not_isInf _ _ _ _ bounded

theorem isFinite_mul_of_not_isInf {left right : Float} (finiteLeft : left.isFinite = true)
    (finiteRight : right.isFinite = true) (bounded : (left * right).isInf = false) :
    (left * right).isFinite = true :=
  isFinite_mul_unpacked finiteLeft finiteRight bounded

/-! ## Powers of ten -/

theorem ten_pow_lt_limit {power : Nat} (few : power ≤ 308) : 10 ^ power < limit :=
  calc 10 ^ power ≤ 10 ^ 308 := Nat.pow_le_pow_right (by decide) few
    _ < limit := by decide +kernel

/-- Without a fraction there is nothing to divide by. -/
theorem isFinite_ofScientific_natCast (digits power : Nat) :
    (Float.ofScientific digits false power).isFinite = decide (digits * 10 ^ power < limit) := by
  have whole : ¬ (power : Int) < 0 := by omega
  have none : (-(power : Int)).toNat = 0 := by omega
  have finite := isFinite_ofScientific digits power
  rw [decide_eq_false whole, Int.natAbs_natCast] at finite
  refine finite.trans ?_
  rw [decide_eq_decide, none, Int.toNat_natCast, Nat.pow_zero, Nat.mul_one]

theorem isFinite_powerOfTen {power : Nat} (few : power ≤ 308) :
    (Float.ofScientific 1 false power).isFinite = true := by
  rw [isFinite_ofScientific_natCast, Nat.one_mul (10 ^ power)]
  exact decide_eq_true (ten_pow_lt_limit few)

theorem isFinite_ofNat {value : Nat} (below : value < limit) :
    (Float.ofNat value).isFinite = true := by
  refine (isFinite_ofScientific_natCast value 0).trans (decide_eq_true ?_)
  rwa [Nat.pow_zero, Nat.mul_one value]

/-- With 53 bits, and ten or more. -/
def atLeastTen : UnpackedFloat → Bool
  | .finite _ mantissa exponent _ => 2 ^ 52 ≤ mantissa && -49 ≤ exponent
  | _ => false

theorem atLeastTen_iff {sign : Sign} {mantissa : Nat} {exponent : Int} {nonzero : 0 < mantissa} :
    atLeastTen (.finite sign mantissa exponent nonzero) = true ↔
      2 ^ 52 ≤ mantissa ∧ -49 ≤ exponent := by
  simp only [atLeastTen, Bool.and_eq_true, decide_eq_true_eq]

theorem atLeastTen_short : ∀ power : Fin 22,
    atLeastTen (Float.ofScientific 1 false (power + 1)).toModel.unpack = true := by
  decide +kernel

theorem ofScientific_powerOfTen {power : Nat} (many : 22 < power) (few : power ≤ 308) :
    UnpackedFloat.ofScientific Format.binary64 1 power =
      roundWithAccuracy Format.binary64 .positive (2 ^ 53 * 10 ^ power) (-53) .exact := by
  have width : (2 : Int) ^ Format.binary64.exponentBits = 2048 := rfl
  rw [UnpackedFloat.ofScientific, width, dif_neg (by decide), if_neg (by omega), if_neg (by omega),
    if_pos (by omega)]
  rfl

/-- The bits of a power are more than those of ten. -/
theorem four_le_shift {mantissa shift power : Nat} (some : 0 < power) (full : Full mantissa)
    (same : mantissa * 2 ^ shift = roundedNat (2 ^ 53 * 10 ^ power)) : 4 ≤ shift := by
  have size : 2 ^ 56 ≤ 2 ^ 53 * 10 ^ power :=
    calc 2 ^ 56 ≤ 2 ^ 53 * 10 ^ 1 := by decide
      _ ≤ 2 ^ 53 * 10 ^ power := Nat.mul_le_mul_left _ (Nat.pow_le_pow_right (by decide) some)
  by_contra small
  have least : 2 ^ 56 ≤ mantissa * 2 ^ shift :=
    calc 2 ^ 56 = roundedNat (2 ^ 56) := by decide
      _ ≤ roundedNat (2 ^ 53 * 10 ^ power) := roundedNat_mono size
      _ = mantissa * 2 ^ shift := same.symm
  have most : mantissa * 2 ^ shift < 2 ^ 56 :=
    calc mantissa * 2 ^ shift ≤ mantissa * 2 ^ 3 :=
          Nat.mul_le_mul_left _ (Nat.pow_le_pow_right (by decide) (by omega))
      _ < 2 ^ 53 * 2 ^ 3 := Nat.mul_lt_mul_of_pos_right full.2 (by decide)
      _ = 2 ^ 56 := by decide
  omega

/-- A power that is not in the table of short ones is rounded once. -/
theorem atLeastTen_long {power : Nat} (many : 22 < power) (few : power ≤ 308) :
    atLeastTen (Float.Model.ofScientific 1 power).unpack = true := by
  have large : 52 ≤ (2 ^ 53 * 10 ^ power).log2 :=
    (Nat.le_log2 (by positivity)).mpr
      ((Nat.pow_le_pow_right (by decide) (by decide)).trans
        (Nat.le_mul_of_pos_right _ (Nat.pow_pos (by decide))))
  have normal : -1074 ≤ (-53 : Int) + excess (2 ^ 53 * 10 ^ power) := by omega
  obtain ⟨mantissa, shift, nonzero, result, full, same, -⟩ :=
    exists_roundWithAccuracy .positive large normal
  have packed : (Float.Model.ofScientific 1 power).unpack =
      (Float.Model.pack (.finite .positive mantissa (-53 + shift) nonzero)).unpack := by
    rw [← result, ← ofScientific_powerOfTen many few]
    rfl
  have high : -53 + (shift : Int) ≤ 971 := by
    have finite := isFinite_model_ofScientific 1 power
    rw [packed, isFinite_unpack_pack, decide_eq_decide] at finite
    apply finite.mpr
    have none : (-(power : Int)).toNat = 0 := by omega
    rw [Int.toNat_natCast, none, Nat.one_mul, Nat.pow_zero, Nat.mul_one]
    exact ten_pow_lt_limit few
  have low := four_le_shift (by omega) full same
  rw [packed, unpack_pack full nonzero (by omega) high]
  exact atLeastTen_iff.mpr ⟨full.1, by omega⟩

theorem atLeastTen_powerOfTen {power : Nat} (some : 0 < power) (few : power ≤ 308) :
    atLeastTen (Float.ofScientific 1 false power).toModel.unpack = true := by
  by_cases short : power ≤ 22
  · obtain ⟨before, rfl⟩ := Nat.exists_eq_add_one.mpr some
    exact atLeastTen_short ⟨before, by omega⟩
  · have long := atLeastTen_long (Nat.lt_of_not_le short) few
    unfold Float.ofScientific
    rwa [dif_neg (by omega)]

/-! ## Quotients -/

theorem mantissa_lt_of_unpack {bits : BitVec Format.binary64.numBits} {sign : Sign} {mantissa : Nat}
    {exponent : Int} {nonzero : 0 < mantissa}
    (unpacked : unpack Format.binary64 bits = .finite sign mantissa exponent nonzero) :
    mantissa < 2 ^ 53 := by
  rw [unpack] at unpacked
  dsimp only at unpacked
  split at unpacked
  · split at unpacked <;> cases unpacked
  · split at unpacked
    · split at unpacked
      · cases unpacked
      · cases unpacked
        exact (unpackMantissa bits).isLt.trans (by decide)
    · cases unpacked
      exact (1#1 ++ unpackMantissa bits).isLt

theorem isFinite_div_unpacked {bits : BitVec Format.binary64.numBits} {right : UnpackedFloat}
    (finite : (unpack Format.binary64 bits).isFinite = true) (bounded : atLeastTen right = true) :
    (Float.Model.pack (UnpackedFloat.div Format.binary64 (unpack Format.binary64 bits)
      right)).unpack.isFinite = true := by
  cases right with
  | finite otherSign other place otherNonzero =>
      obtain ⟨full, ten⟩ := atLeastTen_iff.mp bounded
      cases unpacked : unpack Format.binary64 bits with
      | infinity => rw [unpacked] at finite; cases finite
      | notANumber => rw [unpacked] at finite; cases finite
      | zero => exact isFinite_unpack_pack_zero _
      | finite sign mantissa exponent nonzero =>
          have less := mantissa_lt_of_unpack unpacked
          have high := exponent_le_of_unpack unpacked
          have length : mantissa.log2 ≤ 52 := log2_le_of_lt less
          have otherLength : 52 ≤ other.log2 := (Nat.le_log2 otherNonzero.ne').mpr full
          have most : Format.binary64.targetExponent
              (totalExponent mantissa exponent - totalExponent other place) ≤ 970 := by
            have width : Format.binary64.mantissaBits = 53 := rfl
            have least : Format.binary64.minExponent = -1074 := rfl
            rw [Format.targetExponent, width, least, totalExponent, totalExponent]
            omega
          have wider : mantissa < 2 ^ (0 + 1) * other := by omega
          exact isFinite_div_of_lt _ _ nonzero otherNonzero wider (by omega) (by omega)
  | zero => cases bounded
  | infinity => cases bounded
  | notANumber => cases bounded

theorem isFinite_div_powerOfTen {float : Float} (finite : float.isFinite = true) {power : Nat}
    (some : 0 < power) (few : power ≤ 308) :
    (float / Float.ofScientific 1 false power).isFinite = true :=
  isFinite_div_unpacked finite (atLeastTen_powerOfTen some few)

end Templating.Binary64
