import Templating.Proofs.Binary64.Integer

/-!
# Numbers too large for a float

A float is infinite once its exponent is too large to be stored. Rounding can carry into that
exponent, so what decides is the middle between the largest float and the next power of two: a
number from there on is rounded to infinity, and a smaller one to a finite float.
-/

namespace Templating.Binary64

open Float.Model (Format UnpackedFloat totalExponent)
open Float.Model.UnpackedFloat

/-- The middle between `2 ^ (54 + places)` and the number of 53 bits before it. -/
def middle (places : Nat) : Nat := (2 ^ 54 - 1) * 2 ^ places

/-- The middle between the largest float and `2 ^ 1024`. -/
def limit : Nat := middle 970

theorem middle_lt_two_pow {places bits : Nat} (many : 54 + places ≤ bits) :
    middle places < 2 ^ bits :=
  calc middle places < 2 ^ 54 * 2 ^ places :=
        Nat.mul_lt_mul_of_pos_right (by decide) (Nat.two_pow_pos places)
    _ = 2 ^ (54 + places) := (Nat.pow_add 2 54 places).symm
    _ ≤ 2 ^ bits := Nat.pow_le_pow_right (by decide) many

theorem two_pow_le_middle {places bits : Nat} (few : bits ≤ 53 + places) :
    2 ^ bits ≤ middle places :=
  calc 2 ^ bits ≤ 2 ^ (53 + places) := Nat.pow_le_pow_right (by decide) few
    _ = 2 ^ 53 * 2 ^ places := Nat.pow_add 2 53 places
    _ ≤ middle places := Nat.mul_le_mul_right _ (by decide)

theorem middle_add (places more : Nat) : middle (places + more) = middle places * 2 ^ more := by
  rw [middle, middle, Nat.pow_add, Nat.mul_assoc]

theorem limit_pos : 0 < limit := (Nat.two_pow_pos 0).trans_le (two_pow_le_middle (by decide))

/-! ## Packing -/

theorem isFinite_unpack_packComponents (sign : Sign) (exponent : BitVec 11) (mantissa : BitVec 52) :
    (unpack Format.binary64 (packComponents Format.binary64 sign exponent mantissa)).isFinite =
      decide (exponent ≠ -1#11) := by
  rw [unpack]
  simp only [unpackMantissa_packComponents, unpackExponent_packComponents]
  by_cases full : exponent = -1#11
  · rw [if_pos full, decide_eq_false (not_not_intro full)]
    split <;> rfl
  · rw [if_neg full, decide_eq_true full]
    split
    · split <;> rfl
    · rfl

/-- The largest exponent of a mantissa is 971; above it a float is infinite. -/
theorem isFinite_unpack_pack (sign : Sign) {mantissa : Nat} {exponent : Int}
    (nonzero : 0 < mantissa) :
    (Float.Model.pack (.finite sign mantissa exponent nonzero)).unpack.isFinite =
      decide (exponent ≤ 971) := by
  change (unpack Format.binary64 (pack Format.binary64 _)).isFinite = _
  rw [pack, biased_exponent]
  by_cases above : 2 ^ 11 ≤ (exponent + 1075).toNat + 1
  · have beyond : ¬ exponent ≤ 971 := by omega
    rw [decide_eq_false beyond]
    refine (congrArg (fun bits => (unpack Format.binary64 bits).isFinite) (if_pos above)).trans ?_
    exact isFinite_unpack_packComponents sign _ _
  · have within : exponent ≤ 971 := by omega
    have stored : BitVec.ofNat 11 (exponent + 1075).toNat ≠ -1#11 := by
      intro equal
      have code := congrArg BitVec.toNat equal
      have ones : (-1#11).toNat = 2047 := rfl
      rw [ones, BitVec.toNat_ofNat] at code
      omega
    rw [decide_eq_true within]
    refine (congrArg (fun bits => (unpack Format.binary64 bits).isFinite) (if_neg above)).trans ?_
    dsimp only
    split
    · exact (isFinite_unpack_packComponents sign _ _).trans (decide_eq_true stored)
    · exact isFinite_unpack_packComponents sign _ _

theorem exponent_le_of_unpack {bits : BitVec Format.binary64.numBits} {sign : Sign} {mantissa : Nat}
    {exponent : Int} {nonzero : 0 < mantissa}
    (unpacked : unpack Format.binary64 bits = .finite sign mantissa exponent nonzero) :
    exponent ≤ 971 := by
  have bias : (Format.binary64.exponentBias : Int) = 1023 := rfl
  have width : (unpackExponent bits).toNat < 2048 := (unpackExponent bits).isLt
  rw [unpack, bias] at unpacked
  by_cases full : unpackExponent bits = -1#11
  · simp only [if_pos full] at unpacked
    split at unpacked <;> cases unpacked
  · simp only [if_neg full] at unpacked
    have below : (unpackExponent bits).toNat ≠ 2047 := fun equal =>
      full (BitVec.eq_of_toNat_eq equal)
    by_cases none : unpackExponent bits = 0#11
    · simp only [if_pos none] at unpacked
      split at unpacked
      · cases unpacked
      · cases unpacked
        rw [none, BitVec.toNat_zero]
        decide
    · simp only [if_neg none] at unpacked
      cases unpacked
      omega

theorem isFinite_neg (number : Float) : (-number).isFinite = number.isFinite := by
  change (Float.Model.pack number.toModel.unpack.neg).unpack.isFinite =
    number.toModel.unpack.isFinite
  cases unpacked : number.toModel.unpack with
  | infinity sign => cases sign <;> rfl
  | notANumber => rfl
  | zero sign => cases sign <;> rfl
  | finite sign mantissa exponent nonzero =>
      exact (isFinite_unpack_pack (-sign) nonzero).trans
        (decide_eq_true (exponent_le_of_unpack unpacked))

/-! ## Rounding numbers far below the limit -/

/-- Rounding carries into one more bit at most. -/
theorem isFinite_round_of_small (sign : Sign) {value : Nat} {exponent : Int}
    (accuracy : Accuracy) (small : value.log2 + exponent ≤ 1022) (low : exponent ≤ 970) :
    (Float.Model.pack
      (roundWithAccuracy Format.binary64 sign value exponent accuracy)).unpack.isFinite = true := by
  have target := targetExponent_eq value exponent
  obtain ⟨shift, shift_eq⟩ : ∃ shift, (Format.binary64.targetExponent
      (totalExponent value exponent) - exponent).toNat = shift := ⟨_, rfl⟩
  have first : shiftToTargetExponent Format.binary64 value exponent accuracy =
      (ExtendedMantissa.ofMantissaAndAccuracy value accuracy >>> shift, exponent + shift) := by
    rw [shiftToTargetExponent, shiftToExponent, shift_eq]
  obtain ⟨rest, less, start⟩ := Cut.exists_start value accuracy
  obtain ⟨rounded, rounded_eq⟩ : ∃ rounded, nearest (4 * value + rest) (2 + shift) = rounded :=
    ⟨_, rfl⟩
  have bound : rounded ≤ 2 ^ 53 := by
    have carry := nearest_le (4 * value + rest) (2 + shift)
    have whole : (4 * value + rest) / 2 ^ (2 + shift) = value / 2 ^ shift := by
      rw [Nat.pow_add, ← Nat.div_div_eq_div_mul]
      congr 1
      omega
    have kept : value / 2 ^ shift < 2 ^ 53 := by
      rw [Nat.div_lt_iff_lt_mul (Nat.two_pow_pos shift), ← Nat.pow_add]
      exact Nat.lt_of_lt_of_le Nat.lt_log2_self (Nat.pow_le_pow_right (by decide) (by omega))
    omega
  have length : rounded.log2 ≤ 53 := log2_le_of_lt (bound.trans_lt (by decide))
  have second : (shiftToTargetExponent Format.binary64 rounded (exponent + shift) .exact).2 ≤ 971 := by
    rw [shiftToTargetExponent, shiftToExponent, targetExponent_eq]
    dsimp only
    omega
  rw [roundWithAccuracy, first]
  dsimp only
  rw [(start.shiftRight shift).roundedMantissa, rounded_eq]
  split
  · cases sign <;> rfl
  · exact (isFinite_unpack_pack sign _).trans (decide_eq_true second)

/-! ## Rounding numbers of 53 bits and more -/

theorem excess_of_full {whole bits rest : Nat} (full : Full whole) (less : rest < 2 ^ bits) :
    excess (whole * 2 ^ bits + rest) = bits := by
  have length : (whole * 2 ^ bits + rest).log2 = 52 + bits := by
    have low : 2 ^ (52 + bits) ≤ whole * 2 ^ bits := by
      rw [Nat.pow_add]
      exact Nat.mul_le_mul_right _ full.1
    have high : (whole + 1) * 2 ^ bits ≤ 2 ^ (52 + bits + 1) := by
      rw [Nat.add_right_comm, Nat.pow_add]
      exact Nat.mul_le_mul_right _ full.2
    have positive := Nat.two_pow_pos (52 + bits)
    rw [Nat.add_one_mul] at high
    exact (Nat.log2_eq_iff (by omega)).mpr ⟨by omega, by omega⟩
  rw [excess, length, Nat.add_sub_cancel_left]

theorem roundedNat_of_full {whole bits rest : Nat} (full : Full whole) (less : rest < 2 ^ bits) :
    roundedNat (whole * 2 ^ bits + rest) =
      (if 2 * rest < 2 ^ bits then whole
        else if 2 ^ bits < 2 * rest then whole + 1 else whole + whole % 2) * 2 ^ bits := by
  have quotient : (whole * 2 ^ bits + rest) / 2 ^ bits = whole := by
    rw [Nat.mul_comm, Nat.mul_add_div (Nat.two_pow_pos bits), Nat.div_eq_of_lt less, Nat.add_zero]
  have remainder : (whole * 2 ^ bits + rest) % 2 ^ bits = rest := by
    rw [Nat.mul_comm, Nat.mul_add_mod, Nat.mod_eq_of_lt less]
  rw [roundedNat, excess_of_full full less, nearest, quotient, remainder]

/-- From the middle on, a number is rounded up to the power of two. -/
theorem roundedNat_lt_two_pow_iff {value places : Nat} :
    roundedNat value < 2 ^ (54 + places) ↔ value < middle places := by
  have full : Full (2 ^ 53 - 1) := ⟨by decide, by decide⟩
  have positive := Nat.two_pow_pos places
  have double : 2 ^ (places + 1) = 2 * 2 ^ places := Nat.pow_succ'
  have power : 2 ^ (54 + places) = 2 ^ 53 * 2 ^ (places + 1) := by
    rw [← Nat.pow_add]
    congr 1
    omega
  have half : middle places = (2 ^ 53 - 1) * 2 ^ (places + 1) + 2 ^ places := by
    rw [middle]
    omega
  have up : roundedNat (middle places) = 2 ^ (54 + places) := by
    rw [half, roundedNat_of_full full (by omega), if_neg (by omega), if_neg (by omega), power]
    rfl
  have down : roundedNat (middle places - 1) < 2 ^ (54 + places) := by
    rw [half, Nat.add_sub_assoc positive, roundedNat_of_full full (by omega), if_pos (by omega),
      power]
    exact Nat.mul_lt_mul_of_pos_right (by decide) (Nat.two_pow_pos _)
  constructor
  · intro below
    by_contra above
    have := roundedNat_mono (Nat.not_lt.mp above)
    omega
  · intro below
    have := roundedNat_mono (Nat.le_sub_one_of_lt below)
    omega

theorem isFinite_round_exact (sign : Sign) {value places : Nat} (large : 52 ≤ value.log2)
    (normal : -1074 ≤ -(places : Int) + excess value) :
    (Float.Model.pack
      (roundWithAccuracy Format.binary64 sign value (-places) .exact)).unpack.isFinite =
        decide (value < limit * 2 ^ places) := by
  obtain ⟨mantissa, shift, nonzero, result, full, same, -⟩ :=
    exists_roundWithAccuracy sign large normal
  have power : 54 + (970 + places) = 53 + (971 + places) := by omega
  rw [result, isFinite_unpack_pack, decide_eq_decide, limit, ← middle_add,
    ← roundedNat_lt_two_pow_iff, ← same, power]
  constructor
  · intro within
    calc mantissa * 2 ^ shift ≤ mantissa * 2 ^ (971 + places) :=
          Nat.mul_le_mul_left _ (Nat.pow_le_pow_right (by decide) (by omega))
      _ < 2 ^ 53 * 2 ^ (971 + places) := Nat.mul_lt_mul_of_pos_right full.2 (Nat.two_pow_pos _)
      _ = 2 ^ (53 + (971 + places)) := (Nat.pow_add ..).symm
  · intro below
    by_contra above
    have beyond : 2 ^ (53 + (971 + places)) ≤ mantissa * 2 ^ shift :=
      calc 2 ^ (53 + (971 + places)) = 2 ^ 52 * 2 ^ (972 + places) := by
            rw [← Nat.pow_add]
            congr 1
            omega
        _ ≤ mantissa * 2 ^ (972 + places) := Nat.mul_le_mul_right _ full.1
        _ ≤ mantissa * 2 ^ shift :=
            Nat.mul_le_mul_left _ (Nat.pow_le_pow_right (by decide) (by omega))
    omega

/-! ## Rounding at the limit -/

theorem log2_with_two_bits {value rest : Nat} (positive : 0 < value) (less : rest < 4) :
    (4 * value + rest).log2 = value.log2 + 2 := by
  obtain ⟨low, high⟩ := (Nat.log2_eq_iff positive.ne').mp (rfl : value.log2 = value.log2)
  refine (Nat.log2_eq_iff (by omega)).mpr ⟨?_, ?_⟩
  · rw [Nat.pow_add]
    omega
  · rw [Nat.add_right_comm, Nat.pow_add]
    omega

/-- Nothing but two more bits is lost when the accuracy is all that is known of the rest. -/
theorem exists_round_exact (sign : Sign) {value : Nat} {exponent : Int} (accuracy : Accuracy)
    (large : 52 ≤ value.log2) (normal : -1074 ≤ exponent + excess value) :
    ∃ rest < 4, (4 * value + rest).log2 = value.log2 + 2 ∧
      roundWithAccuracy Format.binary64 sign value exponent accuracy =
        roundWithAccuracy Format.binary64 sign (4 * value + rest) (exponent - 2) .exact := by
  obtain ⟨rest, less, start⟩ := Cut.exists_start value accuracy
  have positive : 0 < value := Nat.pos_of_ne_zero fun zero => by
    rw [zero] at large
    exact absurd large (by decide)
  have longer := log2_with_two_bits positive less
  have amount : (Format.binary64.targetExponent (totalExponent value exponent) -
      exponent).toNat = excess value := by
    rw [targetExponent_eq, excess] at *
    omega
  have further : (Format.binary64.targetExponent (totalExponent (4 * value + rest) (exponent - 2)) -
      (exponent - 2)).toNat = 2 + excess value := by
    rw [targetExponent_eq, longer, excess] at *
    omega
  have same : exponent - 2 + (2 + excess value : Nat) = exponent + excess value := by omega
  have left := (start.shiftRight (excess value)).roundedMantissa
  have right := ((Cut.start (4 * value + rest)).shiftRight (2 + excess value)).roundedMantissa
  refine ⟨rest, less, longer, ?_⟩
  rw [roundWithAccuracy, roundWithAccuracy, shiftToTargetExponent, shiftToExponent, amount,
    shiftToTargetExponent, shiftToExponent, further, same]
  dsimp only
  rw [left, right, Nat.zero_add]

/-- What was cut off does not matter: the limit is a whole number of the last places. -/
theorem isFinite_round (sign : Sign) (value : Nat) {places : Nat} (accuracy : Accuracy)
    (few : places ≤ 1074) :
    (Float.Model.pack
      (roundWithAccuracy Format.binary64 sign value (-places) accuracy)).unpack.isFinite =
        decide (value < limit * 2 ^ places) := by
  by_cases large : 52 ≤ value.log2
  · have normal : -1074 ≤ -(places : Int) + excess value := by omega
    obtain ⟨rest, less, longer, same⟩ := exists_round_exact sign accuracy large normal
    have shifted : -(places : Int) - 2 = -((places + 2 : Nat) : Int) := by omega
    have more : excess (4 * value + rest) = excess value + 2 := by
      rw [excess, excess]
      omega
    rw [same, shifted, isFinite_round_exact sign (by omega) (by omega), decide_eq_decide,
      Nat.pow_add, ← Nat.mul_assoc]
    omega
  · have bound : value < 2 ^ 52 := Nat.lt_of_lt_of_le Nat.lt_log2_self
      (Nat.pow_le_pow_right (by decide) (by omega))
    rw [isFinite_round_of_small sign accuracy (by omega) (by omega)]
    refine (decide_eq_true ?_).symm
    calc value < 2 ^ 52 := bound
      _ ≤ limit := two_pow_le_middle (by decide)
      _ ≤ limit * 2 ^ places := Nat.le_mul_of_pos_right _ (Nat.two_pow_pos places)

end Templating.Binary64
