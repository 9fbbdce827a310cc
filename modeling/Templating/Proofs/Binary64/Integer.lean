import Templating.Proofs.Binary64.Rounding

/-!
# Floats of integers

A float that is made from an integer of 64 bits has the value of the rounded integer. Such floats
are ordered by their values, and the difference of two of them is zero only if they are the same:
any other difference is at least the distance from one to the next float.
-/

namespace Templating.Binary64

open Float.Model (Format UnpackedFloat)
open Float.Model.UnpackedFloat

/-- The float has a value that is given in units of `2 ^ -52`. It has a mantissa of 53 bits, unless
it is zero, and no exponent that an integer of 64 bits does not need. -/
inductive Holds : Int → UnpackedFloat → Prop
  | zero : Holds 0 (.zero .positive)
  | finite (sign : Sign) {mantissa shift : Nat} (full : Full mantissa) (range : shift ≤ 64)
      (nonzero : 0 < mantissa) :
      Holds (sign.apply (mantissa * 2 ^ shift : Nat)) (.finite sign mantissa (shift - 52) nonzero)

variable {first second : Int} {left right : UnpackedFloat}

theorem Holds.isFinite (holds : Holds first left) : left.isFinite = true := by
  cases holds with
  | zero => rfl
  | finite => rfl

/-! ## From integers -/

theorem normalize_apply (sign : Sign) {magnitude : Nat} (positive : 0 < magnitude)
    (exponent : Int) (zeroSign : Sign) :
    UnpackedFloat.normalize Format.binary64 (sign.apply magnitude) exponent zeroSign =
      UnpackedFloat.round Format.binary64 sign magnitude exponent := by
  cases sign with
  | negative =>
      have below : compare (-(magnitude : Int)) 0 = .lt := Int.compare_eq_lt.mpr (by omega)
      rw [Sign.apply, UnpackedFloat.normalize, below, Int.neg_neg, Int.toNat_natCast]
  | positive =>
      have above : compare (magnitude : Int) 0 = .gt := Int.compare_eq_gt.mpr (by omega)
      rw [Sign.apply, UnpackedFloat.normalize, above, Int.toNat_natCast]

theorem exists_apply {value : Int} (nonzero : value ≠ 0) :
    ∃ (sign : Sign) (magnitude : Nat), 0 < magnitude ∧ value = sign.apply magnitude := by
  obtain ⟨magnitude, rfl | rfl⟩ := value.eq_nat_or_neg
  · exact ⟨.positive, magnitude, by omega, rfl⟩
  · exact ⟨.negative, magnitude, by omega, rfl⟩

theorem apply_ne_zero (sign : Sign) {magnitude : Nat} (positive : 0 < magnitude) :
    sign.apply magnitude ≠ 0 := by
  cases sign with
  | negative => rw [Sign.apply]; omega
  | positive => rw [Sign.apply]; omega

theorem rounded_apply (sign : Sign) (magnitude : Nat) :
    rounded (sign.apply magnitude) = sign.apply (roundedNat magnitude) := by
  cases sign with
  | negative => rw [Sign.apply, Sign.apply, rounded_neg, rounded_natCast]
  | positive => exact rounded_natCast magnitude

theorem apply_mul (sign : Sign) (value factor : Int) :
    sign.apply value * factor = sign.apply (value * factor) := by
  cases sign with
  | negative => exact Int.neg_mul value factor
  | positive => rfl

theorem natAbs_apply (sign : Sign) (magnitude : Nat) :
    (sign.apply (magnitude : Int)).natAbs = magnitude := by
  cases sign with
  | negative => exact (Int.natAbs_neg _).trans (Int.natAbs_natCast magnitude)
  | positive => exact Int.natAbs_natCast magnitude

theorem holds_normalize {value : Int} (small : value.natAbs < 2 ^ 64) :
    Holds (rounded value * 2 ^ 52)
      (Float.Model.pack (UnpackedFloat.normalize Format.binary64 value 0 .positive)).unpack := by
  by_cases zero : value = 0
  · rw [zero]
    exact .zero
  · obtain ⟨sign, magnitude, positive, rfl⟩ := exists_apply zero
    obtain ⟨mantissa, shift, nonzero, result, full, same, bound⟩ :=
      exists_round sign positive (show (-1022 : Int) ≤ 0 by decide)
    have range : shift ≤ 64 := by
      rw [natAbs_apply] at small
      have length := (Nat.log2_lt positive.ne').mpr small
      omega
    have scaled : rounded (sign.apply magnitude) * 2 ^ 52 =
        sign.apply (mantissa * 2 ^ shift : Nat) := by
      rw [rounded_apply, apply_mul, same]
      rfl
    rw [scaled, normalize_apply sign positive, result, unpack_pack full nonzero (by omega)
      (by omega), Int.zero_sub, Int.add_comm]
    exact .finite sign full range nonzero

theorem natAbs_toInt_lt (value : Int64) : value.toInt.natAbs < 2 ^ 64 := by
  have low := Int64.minValue_le_toInt value
  have high := Int64.toInt_le value
  have least : Int64.minValue.toInt = -2 ^ 63 := rfl
  have greatest : Int64.maxValue.toInt = 2 ^ 63 - 1 := rfl
  omega

theorem holds_ofInt64 (value : Int64) :
    Holds (rounded value.toInt * 2 ^ 52) (Float.Model.ofInt64 value).unpack :=
  holds_normalize (natAbs_toInt_lt value)

theorem holds_ofUInt64 (value : UInt64) :
    Holds (rounded value.toNat * 2 ^ 52) (Float.Model.ofUInt64 value).unpack :=
  holds_normalize ((Int.natAbs_natCast value.toNat).trans_lt value.toNat_lt)

/-! ## Order -/

section Order

variable {mantissa other shift further : Nat}

theorem full_lt (full : Full mantissa) (fullOther : Full other) (fewer : shift < further) :
    mantissa * 2 ^ shift < other * 2 ^ further :=
  calc mantissa * 2 ^ shift < 2 ^ 53 * 2 ^ shift :=
        Nat.mul_lt_mul_of_pos_right full.2 (Nat.two_pow_pos shift)
    _ = 2 ^ 52 * 2 ^ (shift + 1) := by
        rw [← Nat.pow_add, ← Nat.pow_add]
        congr 1
        omega
    _ ≤ 2 ^ 52 * 2 ^ further := Nat.mul_le_mul_left _ (Nat.pow_le_pow_right (by decide) fewer)
    _ ≤ other * 2 ^ further := Nat.mul_le_mul_right _ fullOther.1

/-- With full mantissas, the exponents decide before the mantissas. -/
theorem compare_full (full : Full mantissa) (fullOther : Full other) (place : Int) :
    (compare (shift - place) (further - place)).then (compare mantissa other) =
      compare (mantissa * 2 ^ shift) (other * 2 ^ further) := by
  rcases Nat.lt_trichotomy shift further with fewer | rfl | more
  · have exponents : compare (shift - place) (further - place) = .lt :=
      Int.compare_eq_lt.mpr (by omega)
    rw [exponents, Nat.compare_eq_lt.mpr (full_lt full fullOther fewer)]
    rfl
  · have positive := Nat.two_pow_pos shift
    have exponents : compare (shift - place) (shift - place) = .eq := Int.compare_eq_eq.mpr rfl
    rw [exponents, Ordering.eq_then]
    rcases Nat.lt_trichotomy mantissa other with below | rfl | above
    · rw [Nat.compare_eq_lt.mpr below,
        Nat.compare_eq_lt.mpr (Nat.mul_lt_mul_of_pos_right below positive)]
    · rw [Nat.compare_eq_eq.mpr rfl, Nat.compare_eq_eq.mpr rfl]
    · rw [Nat.compare_eq_gt.mpr above,
        Nat.compare_eq_gt.mpr (Nat.mul_lt_mul_of_pos_right above positive)]
  · have exponents : compare (shift - place) (further - place) = .gt :=
      Int.compare_eq_gt.mpr (by omega)
    rw [exponents, Nat.compare_eq_gt.mpr (full_lt fullOther full more)]
    rfl

theorem Full.scaled_pos (full : Full mantissa) : 0 < mantissa * 2 ^ shift :=
  Nat.mul_pos full.pos (Nat.two_pow_pos shift)

theorem isLT_compare (first second : Nat) :
    (some (compare first second) == some Ordering.lt) = decide ((first : Int) < second) := by
  rcases Nat.lt_trichotomy first second with below | rfl | above
  · rw [Nat.compare_eq_lt.mpr below, decide_eq_true (by omega)]
    rfl
  · rw [Nat.compare_eq_eq.mpr rfl, decide_eq_false (by omega)]
    rfl
  · rw [Nat.compare_eq_gt.mpr above, decide_eq_false (by omega)]
    rfl

/-- Finite floats are ordered by their values, in units of any place. -/
theorem lt_finite (sign signOther : Sign) (full : Full mantissa) (fullOther : Full other)
    (nonzero : 0 < mantissa) (nonzeroOther : 0 < other) (place : Int) :
    (UnpackedFloat.finite sign mantissa (shift - place) nonzero).lt
        (.finite signOther other (further - place) nonzeroOther) =
      decide (sign.apply (mantissa * 2 ^ shift : Nat) <
        signOther.apply (other * 2 ^ further : Nat)) := by
  have positive : 0 < mantissa * 2 ^ shift := full.scaled_pos
  have positiveOther : 0 < other * 2 ^ further := fullOther.scaled_pos
  cases sign with
  | negative =>
    cases signOther with
    | negative =>
      change (some ((compare _ _).then (compare _ _)).swap == some Ordering.lt) = _
      rw [compare_full full fullOther, Nat.compare_swap, isLT_compare]
      exact decide_eq_decide.mpr Int.neg_lt_neg_iff.symm
    | positive => exact (decide_eq_true (by rw [Sign.apply, Sign.apply]; omega)).symm
  | positive =>
    cases signOther with
    | negative => exact (decide_eq_false (by rw [Sign.apply, Sign.apply]; omega)).symm
    | positive =>
      change (some ((compare _ _).then (compare _ _)) == some Ordering.lt) = _
      rw [compare_full full fullOther, isLT_compare]
      rfl

end Order

theorem Holds.lt_eq (holdsLeft : Holds first left) (holdsRight : Holds second right) :
    left.lt right = decide (first < second) := by
  cases holdsLeft with
  | zero =>
    cases holdsRight with
    | zero => rfl
    | @finite sign mantissa shift full range nonzero =>
        have positive : 0 < mantissa * 2 ^ shift := full.scaled_pos
        cases sign with
        | negative => exact (decide_eq_false (by rw [Sign.apply]; omega)).symm
        | positive => exact (decide_eq_true (by rw [Sign.apply]; omega)).symm
  | @finite sign mantissa shift full range nonzero =>
    cases holdsRight with
    | zero =>
        have positive : 0 < mantissa * 2 ^ shift := full.scaled_pos
        cases sign with
        | negative => exact (decide_eq_true (by rw [Sign.apply]; omega)).symm
        | positive => exact (decide_eq_false (by rw [Sign.apply]; omega)).symm
    | finite other fullOther rangeOther nonzeroOther =>
        exact lt_finite sign other full fullOther nonzero nonzeroOther 52

/-! ## Differences -/

section Differences

variable {mantissa other shift further : Nat}

/-- The mantissas are brought to the smaller exponent first. -/
theorem sub_finite (sign signOther : Sign) (nonzero : 0 < mantissa) (nonzeroOther : 0 < other) :
    UnpackedFloat.sub Format.binary64 (.finite sign mantissa (shift - 52) nonzero)
        (.finite signOther other (further - 52) nonzeroOther) =
      UnpackedFloat.normalize Format.binary64
        (sign.apply (mantissa * 2 ^ (shift - min shift further) : Nat) -
          signOther.apply (other * 2 ^ (further - min shift further) : Nat))
        ((min shift further : Nat) - 52) .positive := by
  have smaller : min ((shift : Int) - 52) (further - 52) = (min shift further : Nat) - 52 := by
    omega
  have drop : ((shift : Int) - 52 - ((min shift further : Nat) - 52)).toNat =
      shift - min shift further := by omega
  have dropOther : ((further : Int) - 52 - ((min shift further : Nat) - 52)).toNat =
      further - min shift further := by omega
  rw [UnpackedFloat.sub, smaller, decreaseExponent, decreaseExponent, drop, dropOther,
    Nat.shiftLeft_eq, Nat.shiftLeft_eq]

theorem apply_cut (sign : Sign) (mantissa : Nat) {low : Nat} (fewer : low ≤ shift) :
    sign.apply (mantissa * 2 ^ (shift - low) : Nat) * 2 ^ low =
      sign.apply (mantissa * 2 ^ shift : Nat) := by
  have power : mantissa * 2 ^ (shift - low) * 2 ^ low = mantissa * 2 ^ shift := by
    rw [Nat.mul_assoc, ← Nat.pow_add, Nat.sub_add_cancel fewer]
  rw [apply_mul, ← power]
  push_cast
  rfl

theorem natAbs_apply_lt (sign : Sign) (full : Full mantissa) (range : shift ≤ 64) (low : Nat) :
    (sign.apply (mantissa * 2 ^ (shift - low) : Nat)).natAbs < 2 ^ 117 := by
  rw [natAbs_apply]
  calc mantissa * 2 ^ (shift - low) < 2 ^ 53 * 2 ^ (shift - low) :=
        Nat.mul_lt_mul_of_pos_right full.2 (Nat.two_pow_pos _)
    _ ≤ 2 ^ 53 * 2 ^ 64 := Nat.mul_le_mul_left _ (Nat.pow_le_pow_right (by decide) (by omega))
    _ = 2 ^ 117 := rfl

end Differences

/-- The float is not nearer to zero than `2 ^ -52`. -/
def Distant (float : UnpackedFloat) : Prop :=
  ∃ (sign : Sign) (mantissa shift : Nat) (nonzero : 0 < mantissa),
    float = .finite sign mantissa (shift - 104) nonzero ∧ Full mantissa ∧ shift ≤ 256

theorem distant_finite (sign : Sign) {mantissa shift : Nat} (full : Full mantissa)
    (range : shift ≤ 64) (nonzero : 0 < mantissa) :
    Distant (.finite sign mantissa (shift - 52) nonzero) := by
  refine ⟨sign, mantissa, shift + 52, nonzero, ?_, full, by omega⟩
  rw [UnpackedFloat.finite.injEq]
  exact ⟨rfl, rfl, by omega⟩

theorem distant_normalize {difference : Int} (nonzero : difference ≠ 0)
    (size : difference.natAbs < 2 ^ 118) {low : Nat} (range : low ≤ 64) :
    Distant (UnpackedFloat.normalize Format.binary64 difference (low - 52) .positive) := by
  obtain ⟨sign, magnitude, positive, rfl⟩ := exists_apply nonzero
  obtain ⟨mantissa, shift, full_pos, result, full, -, bound⟩ :=
    exists_round sign positive (show (-1022 : Int) ≤ low - 52 by omega)
  rw [natAbs_apply] at size
  have length := (Nat.log2_lt positive.ne').mpr size
  rw [normalize_apply sign positive, result]
  refine ⟨sign, mantissa, low + shift, full_pos, ?_, full, by omega⟩
  rw [UnpackedFloat.finite.injEq]
  exact ⟨rfl, rfl, by omega⟩

theorem sub_finite_cases (sign signOther : Sign) {mantissa other shift further : Nat}
    (full : Full mantissa) (fullOther : Full other) (range : shift ≤ 64)
    (rangeOther : further ≤ 64) (nonzero : 0 < mantissa) (nonzeroOther : 0 < other) :
    (sign.apply (mantissa * 2 ^ shift : Nat) = signOther.apply (other * 2 ^ further : Nat) →
      UnpackedFloat.sub Format.binary64 (.finite sign mantissa (shift - 52) nonzero)
        (.finite signOther other (further - 52) nonzeroOther) = .zero .positive) ∧
    (sign.apply (mantissa * 2 ^ shift : Nat) ≠ signOther.apply (other * 2 ^ further : Nat) →
      Distant (UnpackedFloat.sub Format.binary64 (.finite sign mantissa (shift - 52) nonzero)
        (.finite signOther other (further - 52) nonzeroOther))) := by
  have size := natAbs_apply_lt sign full range (min shift further)
  have sizeOther := natAbs_apply_lt signOther fullOther rangeOther (min shift further)
  have scaled := apply_cut sign mantissa (Nat.min_le_left shift further)
  have scaledOther := apply_cut signOther other (Nat.min_le_right shift further)
  rw [sub_finite, ← scaled, ← scaledOther]
  constructor
  · intro same
    have unit : (2 : Int) ^ min shift further ≠ 0 := Int.ne_of_gt (Int.pow_pos (by decide))
    rw [Int.eq_of_mul_eq_mul_right unit same, Int.sub_self]
    rfl
  · intro different
    refine distant_normalize (fun zero => different ?_) (by omega) (by omega)
    rw [Int.sub_eq_zero.mp zero]

/-- Different values are at least the last place of one apart, and no rounding brings their
difference nearer to zero. -/
theorem Holds.sub (holdsLeft : Holds first left) (holdsRight : Holds second right) :
    (first = second → UnpackedFloat.sub Format.binary64 left right = .zero .positive) ∧
      (first ≠ second → Distant (UnpackedFloat.sub Format.binary64 left right)) := by
  cases holdsLeft with
  | zero =>
    cases holdsRight with
    | zero => exact ⟨fun _ => rfl, fun different => absurd rfl different⟩
    | finite sign full range nonzero =>
        exact ⟨fun same => absurd same.symm (apply_ne_zero sign full.scaled_pos),
          fun _ => distant_finite (-sign) full range nonzero⟩
  | finite sign full range nonzero =>
    cases holdsRight with
    | zero =>
        exact ⟨fun same => absurd same (apply_ne_zero sign full.scaled_pos),
          fun _ => distant_finite sign full range nonzero⟩
    | finite other fullOther rangeOther nonzeroOther =>
        exact sub_finite_cases sign other full fullOther range rangeOther nonzero nonzeroOther

end Templating.Binary64
