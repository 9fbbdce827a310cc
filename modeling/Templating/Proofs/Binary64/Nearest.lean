import Mathlib.Algebra.Order.Ring.Int

/-!
# Rounding to 53 significant bits

An integer of more than 53 bits is rounded to the nearest number that has only zeros after its
first 53 bits; of two that are equally near, to the one whose last kept bit is zero. Rounding keeps
the order, and it changes no integer up to `2 ^ 53`.
-/

namespace Templating.Binary64

/-- `value / 2 ^ bits`, rounded to the nearest; halfway, to the even one. -/
def nearest (value bits : Nat) : Nat :=
  let whole := value / 2 ^ bits
  let rest := value % 2 ^ bits
  if 2 * rest < 2 ^ bits then whole
  else if 2 ^ bits < 2 * rest then whole + 1
  else whole + whole % 2

/-- How many bits fall away when 53 are kept. -/
def excess (value : Nat) : Nat := value.log2 - 52

def roundedNat (value : Nat) : Nat := nearest value (excess value) * 2 ^ excess value

/-- The nearest integer with 53 significant bits. -/
def rounded (value : Int) : Int := value.sign * roundedNat value.natAbs

variable {first second value bits : Nat}

/-! ## Cutting bits off -/

theorem le_nearest (value bits : Nat) : value / 2 ^ bits ≤ nearest value bits := by
  unfold nearest
  dsimp only
  split_ifs <;> omega

theorem nearest_le (value bits : Nat) : nearest value bits ≤ value / 2 ^ bits + 1 := by
  unfold nearest
  dsimp only
  split_ifs <;> omega

theorem nearest_zero (value : Nat) : nearest value 0 = value := by
  simp [nearest, Nat.mod_one]

theorem nearest_mono (ordered : first ≤ second) (bits : Nat) :
    nearest first bits ≤ nearest second bits := by
  have wholes : first / 2 ^ bits ≤ second / 2 ^ bits := Nat.div_le_div_right ordered
  rcases Nat.lt_or_eq_of_le wholes with below | same
  · calc nearest first bits ≤ first / 2 ^ bits + 1 := nearest_le first bits
      _ ≤ second / 2 ^ bits := below
      _ ≤ nearest second bits := le_nearest second bits
  · have rests : first % 2 ^ bits ≤ second % 2 ^ bits := by
      have := Nat.div_add_mod first (2 ^ bits)
      have := Nat.div_add_mod second (2 ^ bits)
      rw [same] at *
      omega
    unfold nearest
    dsimp only
    rw [same]
    split_ifs <;> omega

/-! ## Keeping 53 bits -/

theorem log2_le_of_lt (less : value < 2 ^ (bits + 1)) : value.log2 ≤ bits := by
  by_cases zero : value = 0
  · rw [zero]
    exact Nat.zero_le bits
  · exact Nat.lt_succ_iff.mp ((Nat.log2_lt zero).mpr less)

/-- The first 53 bits of a number that has as many. -/
theorem kept_bits (large : 52 ≤ value.log2) :
    2 ^ 52 ≤ value / 2 ^ excess value ∧ value / 2 ^ excess value < 2 ^ 53 := by
  have nonzero : value ≠ 0 := by
    rintro rfl
    exact absurd large (by decide)
  obtain ⟨low, high⟩ := (Nat.log2_eq_iff nonzero).mp (rfl : value.log2 = value.log2)
  have split : value.log2 = 52 + excess value := (Nat.add_sub_cancel' large).symm
  have positive : 0 < 2 ^ excess value := Nat.two_pow_pos _
  constructor
  · rw [Nat.le_div_iff_mul_le positive, ← Nat.pow_add, ← split]
    exact low
  · rw [Nat.div_lt_iff_lt_mul positive, ← Nat.pow_add]
    rwa [split, Nat.add_right_comm] at high

theorem nearest_bounds (large : 52 ≤ value.log2) :
    2 ^ 52 ≤ nearest value (excess value) ∧ nearest value (excess value) ≤ 2 ^ 53 := by
  obtain ⟨low, high⟩ := kept_bits large
  exact ⟨low.trans (le_nearest value _), (nearest_le value _).trans high⟩

theorem roundedNat_of_log2 (small : value.log2 ≤ 52) : roundedNat value = value := by
  have whole : excess value = 0 := Nat.sub_eq_zero_of_le small
  rw [roundedNat, whole, nearest_zero, Nat.pow_zero, Nat.mul_one]

theorem roundedNat_of_le (small : value ≤ 2 ^ 53) : roundedNat value = value := by
  rcases Nat.lt_or_eq_of_le small with below | rfl
  · exact roundedNat_of_log2 (log2_le_of_lt below)
  · decide

theorem pow_le_roundedNat (nonzero : value ≠ 0) : 2 ^ value.log2 ≤ roundedNat value := by
  by_cases large : 52 ≤ value.log2
  · have split : value.log2 = 52 + excess value := (Nat.add_sub_cancel' large).symm
    rw [split, Nat.pow_add, roundedNat]
    exact Nat.mul_le_mul_right _ (nearest_bounds large).1
  · rw [roundedNat_of_log2 (by omega)]
    exact Nat.log2_self_le nonzero

theorem roundedNat_le_pow (value : Nat) : roundedNat value ≤ 2 ^ (value.log2 + 1) := by
  by_cases large : 52 ≤ value.log2
  · have split : value.log2 + 1 = 53 + excess value := by
      rw [excess]
      omega
    rw [split, Nat.pow_add, roundedNat]
    exact Nat.mul_le_mul_right _ (nearest_bounds large).2
  · rw [roundedNat_of_log2 (by omega)]
    exact Nat.lt_log2_self.le

theorem roundedNat_mono (ordered : first ≤ second) : roundedNat first ≤ roundedNat second := by
  by_cases zero : first = 0
  · rw [zero]
    exact Nat.zero_le _
  have nonzero : second ≠ 0 := by omega
  have lengths : first.log2 ≤ second.log2 :=
    (Nat.le_log2 nonzero).mpr ((Nat.log2_self_le zero).trans ordered)
  rcases Nat.lt_or_eq_of_le lengths with below | same
  · calc roundedNat first ≤ 2 ^ (first.log2 + 1) := roundedNat_le_pow first
      _ ≤ 2 ^ second.log2 := Nat.pow_le_pow_right (by decide) below
      _ ≤ roundedNat second := pow_le_roundedNat nonzero
  · rw [roundedNat, roundedNat, excess, excess, same]
    exact Nat.mul_le_mul_right _ (nearest_mono ordered _)

/-! ## Signs -/

theorem rounded_natCast (value : Nat) : rounded value = roundedNat value := by
  cases value with
  | zero => rfl
  | succ value =>
      rw [rounded, Int.sign_natCast_of_ne_zero value.succ_ne_zero, Int.one_mul,
        Int.natAbs_natCast]

theorem rounded_neg (value : Int) : rounded (-value) = -rounded value := by
  rw [rounded, rounded, Int.sign_neg, Int.natAbs_neg, Int.neg_mul]

theorem rounded_of_natAbs_le {value : Int} (small : value.natAbs ≤ 2 ^ 53) :
    rounded value = value := by
  rw [rounded, roundedNat_of_le small, Int.sign_mul_natAbs]

theorem rounded_mono {first second : Int} (ordered : first ≤ second) :
    rounded first ≤ rounded second := by
  obtain ⟨left, rfl | rfl⟩ := first.eq_nat_or_neg
  all_goals obtain ⟨right, rfl | rfl⟩ := second.eq_nat_or_neg
  · rw [rounded_natCast, rounded_natCast]
    exact Int.ofNat_le.mpr (roundedNat_mono (Int.ofNat_le.mp ordered))
  · have zeros : left = 0 ∧ right = 0 := by omega
    rw [zeros.1, zeros.2]
    decide
  · rw [rounded_neg, rounded_natCast, rounded_natCast]
    omega
  · rw [rounded_neg, rounded_neg, rounded_natCast, rounded_natCast]
    have magnitudes := roundedNat_mono (show right ≤ left by omega)
    omega

end Templating.Binary64
