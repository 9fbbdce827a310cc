import Mathlib.Algebra.Order.Ring.Int
import Templating.Decimal.Integer
import Templating.Proofs.Lexicographic

/-!
# Numbers of a fixed width

Filled up with zeros to one width, numbers of at most that many digits have texts of one length,
which stand in the order of the numbers.
-/

namespace Templating.Decimal

open Text (utf8)

variable {width value first second : Nat}

theorem padded_one (small : value < 10) : padded 1 value = [value.digitChar] := by
  rw [padded, writeNat, Nat.toDigits_of_lt_base small]
  rfl

/-- The last digit stands apart from those before it. -/
theorem padded_succ (positive : 0 < width) (value : Nat) :
    padded (width + 1) value = padded width (value / 10) ++ [(value % 10).digitChar] := by
  rw [padded, padded, writeNat, writeNat]
  rcases Nat.lt_or_ge value 10 with small | large
  · obtain ⟨more, rfl⟩ := Nat.exists_eq_add_of_le' positive
    rw [Nat.toDigits_of_lt_base small, Nat.div_eq_of_lt small, Nat.mod_eq_of_lt small]
    simp [Nat.toDigits_zero, List.replicate_succ']
  · rw [Nat.toDigits_of_base_le (by decide) large]
    simp

theorem length_utf8_digit (small : value < 10) : (utf8 [value.digitChar]).length = 1 := by
  rw [Text.utf8_eq]
  have every : ∀ digit : Fin 10,
      ([digit.val.digitChar].flatMap String.utf8EncodeChar).length = 1 := by decide
  exact every ⟨value, small⟩

theorem compare_utf8_digit (small : first < 10) (small' : second < 10) :
    compare (utf8 [first.digitChar]) (utf8 [second.digitChar]) = compare first second := by
  rw [Text.utf8_eq, Text.utf8_eq]
  have every : ∀ digit other : Fin 10,
      compare ([digit.val.digitChar].flatMap String.utf8EncodeChar)
        ([other.val.digitChar].flatMap String.utf8EncodeChar) = compare digit.val other.val := by
    decide
  exact every ⟨first, small⟩ ⟨second, small'⟩

theorem div_ten_lt (small : value < 10 ^ (width + 1)) : value / 10 < 10 ^ width :=
  Nat.div_lt_of_lt_mul (by rwa [Nat.pow_succ'] at small)

theorem length_utf8_padded (positive : 0 < width) (small : value < 10 ^ width) :
    (utf8 (padded width value)).length = width := by
  induction width, positive using Nat.le_induction generalizing value with
  | base =>
      rw [padded_one small]
      exact length_utf8_digit small
  | succ width positive ih =>
      rw [padded_succ positive, Text.utf8_append, List.length_append, ih (div_ten_lt small),
        length_utf8_digit (Nat.mod_lt _ (by decide))]

theorem compare_utf8_padded (positive : 0 < width) (small : first < 10 ^ width)
    (small' : second < 10 ^ width) :
    compare (utf8 (padded width first)) (utf8 (padded width second)) = compare first second := by
  induction width, positive using Nat.le_induction generalizing first second with
  | base =>
      rw [padded_one small, padded_one small']
      exact compare_utf8_digit small small'
  | succ width positive ih =>
      have front := div_ten_lt small
      have front' := div_ten_lt small'
      have same : (utf8 (padded width (first / 10))).length =
          (utf8 (padded width (second / 10))).length := by
        rw [length_utf8_padded positive front, length_utf8_padded positive front']
      have last := compare_utf8_digit (Nat.mod_lt first (show 0 < 10 by decide))
        (Nat.mod_lt second (show 0 < 10 by decide))
      have parts : compare first second =
          (compare (first / 10) (second / 10)).then (compare (first % 10) (second % 10)) :=
        compare_eq_then (fun _ => by omega) (fun _ => by omega) fun _ =>
          compare_eq_compare (fun _ => by omega) (fun _ => by omega) fun _ => by omega
      rw [padded_succ positive, padded_succ positive, Text.compare_utf8_append same,
        ih front front', last, parts]

end Templating.Decimal
