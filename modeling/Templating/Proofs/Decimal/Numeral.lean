import Mathlib.Data.List.Basic
import Templating.Decimal.Reading

/-!
# Numerals that are written and read

Reading a written integer gives it back. It is written with digits alone, after a minus sign if it
is negative. Text that starts with another character is no integer, and the letter of an exponent
starts no float.
-/

namespace Templating.Decimal

theorem writeNat_ne_nil (value : Nat) : writeNat value ≠ [] := Nat.toDigits_ne_nil

theorem isDigit_of_mem_writeNat {value : Nat} {c : Char} (member : c ∈ writeNat value) :
    c.isDigit = true :=
  Nat.isDigit_of_mem_toDigits (by decide) (by decide) member

/-- Without a sign in front, an integer is read as its digits. -/
theorem readInteger?_of_digits {digits : List Char} (all : ∀ c ∈ digits, c.isDigit = true) :
    readInteger? digits = (readDigits? digits).map Int.ofNat := by
  unfold readInteger?
  split
  next rest => exact absurd (all '-' List.mem_cons_self) (by decide)
  next rest => exact absurd (all '+' List.mem_cons_self) (by decide)
  next => rfl

theorem readInt64?_of_head {c : Char} (minus : c ≠ '-') (plus : c ≠ '+')
    (digit : c.isDigit = false) (rest : List Char) : readInt64? (c :: rest) = none := by
  have digits : readDigits? (c :: rest) = none := by simp [readDigits?, digit]
  have refused : readInteger? (c :: rest) = none := by
    unfold readInteger?
    split
    next equal => exact absurd (List.cons.inj equal).1 minus
    next equal => exact absurd (List.cons.inj equal).1 plus
    next =>
      rw [digits]
      rfl
  rw [readInt64?, refused]
  rfl

/-- The word differs from those for infinity and for no number in its first letter. -/
theorem readFloat?_of_exponent {c : Char} (letter : c = 'e' ∨ c = 'E') (rest : List Char) :
    readFloat? (c :: rest) = none := by
  have lowered : String.ofList ((c :: rest).map Char.toLower) =
      String.ofList ('e' :: rest.map Char.toLower) := by
    rcases letter with rfl | rfl <;> rfl
  have parts : readParts? (c :: rest) = none := by rcases letter with rfl | rfl <;> rfl
  have word : ∀ first tail, first ≠ 'e' →
      String.ofList ('e' :: rest.map Char.toLower) ≠ String.ofList (first :: tail) := by
    intro first tail other equal
    have same := congrArg String.toList equal
    rw [String.toList_ofList, String.toList_ofList] at same
    exact other (List.cons.inj same).1.symm
  have finite : ¬ (decide (String.ofList ('e' :: rest.map Char.toLower) = "inf") ||
      decide (String.ofList ('e' :: rest.map Char.toLower) = "infinity")) = true := by
    rw [Bool.or_eq_true, decide_eq_true_eq, decide_eq_true_eq]
    rintro (equal | equal)
    · exact word 'i' ['n', 'f'] (by decide) equal
    · exact word 'i' ['n', 'f', 'i', 'n', 'i', 't', 'y'] (by decide) equal
  have magnitude : readMagnitude? (c :: rest) = none := by
    rw [readMagnitude?, lowered, parts]
    exact (if_neg finite).trans (if_neg (word 'n' ['a', 'n'] (by decide)))
  rcases letter with rfl | rfl
  · exact magnitude
  · exact magnitude

theorem readInteger?_writeInteger (value : Int) :
    readInteger? (writeInteger value) = some value := by
  cases value with
  | ofNat value =>
      rw [writeInteger, readInteger?_of_digits fun c => isDigit_of_mem_writeNat,
        readDigits?_writeNat]
      rfl
  | negSucc value =>
      rw [writeInteger, readInteger?, readDigits?_writeNat]
      rfl

theorem int64?_toInt (value : Int64) : int64? value.toInt = some value := by
  have range : Int64.minValue.toInt ≤ value.toInt ∧ value.toInt ≤ Int64.maxValue.toInt :=
    ⟨Int64.minValue_le_toInt value, Int64.toInt_le value⟩
  rw [int64?, if_pos range, Int64.ofInt_toInt]

theorem readInt64?_writeInteger (value : Int64) :
    readInt64? (writeInteger value.toInt) = some value := by
  rw [readInt64?, readInteger?_writeInteger, Option.bind_some, int64?_toInt]

theorem writeInteger_ne_nil (value : Int) : writeInteger value ≠ [] := by
  cases value with
  | ofNat value => exact writeNat_ne_nil value
  | negSucc value => exact List.cons_ne_nil _ _

theorem isDigit_or_minus_of_mem_writeInteger {value : Int} {c : Char}
    (member : c ∈ writeInteger value) : c.isDigit = true ∨ c = '-' := by
  cases value with
  | ofNat value => exact .inl (isDigit_of_mem_writeNat member)
  | negSucc value =>
      rcases List.mem_cons.mp member with minus | digit
      · exact .inr minus
      · exact .inl (isDigit_of_mem_writeNat digit)

end Templating.Decimal
