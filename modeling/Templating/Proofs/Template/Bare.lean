import Templating.Proofs.Decimal.Numeral
import Templating.Proofs.Template.Quoted
import Templating.Template.Tokenizer

/-!
# Arguments without quotes

Integers, boolean words and variable names consist of bare characters: none of them is blank, opens
quotes or separates anything. Reading such an argument gives the integer, the boolean value or the
reference that it was written for.
-/

namespace Templating.Template

open Text (isBlank Solid)

variable {separator c d : Char} {text : List Char}

/-- The characters of integers, boolean words and names. -/
def IsBareChar (c : Char) : Prop := c.isAlphanum = true ∨ c = '_' ∨ c = '.' ∨ c = '-'

instance (c : Char) : Decidable (IsBareChar c) := inferInstanceAs (Decidable (_ ∨ _))

theorem IsBareChar.ne (bare : IsBareChar c) (special : ¬ IsBareChar d) : c ≠ d := by
  rintro rfl
  exact special bare

theorem IsBareChar.not_isQuote (bare : IsBareChar c) : ¬ IsQuote c := by
  rintro (rfl | rfl)
  · exact absurd bare (by decide)
  · exact absurd bare (by decide)

/-- Letters have their codes in two ranges. -/
theorem code_of_isAlpha (letter : c.isAlpha = true) :
    65 ≤ c.toNat ∧ c.toNat ≤ 90 ∨ 97 ≤ c.toNat ∧ c.toNat ≤ 122 := by
  have ranges : (decide (c.val ≥ 'A'.val ∧ c.val ≤ 'Z'.val) ||
      (decide (c.val ≥ 'a'.val) && decide (c.val ≤ 'z'.val))) = true := letter
  have same : c.toNat = c.val.toNat := rfl
  simp [UInt32.le_iff_toNat_le] at ranges
  omega

theorem code_of_isDigit (digit : c.isDigit = true) : 48 ≤ c.toNat ∧ c.toNat ≤ 57 :=
  Char.isDigit_iff_toNat.mp digit

theorem isBlank_of_isBareChar (bare : IsBareChar c) : isBlank c = false := by
  rcases bare with named | rfl | rfl | rfl
  · have code : 48 ≤ c.toNat ∧ c.toNat ≤ 122 := by
      rcases (Bool.or_eq_true _ _).mp named with letter | digit
      · have ranges := code_of_isAlpha letter
        omega
      · have range := code_of_isDigit digit
        omega
    rw [isBlank, ← Bool.not_eq_true]
    simp
    omega
  all_goals decide

/-- Text of bare characters alone. -/
structure Bare (text : List Char) : Prop where
  nonempty : text ≠ []
  each : ∀ c ∈ text, IsBareChar c

namespace Bare

theorem solid (bare : Bare text) : Solid text :=
  Solid.of_forall bare.nonempty fun c member => isBlank_of_isBareChar (bare.each c member)

theorem isSealed (bare : Bare text) (special : ¬ IsBareChar separator) : Sealed separator text :=
  Sealed.of_forall fun c member =>
    ⟨(bare.each c member).not_isQuote, (bare.each c member).ne special⟩

theorem readArgument_eq (bare : Bare text) : readArgument text = plainArgument text := by
  have unquoted : quotedArgument? text = none :=
    quotedArgument?_eq_none fun c first =>
      (bare.each c (List.mem_of_mem_head? first)).not_isQuote
  have filled : text.isEmpty = false := List.isEmpty_eq_false_iff.mpr bare.nonempty
  rw [readArgument, unquoted, filled]
  rfl

end Bare

theorem bare_writeInteger (value : Int) : Bare (Decimal.writeInteger value) where
  nonempty := Decimal.writeInteger_ne_nil value
  each c member := by
    rcases Decimal.isDigit_or_minus_of_mem_writeInteger member with digit | rfl
    · exact .inl (by simp [Char.isAlphanum, digit])
    · decide

theorem plainArgument_writeInteger (value : Int64) :
    plainArgument (Decimal.writeInteger value.toInt) = .literal (.int value) := by
  rw [plainArgument, Decimal.readInt64?_writeInteger]

/-! ## Words -/

theorem isBareChar_of_isNameChar (named : isNameChar c = true) : IsBareChar c := by
  simp only [isNameChar, Bool.or_eq_true, beq_iff_eq] at named
  rcases named with (letter | underscore) | dot
  · exact .inl letter
  · exact .inr (.inl underscore)
  · exact .inr (.inr (.inl dot))

theorem isNameChar_of_isNameStart (start : isNameStart c = true) : isNameChar c = true := by
  simp only [isNameStart, Bool.or_eq_true] at start
  rcases start with letter | underscore
  · simp [isNameChar, Char.isAlphanum, letter]
  · simp [isNameChar, underscore]

theorem isDigit_of_isNameStart (start : isNameStart c = true) : c.isDigit = false := by
  rw [← Bool.not_eq_true]
  intro digit
  simp only [isNameStart, Bool.or_eq_true, beq_iff_eq] at start
  rcases start with letter | rfl
  · have ranges := code_of_isAlpha letter
    have range := code_of_isDigit digit
    omega
  · exact absurd digit (by decide)

theorem looksLikeFloat_of_isNameStart (start : isNameStart c = true) {rest : List Char}
    (float : looksLikeFloat (c :: rest) = true) : c = 'e' ∨ c = 'E' := by
  have digit := isDigit_of_isNameStart start
  simp only [looksLikeFloat, Bool.and_eq_true, List.all_cons, Bool.or_eq_true, beq_iff_eq] at float
  rcases float.2.1 with ((((number | rfl) | lower) | upper) | rfl) | rfl
  · rw [digit] at number
    exact absurd number Bool.false_ne_true
  · exact absurd start (by decide)
  · exact .inl lower
  · exact .inr upper
  · exact absurd start (by decide)
  · exact absurd start (by decide)

theorem bare_of_isVariableName (valid : isVariableName text = true) : Bare text := by
  cases text with
  | nil => cases valid
  | cons c rest =>
      rw [isVariableName, Bool.and_eq_true, List.all_eq_true] at valid
      refine ⟨List.cons_ne_nil _ _, List.forall_mem_cons.mpr ⟨?_, fun d member => ?_⟩⟩
      · exact isBareChar_of_isNameChar (isNameChar_of_isNameStart valid.1)
      · exact isBareChar_of_isNameChar (valid.2 d member)

theorem bare_boolean (value : Bool) : Bare (toString value).toList := by
  cases value with
  | false => exact bare_of_isVariableName rfl
  | true => exact bare_of_isVariableName rfl

theorem plainArgument_boolean (value : Bool) :
    plainArgument (toString value).toList = .literal (.bool value) := by
  cases value with
  | false => rfl
  | true => rfl

/-- A name is a reference, also where its letters could stand in a number. -/
theorem plainArgument_of_isVariableName {name : String} (valid : isVariableName name.toList = true)
    (word : name ∉ ["true", "yes", "false", "no"]) :
    plainArgument name.toList = .reference name := by
  obtain ⟨c, rest, shape⟩ : ∃ c rest, name.toList = c :: rest := by
    cases equal : name.toList with
    | nil => exact absurd valid (by rw [equal]; decide)
    | cons c rest => exact ⟨c, rest, rfl⟩
  have start : isNameStart c = true := by
    rw [shape, isVariableName, Bool.and_eq_true] at valid
    exact valid.1
  have integer : Decimal.readInt64? name.toList = none := by
    rw [shape]
    refine Decimal.readInt64?_of_head ?_ ?_ (isDigit_of_isNameStart start) rest
    · rintro rfl
      exact absurd start (by decide)
    · rintro rfl
      exact absurd start (by decide)
  have float : (if looksLikeFloat name.toList then Decimal.readFloat? name.toList else none) =
      none := by
    split
    next float =>
      rw [shape] at float ⊢
      exact Decimal.readFloat?_of_exponent (looksLikeFloat_of_isNameStart start float) rest
    next => rfl
  simp only [List.mem_cons, List.not_mem_nil, or_false, not_or] at word
  obtain ⟨notTrue, notYes, notFalse, notNo⟩ := word
  rw [plainArgument, integer, float]
  simp [notTrue, notYes, notFalse, notNo]

end Templating.Template
