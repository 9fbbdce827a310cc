import Mathlib.Data.List.Basic
import Mathlib.Tactic.SplitIfs
import Templating.Json.Quoted

/-!
# Quoted text comes back

Between its quotes a written text has no quote of its own, and taking its escapes back gives the
text. Every character is written in one of three ways; the readers are followed character by
character.
-/

namespace Templating.Json

/-- How a character is written: after a backslash as the letter of its escape, with four digits, or
as itself. -/
inductive Spelling (c : Char) : List Char → Prop
  | letter {letter : Char} (other : letter ≠ 'u') (escape : escapeLetter? letter = some c) :
      Spelling c ['\\', letter]
  | digits (control : c.toNat < 0x20) :
      Spelling c ['\\', 'u', '0', '0', hexDigit (c.toNat / 16), hexDigit (c.toNat % 16)]
  | plain (visible : ¬ c.toNat < 0x20) (unquoted : c ≠ '"') (solid : c ≠ '\\') : Spelling c [c]

theorem spelling_quotedChar (c : Char) : Spelling c (quotedChar c) := by
  have letter : ∀ {mark letter : Char}, letter ≠ 'u' → escapeLetter? letter = some mark →
      c = mark → Spelling c ['\\', letter] := by
    rintro mark letter other escape rfl
    exact .letter other escape
  unfold quotedChar
  split_ifs with quote backslash backspace feed line return' tab control
  · exact letter (by decide) rfl quote
  · exact letter (by decide) rfl backslash
  · exact letter (by decide) rfl backspace
  · exact letter (by decide) rfl feed
  · exact letter (by decide) rfl line
  · exact letter (by decide) rfl return'
  · exact letter (by decide) rfl tab
  · exact .digits control
  · exact .plain control quote backslash

theorem digitIn?_hexDigit {value : Nat} (small : value < 16) :
    Text.digitIn? 16 (hexDigit value) = some value := by
  have each : ∀ value < 16, Text.digitIn? 16 (hexDigit value) = some value := by decide
  exact each value small

/-- The four digits of a control read as its code. -/
theorem unit?_control {code : Nat} (control : code < 0x20) :
    unit? '0' '0' (hexDigit (code / 16)) (hexDigit (code % 16)) = some code := by
  have high : Text.digitIn? 16 (hexDigit (code / 16)) = some (code / 16) :=
    digitIn?_hexDigit (by omega)
  have low : Text.digitIn? 16 (hexDigit (code % 16)) = some (code % 16) :=
    digitIn?_hexDigit (by omega)
  have zero : Text.digitIn? 16 '0' = some 0 := by decide
  have sum : code / 16 * 16 + code % 16 = code := by omega
  simp [unit?, Text.readBase?, zero, high, low, sum]

/-! ## The closing quote -/

theorem body?_cons {c : Char} (unquoted : c ≠ '"') (solid : c ≠ '\\') (text : List Char) :
    body? (c :: text) = (body? text).map fun parts => (c :: parts.1, parts.2) := by
  rw [body?]
  · exact unquoted
  · exact fun _ _ equal _ => solid equal

theorem body?_spelling {c : Char} {written : List Char} (spelling : Spelling c written)
    (text : List Char) :
    body? (written ++ text) = (body? text).map fun parts => (written ++ parts.1, parts.2) := by
  have digit : ∀ value < 16, hexDigit value ≠ '"' ∧ hexDigit value ≠ '\\' := by decide
  cases spelling with
  | letter other escape => rfl
  | digits control =>
      obtain ⟨unquotedHigh, solidHigh⟩ := digit (c.toNat / 16) (by omega)
      obtain ⟨unquotedLow, solidLow⟩ := digit (c.toNat % 16) (by omega)
      have zero := body?_cons (c := '0') (by decide) (by decide)
      simp [body?, zero, body?_cons unquotedHigh solidHigh, body?_cons unquotedLow solidLow,
        Function.comp_def]
  | plain visible unquoted solid => exact body?_cons unquoted solid text

theorem body?_quoted (text rest : List Char) :
    body? (text.flatMap quotedChar ++ '"' :: rest) = some (text.flatMap quotedChar, rest) := by
  induction text with
  | nil => rfl
  | cons c text ih =>
      rw [List.flatMap_cons, List.append_assoc, body?_spelling (spelling_quotedChar c), ih]
      rfl

/-! ## The escapes -/

theorem unquote?_letter {letter c : Char} (other : letter ≠ 'u')
    (escape : escapeLetter? letter = some c) (text : List Char) :
    unquote? ('\\' :: letter :: text) = (unquote? text).map (c :: ·) := by
  rw [unquote?, escape]
  · rfl
  · exact fun _ _ _ _ _ _ _ _ _ equal _ => other equal
  · exact fun _ _ _ _ _ equal _ => other equal

theorem unquote?_digits {code : Nat} (control : code < 0x20) (text : List Char) :
    unquote? ('\\' :: 'u' :: '0' :: '0' :: hexDigit (code / 16) :: hexDigit (code % 16) :: text) =
      (unquote? text).map (Char.ofNat code :: ·) := by
  have first := unit?_control control
  have high : isHighHalf code = false := by simp [isHighHalf]; omega
  have low : isLowHalf code = false := by simp [isLowHalf]; omega
  -- The reader looks at two escapes with digits together, in case they are the halves of a pair.
  by_cases pair : ∃ e f g h rest, text = '\\' :: 'u' :: e :: f :: g :: h :: rest
  · obtain ⟨e, f, g, h, rest, rfl⟩ := pair
    rw [unquote?, first]
    simp [high, low]
  · rw [unquote?, first]
    · simp [high, low]
    · exact fun e f g h rest equal => pair ⟨e, f, g, h, rest, equal⟩

theorem unquote?_plain {c : Char} (visible : ¬ c.toNat < 0x20) (solid : c ≠ '\\')
    (text : List Char) : unquote? (c :: text) = (unquote? text).map (c :: ·) := by
  rw [unquote?, if_neg (by simp [visible, solid])]
  · exact fun _ _ _ _ _ _ _ _ _ equal _ => solid equal
  · exact fun _ _ _ _ _ equal _ => solid equal
  · exact fun _ _ equal _ => solid equal

theorem unquote?_spelling {c : Char} {written : List Char} (spelling : Spelling c written)
    (text : List Char) : unquote? (written ++ text) = (unquote? text).map (c :: ·) := by
  cases spelling with
  | letter other escape => exact unquote?_letter other escape text
  | digits control =>
      have written := unquote?_digits control text
      rwa [Char.ofNat_toNat] at written
  | plain visible unquoted solid => exact unquote?_plain visible solid text

theorem unquote?_quoted (text : List Char) : unquote? (text.flatMap quotedChar) = some text := by
  induction text with
  | nil => rw [List.flatMap_nil, unquote?]
  | cons c text ih =>
      rw [List.flatMap_cons, unquote?_spelling (spelling_quotedChar c), ih]
      rfl

end Templating.Json
