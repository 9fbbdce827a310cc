import Templating.Json.Reading
import Templating.Proofs.Json.Numeral
import Templating.Proofs.Json.Quoted

/-!
# Lexemes and their spellings

`Spells` says how lexemes can be written one after the other: with any blanks between them, and
with no character of a number right after a number. Cutting such a text gives the lexemes. Both
layouts of a tree spell the same lexemes.
-/

namespace Templating.Json

/-- The text does not go on with a character of a number. -/
def Apart (text : List Char) : Prop := ∀ c ∈ text.head?, isNumberChar c = false

/-- The lexemes are those of the text. -/
inductive Spells : List Lexeme → List Char → Prop
  | nil : Spells [] []
  | blank {lexemes : List Lexeme} {c : Char} {text : List Char} (space : isSpace c = true)
      (rest : Spells lexemes text) : Spells lexemes (c :: text)
  | mark {lexemes : List Lexeme} {lexeme : Lexeme} {c : Char} {text : List Char}
      (found : markLexeme? c = some lexeme) (rest : Spells lexemes text) :
      Spells (lexeme :: lexemes) (c :: text)
  | null {lexemes : List Lexeme} {text : List Char} (rest : Spells lexemes text) :
      Spells (.null :: lexemes) ('n' :: 'u' :: 'l' :: 'l' :: text)
  | yes {lexemes : List Lexeme} {text : List Char} (rest : Spells lexemes text) :
      Spells (.bool true :: lexemes) ('t' :: 'r' :: 'u' :: 'e' :: text)
  | no {lexemes : List Lexeme} {text : List Char} (rest : Spells lexemes text) :
      Spells (.bool false :: lexemes) ('f' :: 'a' :: 'l' :: 's' :: 'e' :: text)
  | number {lexemes : List Lexeme} {number : Number} {text : List Char} (whole : number.Whole)
      (apart : Apart text) (rest : Spells lexemes text) :
      Spells (.number number :: lexemes) (number.write ++ text)
  | string {lexemes : List Lexeme} {text : List Char} (content : String)
      (rest : Spells lexemes text) :
      Spells (.string content :: lexemes) (quoted content.toList ++ text)

variable {c : Char} {lexeme : Lexeme} {lexemes : List Lexeme} {number : Number}
  {text : List Char}

/-! ## One lexeme -/

theorem lexemes?_blank (space : isSpace c = true) (text : List Char) :
    lexemes? (c :: text) = lexemes? text := by
  have first : c = ' ' ∨ c = '\t' ∨ c = '\n' ∨ c = '\r' := by
    simpa [isSpace, or_assoc] using space
  rcases first with rfl | rfl | rfl | rfl <;> simp [lexemes?, isSpace]

/-- A mark starts no lexeme of several characters. -/
theorem mark_alone (found : markLexeme? c = some lexeme) :
    (c ≠ 'n' ∧ c ≠ 't' ∧ c ≠ 'f') ∧ isSpace c = false ∧ c ≠ '"' ∧ isNumberChar c = false := by
  have code : ∀ {code : Nat}, c.toNat = code → c = Char.ofNat code := by
    rintro code rfl
    exact (Char.ofNat_toNat c).symm
  unfold markLexeme? at found
  split at found
  next same => cases code same; decide
  next same => cases code same; decide
  next same => cases code same; decide
  next same => cases code same; decide
  next same => cases code same; decide
  next same => cases code same; decide
  next => cases found

theorem lexemes?_mark (found : markLexeme? c = some lexeme) (text : List Char) :
    lexemes? (c :: text) = (lexemes? text).map (lexeme :: ·) := by
  obtain ⟨⟨noN, noT, noF⟩, solid, unquoted, noNumber⟩ := mark_alone found
  rw [lexemes?, if_neg (by simp [solid]), if_neg unquoted, if_neg (by simp [noNumber]), found]
  · cases lexemes? text <;> rfl
  · exact fun _ equal _ => noN equal
  · exact fun _ equal _ => noT equal
  · exact fun _ equal _ => noF equal

theorem lexemes?_string (content : String) (text : List Char) :
    lexemes? (quoted content.toList ++ text) = (lexemes? text).map (.string content :: ·) := by
  have shape : quoted content.toList ++ text =
      '"' :: (content.toList.flatMap quotedChar ++ '"' :: text) := by simp [quoted]
  rw [shape, lexemes?, if_neg (by decide), if_pos rfl]
  · split
    next missing => rw [body?_quoted] at missing; cases missing
    next body tail found =>
      rw [body?_quoted] at found
      cases found
      rw [unquote?_quoted]
      cases lexemes? text with
      | none => rfl
      | some others => simp
  · exact fun _ equal _ => absurd equal (by decide)
  · exact fun _ equal _ => absurd equal (by decide)
  · exact fun _ equal _ => absurd equal (by decide)

theorem isNumberChar_of_mem_write (whole : number.Whole) :
    ∀ c ∈ number.write, isNumberChar c = true := by
  have digit : ∀ {c : Char}, c.isDigit = true → isNumberChar c = true := fun digit => by
    simp [isNumberChar, digit]
  intro c member
  cases number with
  | natural value => exact digit (Decimal.isDigit_of_mem_writeNat member)
  | negative value =>
      rcases Decimal.isDigit_or_minus_of_mem_writeInteger member with found | rfl
      · exact digit found
      · rfl
  | float value => exact whole.elim

theorem write_ne_nil (whole : number.Whole) : number.write ≠ [] := by
  cases number with
  | natural value => exact Decimal.writeNat_ne_nil _
  | negative value => exact Decimal.writeInteger_ne_nil _
  | float value => exact whole.elim

theorem takeWhile_append_of_apart {front : List Char} (all : ∀ c ∈ front, isNumberChar c = true)
    (apart : Apart text) : (front ++ text).takeWhile isNumberChar = front := by
  rw [List.takeWhile_append_of_pos all]
  cases text with
  | nil => simp
  | cons c rest => simp [apart c rfl]

theorem dropWhile_append_of_apart {front : List Char} (all : ∀ c ∈ front, isNumberChar c = true)
    (apart : Apart text) : (front ++ text).dropWhile isNumberChar = text := by
  rw [List.dropWhile_append_of_pos all]
  cases text with
  | nil => rfl
  | cons c rest => simp [apart c rfl]

theorem number_alone (number : isNumberChar c = true) :
    (c ≠ 'n' ∧ c ≠ 't' ∧ c ≠ 'f') ∧ isSpace c = false ∧ c ≠ '"' := by
  have other : ∀ {d : Char}, isNumberChar d = false → c ≠ d := by
    rintro d none rfl
    exact absurd number (ne_true_of_eq_false none)
  have solid : isSpace c = false := by
    simp [isSpace, other (d := ' ') rfl, other (d := '\t') rfl, other (d := '\n') rfl,
      other (d := '\r') rfl]
  exact ⟨⟨other rfl, other rfl, other rfl⟩, solid, other rfl⟩

theorem lexemes?_number (whole : number.Whole) (apart : Apart text) :
    lexemes? (number.write ++ text) = (lexemes? text).map (.number number :: ·) := by
  have back := number?_write whole
  have all := isNumberChar_of_mem_write whole
  cases shape : number.write with
  | nil => exact absurd shape (write_ne_nil whole)
  | cons c rest =>
      rw [shape] at back all
      obtain ⟨first, later⟩ := List.forall_mem_cons.mp all
      obtain ⟨⟨noN, noT, noF⟩, solid, unquoted⟩ := number_alone first
      rw [List.cons_append, lexemes?, if_neg (by simp [solid]), if_neg unquoted, if_pos first,
        takeWhile_append_of_apart later apart, dropWhile_append_of_apart later apart, back]
      · cases lexemes? text <;> rfl
      · exact fun _ equal _ => noN equal
      · exact fun _ equal _ => noT equal
      · exact fun _ equal _ => noF equal

theorem lexemes?_of_spells (spelled : Spells lexemes text) : lexemes? text = some lexemes := by
  induction spelled with
  | nil => rw [lexemes?]
  | blank space rest ih => rw [lexemes?_blank space, ih]
  | mark found rest ih => rw [lexemes?_mark found, ih, Option.map_some]
  | null rest ih => rw [lexemes?, ih, Option.map_some]
  | yes rest ih => rw [lexemes?, ih, Option.map_some]
  | no rest ih => rw [lexemes?, ih, Option.map_some]
  | number whole apart rest ih => rw [lexemes?_number whole apart, ih, Option.map_some]
  | string content rest ih => rw [lexemes?_string, ih, Option.map_some]

end Templating.Json
