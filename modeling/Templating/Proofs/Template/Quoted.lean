import Mathlib.Algebra.Group.Nat.Even
import Mathlib.Data.List.Infix
import Templating.Proofs.Template.Quoting
import Templating.Template.Pipeline

/-!
# Strings that are written in quotes

A string is written between two quotes of one kind, with a backslash before each such quote inside.
When the runs of backslashes in it are paired, a scan stays inside the quotes up to the last one,
and reading the argument gives the string back.
-/

namespace Templating.Template

open Text (Solid)

variable {mark c : Char} {text inner content : List Char}

theorem IsQuote.ne_backslash (opening : IsQuote mark) : mark ≠ '\\' := by
  rcases opening with rfl | rfl <;> decide

/-! ## Escapes -/

/-- Puts a backslash before each `mark`. -/
def escape (mark : Char) (text : List Char) : List Char :=
  text.flatMap fun c => if c = mark then ['\\', c] else [c]

theorem escape_cons_self (mark : Char) (text : List Char) :
    escape mark (mark :: text) = '\\' :: mark :: escape mark text := by
  simp [escape]

theorem escape_cons_of_ne (other : c ≠ mark) (text : List Char) :
    escape mark (c :: text) = c :: escape mark text := by
  simp [escape, other]

theorem head?_escape_ne (opening : IsQuote mark) (text : List Char) :
    (escape mark text).head? ≠ some mark := by
  cases text with
  | nil => exact (Option.some_ne_none mark).symm
  | cons c rest =>
      by_cases same : c = mark
      · subst same
        rw [escape_cons_self]
        exact fun equal => opening.ne_backslash (Option.some.inj equal).symm
      · rw [escape_cons_of_ne same]
        exact fun equal => same (Option.some.inj equal)

theorem unescape_cons (free : text.head? ≠ some mark) :
    unescape mark (c :: text) = c :: unescape mark text := by
  cases text with
  | nil => rfl
  | cons next rest =>
      have other : next ≠ mark := fun same => free (congrArg some same)
      simp [unescape, other]

theorem unescape_escape (opening : IsQuote mark) (text : List Char) :
    unescape mark (escape mark text) = text := by
  induction text with
  | nil => rfl
  | cons c rest ih =>
      by_cases same : c = mark
      · subst same
        rw [escape_cons_self, unescape, ih]
        simp
      · rw [escape_cons_of_ne same, unescape_cons (head?_escape_ne opening rest), ih]

/-! ## Runs of backslashes -/

/-- The length of the run of backslashes at the end. -/
def backslashesAtEnd (text : List Char) : Nat := (text.rtakeWhile (· == '\\')).length

/-- Whether the run of backslashes at the end escapes what follows. -/
def endsEscaped (text : List Char) : Bool := decide (¬ Even (backslashesAtEnd text))

theorem endsEscaped_concat (text : List Char) (c : Char) :
    endsEscaped (text ++ [c]) = (c == '\\' && !endsEscaped text) := by
  by_cases backslash : c = '\\'
  · subst backslash
    have longer : backslashesAtEnd (text ++ ['\\']) = backslashesAtEnd text + 1 := by
      simp [backslashesAtEnd]
    simp only [endsEscaped, longer, Nat.even_add_one, decide_not, Bool.not_not,
      beq_self_eq_true, Bool.true_and]
  · simp [endsEscaped, backslashesAtEnd, backslash]

/-- `before` reaches up to the end of the text or right up to a `mark`. -/
def EndsRun (mark : Char) (text before : List Char) : Prop :=
  before = text ∨ before ++ [mark] <+: text

instance (mark : Char) (text before : List Char) : Decidable (EndsRun mark text before) :=
  inferInstanceAs (Decidable (_ ∨ _))

theorem EndsRun.isPrefix {before : List Char} (place : EndsRun mark text before) :
    before <+: text := by
  rcases place with rfl | start
  · exact List.prefix_refl _
  · exact (List.prefix_append _ _).trans start

theorem EndsRun.cons {before : List Char} (place : EndsRun mark text before) (c : Char) :
    EndsRun mark (c :: text) (c :: before) := by
  rcases place with rfl | start
  · exact .inl rfl
  · exact .inr (List.cons_prefix_cons.mpr ⟨rfl, start⟩)

/-- Each run of backslashes right before a `mark`, and the one at the end, has even length. -/
def BackslashesPaired (mark : Char) (text : List Char) : Prop :=
  ∀ before, EndsRun mark text before → Even (backslashesAtEnd before)

instance (mark : Char) (text : List Char) : Decidable (BackslashesPaired mark text) :=
  decidable_of_iff
    (∀ before ∈ text.inits, EndsRun mark text before → Even (backslashesAtEnd before))
    ⟨fun paired before place => paired before ((List.mem_inits _ _).mpr place.isPrefix) place,
      fun paired before _ => paired before⟩

/-- The induction is on the text that is left; `read` is what stands before it. -/
theorem scan_escape (opening : IsQuote mark) (separator : Char) (read : List Char)
    (paired : ∀ before, EndsRun mark text before → endsEscaped (read ++ before) = false) :
    Passes separator ⟨some mark, endsEscaped read⟩ (escape mark text) ∧
      QuoteState.after ⟨some mark, endsEscaped read⟩ (escape mark text) =
        ⟨some mark, false⟩ := by
  induction text generalizing read with
  | nil =>
      have clear : endsEscaped read = false := List.append_nil read ▸ paired [] (.inl rfl)
      rw [clear]
      exact ⟨True.intro, rfl⟩
  | cons c rest ih =>
      have later := ih (read ++ [c]) fun before place => by
        rw [List.append_assoc]
        exact paired (c :: before) (place.cons c)
      rw [endsEscaped_concat] at later
      by_cases same : c = mark
      · subst same
        have clear : endsEscaped read = false :=
          List.append_nil read ▸ paired [] (.inr ⟨rest, rfl⟩)
        have inside := QuoteState.step_inside opening.ne_backslash.symm false
        have escaped := QuoteState.step_escaped opening
        rw [beq_false_of_ne opening.ne_backslash] at later
        rw [escape_cons_self, clear]
        constructor
        · exact passes_inside inside (passes_inside escaped later.1)
        · rw [QuoteState.after_cons, inside, QuoteState.after_cons]
          exact escaped ▸ later.2
      · have inside := QuoteState.step_inside same (endsEscaped read)
        rw [escape_cons_of_ne same]
        constructor
        · exact passes_inside inside later.1
        · rw [QuoteState.after_cons, inside, later.2]

/-! ## Quoted text -/

/-- A string between quotes, with the quotes in it escaped. -/
def quoted (mark : Char) (text : List Char) : List Char := mark :: (escape mark text ++ [mark])

/-- No separator in the string is met outside quotes. -/
theorem sealed_quoted (opening : IsQuote mark) (paired : BackslashesPaired mark text)
    (separator : Char) : Sealed separator (quoted mark text) := by
  have fresh : endsEscaped [] = false := by decide
  obtain ⟨passes, reached⟩ := scan_escape opening separator [] fun before place =>
    decide_eq_false (not_not.mpr (paired before place))
  rw [fresh] at passes reached
  have closing := QuoteState.step_closing opening
  constructor
  · intro state outside
    refine passes_inside (QuoteState.step_opening outside opening) (passes_append passes ?_)
    rw [reached]
    exact passes_inside closing True.intro
  · intro state outside
    rw [quoted, QuoteState.after_cons, QuoteState.step_opening outside opening,
      QuoteState.after_append, reached, QuoteState.after_cons, closing]
    rfl

theorem solid_quoted (opening : IsQuote mark) (text : List Char) : Solid (quoted mark text) := by
  have solid : Solid [mark] := by
    refine Solid.of_forall (List.cons_ne_nil _ _) fun c member => ?_
    rw [List.mem_singleton.mp member]
    exact eq_false_of_ne_true fun blank => not_isQuote_of_isBlank blank opening
  exact solid.append solid (escape mark text)

theorem betweenQuotes?_eq_some_iff :
    betweenQuotes? mark text = some inner ↔ text = mark :: (inner ++ [mark]) := by
  constructor
  · intro found
    cases text with
    | nil => cases found
    | cons first rest =>
        rw [betweenQuotes?] at found
        split at found
        next ends =>
          simp only [Bool.and_eq_true, decide_eq_true_eq] at ends
          obtain ⟨rfl, last⟩ := ends
          cases found
          obtain ⟨front, rfl⟩ := List.getLast?_eq_some_iff.mp last
          rw [List.dropLast_concat]
        next => cases found
  · rintro rfl
    simp [betweenQuotes?]

/-- What stands between two quotes of one kind is taken for a string, without the escapes. -/
theorem quotedArgument?_eq_some_iff :
    quotedArgument? text = some content ↔
      ∃ mark inner, IsQuote mark ∧ text = mark :: (inner ++ [mark]) ∧
        content = unescape mark inner := by
  constructor
  · intro found
    rw [quotedArgument?] at found
    split at found
    next inner double =>
      exact ⟨'"', inner, .inl rfl, betweenQuotes?_eq_some_iff.mp double,
        (Option.some.inj found).symm⟩
    next =>
      obtain ⟨inner, single, rfl⟩ := Option.map_eq_some_iff.mp found
      exact ⟨'\'', inner, .inr rfl, betweenQuotes?_eq_some_iff.mp single, rfl⟩
  · rintro ⟨mark, inner, opening, whole, rfl⟩
    have between := betweenQuotes?_eq_some_iff.mpr whole
    rcases opening with rfl | rfl
    · rw [quotedArgument?, between]
    · have other : betweenQuotes? '"' text = none := by
        rw [Option.eq_none_iff_forall_ne_some]
        intro inner found
        cases whole.symm.trans (betweenQuotes?_eq_some_iff.mp found)
      rw [quotedArgument?, other, between]
      rfl

theorem quotedArgument?_quoted (opening : IsQuote mark) (text : List Char) :
    quotedArgument? (quoted mark text) = some text :=
  quotedArgument?_eq_some_iff.mpr
    ⟨mark, escape mark text, opening, rfl, (unescape_escape opening text).symm⟩

/-- Text that does not start with a quote is not taken for a quoted string. -/
theorem quotedArgument?_eq_none (bare : ∀ c, text.head? = some c → ¬ IsQuote c) :
    quotedArgument? text = none := by
  rw [Option.eq_none_iff_forall_ne_some]
  intro content found
  obtain ⟨mark, inner, opening, rfl, -⟩ := quotedArgument?_eq_some_iff.mp found
  exact bare mark rfl opening

end Templating.Template
