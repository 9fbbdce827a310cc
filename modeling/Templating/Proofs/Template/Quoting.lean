import Templating.Proofs.Text.Trimming
import Templating.Template.Quote
import Templating.Text.Search

/-!
# Scans that respect quotes

A scan reads one text after the other. Where a separator stands outside quotes for the first time, a
scan cuts; a text in which it never stands outside quotes is taken whole. Splitting gives texts back
that were joined by a separator, if each of them closes the quotes it opens.
-/

namespace Templating.Template

open Text (trim isBlank join Solid)

variable {separator c mark : Char} {state : QuoteState} {text front back : List Char}

/-- The two characters that open a quote. -/
def IsQuote (c : Char) : Prop := c = '"' ∨ c = '\''

instance (c : Char) : Decidable (IsQuote c) := inferInstanceAs (Decidable (_ ∨ _))

theorem not_isQuote_of_isBlank (blank : isBlank c = true) : ¬ IsQuote c := by
  rintro (rfl | rfl)
  · exact absurd blank (by decide)
  · exact absurd blank (by decide)

namespace QuoteState

/-! ## One step -/

theorem step_outside (closed : state.quote = none) (plain : ¬ IsQuote c) :
    state.step c = (⟨none, c == '\\' && !state.escaped⟩, true) := by
  obtain ⟨quote, escaped⟩ := state
  cases closed
  simp only [IsQuote, not_or] at plain
  simp [step, plain]

theorem step_opening (closed : state.quote = none) (opening : IsQuote mark) :
    state.step mark = (⟨some mark, false⟩, false) := by
  obtain ⟨quote, escaped⟩ := state
  cases closed
  rcases opening with rfl | rfl <;> simp [step]

theorem step_closing (opening : IsQuote mark) :
    step ⟨some mark, false⟩ mark = (⟨none, false⟩, false) := by
  rcases opening with rfl | rfl <;> rfl

theorem step_escaped (opening : IsQuote mark) :
    step ⟨some mark, true⟩ mark = (⟨some mark, false⟩, false) := by
  rcases opening with rfl | rfl <;> rfl

theorem step_inside (other : c ≠ mark) (escaped : Bool) :
    step ⟨some mark, escaped⟩ c = (⟨some mark, c == '\\' && !escaped⟩, false) := by
  simp [step, other]

/-! ## Runs -/

/-- The state in which a scan leaves a text. -/
def after (state : QuoteState) (text : List Char) : QuoteState :=
  text.foldl (fun reached c => (reached.step c).1) state

theorem after_cons (state : QuoteState) (c : Char) (text : List Char) :
    state.after (c :: text) = (state.step c).1.after text := rfl

theorem after_append (state : QuoteState) (front back : List Char) :
    state.after (front ++ back) = (state.after front).after back := List.foldl_append

theorem after_concat (state : QuoteState) (text : List Char) (c : Char) :
    state.after (text ++ [c]) = ((state.after text).step c).1 := after_append state text [c]

end QuoteState

/-! ## Texts without a cut -/

/-- A scan in `state` meets no `separator` outside quotes. -/
def Passes (separator : Char) (state : QuoteState) : List Char → Prop
  | [] => True
  | c :: rest =>
      ((state.step c).2 = true → c ≠ separator) ∧ Passes separator (state.step c).1 rest

theorem passes_inside {next : QuoteState} (inside : state.step c = (next, false))
    (rest : Passes separator next text) : Passes separator state (c :: text) := by
  rw [Passes, inside]
  exact ⟨fun outside => absurd outside Bool.false_ne_true, rest⟩

theorem passes_append (first : Passes separator state front)
    (second : Passes separator (state.after front) back) :
    Passes separator state (front ++ back) := by
  induction front generalizing state with
  | nil => exact second
  | cons c front ih => exact ⟨first.1, ih first.2 second⟩

theorem not_cut (free : (state.step c).2 = true → c ≠ separator) :
    ¬ ((state.step c).2 && decide (c = separator)) = true := by
  rw [Bool.and_eq_true, decide_eq_true_eq]
  rintro ⟨outside, same⟩
  exact free outside same

theorem cutUnquotedFrom?_cons (free : (state.step c).2 = true → c ≠ separator)
    (rest : List Char) :
    cutUnquotedFrom? separator state (c :: rest) =
      (cutUnquotedFrom? separator (state.step c).1 rest).map
        fun parts => (c :: parts.1, parts.2) :=
  if_neg (not_cut free)

theorem piecesFrom_cons (free : (state.step c).2 = true → c ≠ separator) (rest : List Char) :
    piecesFrom separator state (c :: rest) =
      (c :: (piecesFrom separator (state.step c).1 rest).1,
        (piecesFrom separator (state.step c).1 rest).2) :=
  if_neg (not_cut free)

theorem cutUnquotedFrom?_of_passes (passes : Passes separator state text) :
    cutUnquotedFrom? separator state text = none := by
  induction text generalizing state with
  | nil => rfl
  | cons c rest ih =>
      rw [cutUnquotedFrom?_cons passes.1, ih passes.2]
      rfl

theorem piecesFrom_of_passes (passes : Passes separator state text) :
    piecesFrom separator state text = (text, []) := by
  induction text generalizing state with
  | nil => rfl
  | cons c rest ih => rw [piecesFrom_cons passes.1, ih passes.2]

/-! ## The first cut -/

theorem cut_here (plain : ¬ IsQuote separator) (closed : state.quote = none) :
    ((state.step separator).2 && decide (separator = separator)) = true := by
  rw [QuoteState.step_outside closed plain, decide_eq_true rfl]
  rfl

theorem cutUnquotedFrom?_append (plain : ¬ IsQuote separator)
    (passes : Passes separator state front) (closed : (state.after front).quote = none)
    (rest : List Char) :
    cutUnquotedFrom? separator state (front ++ separator :: rest) = some (front, rest) := by
  induction front generalizing state with
  | nil => exact if_pos (cut_here plain closed)
  | cons c front ih =>
      rw [List.cons_append, cutUnquotedFrom?_cons passes.1, ih passes.2 closed]
      rfl

theorem piecesFrom_append (plain : ¬ IsQuote separator)
    (passes : Passes separator state front) (closed : (state.after front).quote = none)
    (rest : List Char) :
    piecesFrom separator state (front ++ separator :: rest) =
      (front, (piecesFrom separator ((state.after front).step separator).1 rest).1 ::
        (piecesFrom separator ((state.after front).step separator).1 rest).2) := by
  induction front generalizing state with
  | nil => exact if_pos (cut_here plain closed)
  | cons c front ih =>
      rw [List.cons_append, piecesFrom_cons passes.1, ih passes.2 closed]
      rfl

/-! ## Texts that close their quotes -/

/-- Outside quotes, a scan passes the text and is outside quotes again after it. -/
structure Sealed (separator : Char) (text : List Char) : Prop where
  passes : ∀ state : QuoteState, state.quote = none → Passes separator state text
  closes : ∀ state : QuoteState, state.quote = none → (state.after text).quote = none

namespace Sealed

theorem nil : Sealed separator [] := ⟨fun _ _ => True.intro, fun _ closed => closed⟩

theorem append (first : Sealed separator front) (second : Sealed separator back) :
    Sealed separator (front ++ back) where
  passes state closed :=
    passes_append (first.passes state closed) (second.passes _ (first.closes state closed))
  closes state closed := by
    rw [QuoteState.after_append]
    exact second.closes _ (first.closes state closed)

theorem cons (plain : ¬ IsQuote c) (other : c ≠ separator) (rest : Sealed separator text) :
    Sealed separator (c :: text) where
  passes state closed := by
    refine ⟨fun _ => other, rest.passes (state.step c).1 ?_⟩
    rw [QuoteState.step_outside closed plain]
  closes state closed := by
    refine rest.closes (state.step c).1 ?_
    rw [QuoteState.step_outside closed plain]

theorem of_forall (plain : ∀ c ∈ text, ¬ IsQuote c ∧ c ≠ separator) : Sealed separator text := by
  induction text with
  | nil => exact nil
  | cons c rest ih =>
      obtain ⟨first, later⟩ := List.forall_mem_cons.mp plain
      exact cons first.1 first.2 (ih later)

theorem join {between : List Char} {texts : List (List Char)} (gap : Sealed separator between)
    (each : ∀ text ∈ texts, Sealed separator text) :
    Sealed separator (Text.join between texts) := by
  induction texts with
  | nil => exact nil
  | cons first others ih =>
      obtain ⟨start, later⟩ := List.forall_mem_cons.mp each
      cases others with
      | nil => simpa only [Text.join, List.intercalate_singleton] using start
      | cons second others =>
          rw [Text.join, List.intercalate_cons_cons]
          exact (start.append gap).append (ih later)

end Sealed

/-! ## Splitting what was joined -/

section Join

variable {pad : List Char}

theorem sealed_of_blanks (solid : isBlank separator = false)
    (blank : ∀ c ∈ pad, isBlank c = true) : Sealed separator pad := by
  refine Sealed.of_forall fun c member => ⟨not_isQuote_of_isBlank (blank c member), ?_⟩
  rintro rfl
  exact absurd (blank c member) (ne_true_of_eq_false solid)

/-- The induction is on the texts after the first; `lead` are blanks left from the last cut. -/
theorem piecesFrom_join (plain : ¬ IsQuote separator) (solid : isBlank separator = false)
    (blank : ∀ c ∈ pad, isBlank c = true) {lead first : List Char} {others : List (List Char)}
    (leading : ∀ c ∈ lead, isBlank c = true)
    (each : ∀ text ∈ first :: others, Sealed separator text) (closed : state.quote = none) :
    ((piecesFrom separator state (lead ++ join (pad ++ separator :: pad) (first :: others))).1 ::
      (piecesFrom separator state (lead ++ join (pad ++ separator :: pad) (first :: others))).2).map
        trim = (first :: others).map trim := by
  induction others generalizing first lead state with
  | nil =>
      have whole := (sealed_of_blanks solid leading).append (each first List.mem_cons_self)
      have trimmed : trim (lead ++ first ++ []) = trim first :=
        Text.trim_append_blanks leading (List.forall_mem_nil _)
      rw [List.append_nil] at trimmed
      rw [join, List.intercalate_singleton, piecesFrom_of_passes (whole.passes state closed)]
      simp [trimmed]
  | cons second others ih =>
      obtain ⟨start, later⟩ := List.forall_mem_cons.mp each
      have upTo : Sealed separator (lead ++ first ++ pad) :=
        ((sealed_of_blanks solid leading).append start).append (sealed_of_blanks solid blank)
      have shape : lead ++ join (pad ++ separator :: pad) (first :: second :: others) =
          (lead ++ first ++ pad) ++
            separator :: (pad ++ join (pad ++ separator :: pad) (second :: others)) := by
        simp [join, List.intercalate_cons_cons]
      have closedAfter := upTo.closes state closed
      have next : (((state.after (lead ++ first ++ pad)).step separator).1).quote = none := by
        rw [QuoteState.step_outside closedAfter plain]
      rw [shape, piecesFrom_append plain (upTo.passes state closed) closedAfter, List.map_cons,
        ih blank later next, Text.trim_append_blanks leading blank]
      rfl

/-- Joined texts come back if none of them is blank at an end and each closes its quotes. -/
theorem splitUnquoted_join (plain : ¬ IsQuote separator) (solid : isBlank separator = false)
    (blank : ∀ c ∈ pad, isBlank c = true) {texts : List (List Char)}
    (each : ∀ text ∈ texts, Solid text ∧ Sealed separator text) :
    splitUnquoted separator (join (pad ++ separator :: pad) texts) = texts := by
  cases texts with
  | nil => rfl
  | cons first others =>
      have unchanged : (first :: others).map trim = first :: others := by
        conv_rhs => rw [← List.map_id (first :: others)]
        exact List.map_congr_left fun text member => (each text member).1.trim_eq
      have leading : ∀ c ∈ ([] : List Char), isBlank c = true := List.forall_mem_nil _
      have outside : QuoteState.start.quote = none := rfl
      have cut := piecesFrom_join plain solid blank leading
        (fun text member => (each text member).2) outside
      have last : (first :: others).getLast? ≠ some [] := by
        intro empty
        exact (each [] (List.mem_of_getLast? empty)).1.nonempty rfl
      rw [List.nil_append] at cut
      rw [splitUnquoted, pieces, cut, unchanged, dropBlankEnd, if_neg last]

end Join

end Templating.Template
