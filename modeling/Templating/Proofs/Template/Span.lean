import Templating.Proofs.Template.Marks
import Templating.Proofs.Template.Quoted

/-!
# Arguments and spans

A scan makes one span of an argument if it opens a quote on the first character and closes it on the
last, not before. Reading looks at the two ends of an argument only. It takes every such argument
for a quoted string, but also one whose first span is closed before the end, and one whose last
quote is escaped; the latter can only be the last argument.
-/

namespace Templating.Template

open Text (trim isBlank)

variable {separator mark other c : Char} {state : QuoteState}
  {text inner blanks piece content : List Char}

/-! ## Open quotes -/

namespace QuoteState

theorem quote_eq_none_of_outside (outside : (state.step c).2 = true) : state.quote = none := by
  obtain ⟨quote, escaped⟩ := state
  cases quote with
  | none => rfl
  | some mark =>
      dsimp only [step] at outside
      split at outside <;> cases outside

/-- A character that is read in a span closes it or leaves it open. -/
theorem quote_step_inside (opening : IsQuote mark) (inside : state.quote = some mark) (c : Char) :
    (state.step c).1.quote = none ∨ (state.step c).1.quote = some mark := by
  obtain ⟨quote, escaped⟩ := state
  cases inside
  by_cases same : c = mark
  · subst same
    cases escaped with
    | false => exact .inl (congrArg (·.1.quote) (step_closing opening))
    | true => exact .inr (congrArg (·.1.quote) (step_escaped opening))
  · exact .inr (congrArg (·.1.quote) (step_inside same escaped))

theorem isQuote_of_step (sound : ∀ mark, state.quote = some mark → IsQuote mark)
    (opened : (state.step c).1.quote = some mark) : IsQuote mark := by
  cases before : state.quote with
  | none =>
      by_cases opening : IsQuote c
      · rw [step_opening before opening] at opened
        exact Option.some.inj opened ▸ opening
      · rw [step_outside before opening] at opened
        cases opened
  | some inside =>
      rcases quote_step_inside (sound inside before) before c with closed | kept
      · cases closed.symm.trans opened
      · exact Option.some.inj (kept.symm.trans opened) ▸ sound inside before

/-- A scan from the start is never in a span of another character. -/
theorem isQuote_of_after (opened : (start.after text).quote = some mark) : IsQuote mark := by
  induction text using List.reverseRecOn generalizing mark with
  | nil => cases opened
  | append_singleton text c ih =>
      rw [after_concat] at opened
      exact isQuote_of_step (fun _ => ih) opened

/-- Blanks do not close a span. -/
theorem quote_after_blanks (opening : IsQuote mark) (inside : state.quote = some mark)
    (blank : ∀ c ∈ blanks, isBlank c = true) : (state.after blanks).quote = some mark := by
  induction blanks generalizing state with
  | nil => exact inside
  | cons c rest ih =>
      obtain ⟨first, later⟩ := List.forall_mem_cons.mp blank
      have differs : c ≠ mark := by
        rintro rfl
        exact not_isQuote_of_isBlank first opening
      obtain ⟨quote, escaped⟩ := state
      cases inside
      rw [after_cons, step_inside differs]
      exact ih rfl later

theorem after_blanks (blank : ∀ c ∈ blanks, isBlank c = true) : start.after blanks = start := by
  induction blanks with
  | nil => rfl
  | cons c rest ih =>
      obtain ⟨first, later⟩ := List.forall_mem_cons.mp blank
      rw [after_cons, step_blank first]
      exact ih later

/-- A text that closes its quotes still does without the blanks around it. -/
theorem quote_after_trim (closed : (start.after text).quote = none) :
    (start.after (trim text)).quote = none := by
  obtain ⟨before, behind, blankFront, blankBack, around⟩ := Text.exists_blanks_around_trim text
  rw [around, after_append, after_append, after_blanks blankFront] at closed
  cases inside : (start.after (trim text)).quote with
  | none => rfl
  | some mark =>
      cases closed.symm.trans (quote_after_blanks (isQuote_of_after inside) inside blankBack)

end QuoteState

/-! ## Spans -/

/-- A scan opens `mark` on the first character and has not closed it after any other. -/
structure KeepsOpen (mark : Char) (text : List Char) : Prop where
  nonempty : text ≠ []
  opened : ∀ front, front <+: text → front ≠ [] →
    (QuoteState.start.after front).quote = some mark

instance (mark : Char) (text : List Char) : Decidable (KeepsOpen mark text) :=
  decidable_of_iff
    (text ≠ [] ∧ ∀ front ∈ text.inits, front ≠ [] →
      (QuoteState.start.after front).quote = some mark)
    ⟨fun kept => ⟨kept.1, fun front place => kept.2 front ((List.mem_inits _ _).mpr place)⟩,
      fun kept => ⟨kept.nonempty, fun front member =>
        kept.opened front ((List.mem_inits _ _).mp member)⟩⟩

/-- A scan opens a span on the first character, and closes it on the last and not before. -/
structure IsSpan (mark : Char) (text : List Char) : Prop where
  opened : KeepsOpen mark text.dropLast
  closed : (QuoteState.start.after text).quote = none

instance (mark : Char) (text : List Char) : Decidable (IsSpan mark text) :=
  decidable_of_iff (KeepsOpen mark text.dropLast ∧ (QuoteState.start.after text).quote = none)
    ⟨fun span => ⟨span.1, span.2⟩, fun span => ⟨span.opened, span.closed⟩⟩

namespace KeepsOpen

theorem quote_eq (kept : KeepsOpen mark text) :
    (QuoteState.start.after text).quote = some mark :=
  kept.opened text (List.prefix_refl text) kept.nonempty

theorem isQuote (kept : KeepsOpen mark text) : IsQuote mark :=
  QuoteState.isQuote_of_after kept.quote_eq

theorem of_prefix {front : List Char} (kept : KeepsOpen mark text) (start : front <+: text)
    (nonempty : front ≠ []) : KeepsOpen mark front where
  nonempty := nonempty
  opened earlier place := kept.opened earlier (place.trans start)

theorem singleton (opening : IsQuote mark) : KeepsOpen mark [mark] where
  nonempty := List.cons_ne_nil _ _
  opened front place nonempty := by
    rcases List.prefix_concat_iff.mp (show front <+: [] ++ [mark] from place) with rfl | nothing
    · have first : QuoteState.start.step mark = (⟨some mark, false⟩, false) :=
        QuoteState.step_opening rfl opening
      exact congrArg (·.1.quote) first
    · exact absurd (List.prefix_nil.mp nothing) nonempty

theorem concat (kept : KeepsOpen mark text)
    (still : (QuoteState.start.after (text ++ [c])).quote = some mark) :
    KeepsOpen mark (text ++ [c]) where
  nonempty := List.concat_ne_nil c text
  opened front place nonempty := by
    rcases List.prefix_concat_iff.mp place with rfl | earlier
    · exact still
    · exact kept.opened front earlier nonempty

/-- The first character is the quote. -/
theorem eq_cons (kept : KeepsOpen mark text) : ∃ inner, text = mark :: inner := by
  obtain ⟨c, inner, rfl⟩ := List.exists_cons_of_ne_nil kept.nonempty
  have first : (QuoteState.start.step c).1.quote = some mark :=
    kept.opened [c] ⟨inner, rfl⟩ (List.cons_ne_nil _ _)
  refine ⟨inner, congrArg (· :: inner) ?_⟩
  by_cases opening : IsQuote c
  · rw [QuoteState.step_opening rfl opening] at first
    exact Option.some.inj first
  · rw [QuoteState.step_outside rfl opening] at first
    cases first

/-- The state of the scan counts the backslashes at the end. The induction is from the end, where a
quote that no backslash escapes would close the span. -/
theorem after_eq (kept : KeepsOpen mark (mark :: inner)) :
    QuoteState.start.after (mark :: inner) = ⟨some mark, endsEscaped inner⟩ := by
  have opening := kept.isQuote
  induction inner using List.reverseRecOn with
  | nil =>
      rw [QuoteState.after_cons, QuoteState.step_opening rfl opening]
      exact congrArg (QuoteState.mk (some mark)) (by decide : false = endsEscaped [])
  | append_singleton inner c ih =>
      have earlier := kept.of_prefix (List.prefix_append (mark :: inner) [c]) (List.cons_ne_nil _ _)
      have still := kept.quote_eq
      rw [← List.cons_append, QuoteState.after_concat, ih earlier] at still ⊢
      rw [endsEscaped_concat]
      by_cases same : c = mark
      · subst same
        cases escaped : endsEscaped inner with
        | false =>
            rw [escaped, QuoteState.step_closing opening] at still
            cases still
        | true =>
            rw [QuoteState.step_escaped opening, beq_false_of_ne opening.ne_backslash]
            rfl
      · rw [QuoteState.step_inside same]

/-- A quote of the same kind closes the span, unless it is escaped. -/
theorem quote_after_mark (kept : KeepsOpen mark (mark :: inner)) :
    (QuoteState.start.after (mark :: (inner ++ [mark]))).quote =
      if endsEscaped inner then some mark else none := by
  have opening := kept.isQuote
  rw [← List.cons_append, QuoteState.after_concat, kept.after_eq]
  cases endsEscaped inner with
  | false =>
      rw [QuoteState.step_closing opening]
      rfl
  | true =>
      rw [QuoteState.step_escaped opening]
      rfl

/-- The next character closes the span or leaves it open. -/
theorem isSpan_or_keepsOpen (kept : KeepsOpen mark text) (c : Char) :
    IsSpan mark (text ++ [c]) ∨ KeepsOpen mark (text ++ [c]) := by
  have step := QuoteState.quote_step_inside kept.isQuote kept.quote_eq c
  rw [← QuoteState.after_concat] at step
  rcases step with closed | still
  · exact .inl ⟨by rwa [List.dropLast_concat], closed⟩
  · exact .inr (kept.concat still)

theorem isSpan (kept : KeepsOpen mark (mark :: inner)) (clear : endsEscaped inner = false) :
    IsSpan mark (mark :: (inner ++ [mark])) where
  opened := by rwa [← List.cons_append, List.dropLast_concat]
  closed := by
    rw [kept.quote_after_mark, clear]
    rfl

end KeepsOpen

theorem IsSpan.nonempty (span : IsSpan mark text) : text ≠ [] := by
  rintro rfl
  exact span.opened.nonempty rfl

/-- The last character of a span is the quote, too. -/
theorem IsSpan.eq_enclosed (span : IsSpan mark text) :
    ∃ inner, text = mark :: (inner ++ [mark]) := by
  obtain ⟨inner, front⟩ := span.opened.eq_cons
  obtain ⟨c, whole⟩ : ∃ c, text = (mark :: inner) ++ [c] :=
    ⟨text.getLast span.nonempty, front ▸ (List.dropLast_concat_getLast span.nonempty).symm⟩
  have opened := span.opened
  have closed := span.closed
  rw [front] at opened
  rw [whole, QuoteState.after_concat, opened.after_eq] at closed
  by_cases same : c = mark
  · exact ⟨inner, same ▸ whole⟩
  · rw [QuoteState.step_inside same] at closed
    cases closed

/-- A text that starts with a quote starts with a span or is never out of it. -/
theorem exists_span_or_keepsOpen (opening : IsQuote mark) (rest : List Char) :
    (∃ span tail, mark :: rest = span ++ tail ∧ IsSpan mark span) ∨
      KeepsOpen mark (mark :: rest) := by
  induction rest using List.reverseRecOn with
  | nil => exact .inr (.singleton opening)
  | append_singleton rest c ih =>
      rcases ih with ⟨span, tail, whole, isSpan⟩ | kept
      · refine .inl ⟨span, tail ++ [c], ?_, isSpan⟩
        rw [← List.cons_append, whole, List.append_assoc]
      · rcases kept.isSpan_or_keepsOpen c with isSpan | still
        · exact .inl ⟨_, [], (List.append_nil _).symm, isSpan⟩
        · exact .inr still

/-! ## Quoted strings -/

theorem plainArgument_ne_string (text : List Char) (content : String) :
    plainArgument text ≠ .literal (.string content) := by
  intro string
  unfold plainArgument at string
  split at string
  · cases string
  · split at string
    · cases string
    · dsimp only at string
      split at string
      · cases string
      · split at string <;> cases string

/-- The argument is read as a string in quotes. An empty argument, which is read as the empty string,
has none. -/
def IsQuotedString (text : List Char) : Prop :=
  text ≠ [] ∧ ∃ content, readArgument text = .literal (.string content)

theorem readArgument_enclosed (opening : IsQuote mark) (inner : List Char) :
    readArgument (mark :: (inner ++ [mark])) =
      .literal (.string (String.ofList (unescape mark inner))) := by
  have found := quotedArgument?_eq_some_iff.mpr ⟨mark, inner, opening, rfl, rfl⟩
  rw [readArgument, found]

theorem isQuotedString_iff :
    IsQuotedString text ↔ ∃ mark inner, IsQuote mark ∧ text = mark :: (inner ++ [mark]) := by
  constructor
  · rintro ⟨nonempty, content, string⟩
    cases found : quotedArgument? text with
    | some between =>
        obtain ⟨mark, inner, opening, whole, -⟩ := quotedArgument?_eq_some_iff.mp found
        exact ⟨mark, inner, opening, whole⟩
    | none =>
        rw [readArgument, found, List.isEmpty_eq_false_iff.mpr nonempty] at string
        exact absurd string (plainArgument_ne_string text content)
  · rintro ⟨mark, inner, opening, rfl⟩
    exact ⟨List.cons_ne_nil _ _, _, readArgument_enclosed opening inner⟩

/-! ## Arguments that are taken for one span -/

/-- An argument between two quotes of one kind of which a scan does not make one span. -/
inductive Misread (mark : Char) : List Char → Prop where
  /-- The first span is closed before the last quote, which may close another. -/
  | sideBySide {span : List Char} (first : IsSpan mark span) (rest : List Char) :
      Misread mark (span ++ (rest ++ [mark]))
  /-- The last quote is escaped, and no other closes the span. -/
  | unclosed {inner : List Char} (kept : KeepsOpen mark (mark :: inner))
      (escaped : endsEscaped inner = true) : Misread mark (mark :: (inner ++ [mark]))

namespace Misread

theorem eq_enclosed (misread : Misread mark text) :
    ∃ inner, IsQuote mark ∧ text = mark :: (inner ++ [mark]) := by
  cases misread with
  | sideBySide first rest =>
      obtain ⟨inner, rfl⟩ := first.eq_enclosed
      refine ⟨inner ++ [mark] ++ rest, first.opened.isQuote, ?_⟩
      simp only [List.cons_append, List.append_assoc]
  | unclosed kept escaped => exact ⟨_, kept.isQuote, rfl⟩

theorem not_isSpan (misread : Misread mark text) (other : Char) : ¬ IsSpan other text := by
  intro whole
  cases misread with
  | @sideBySide span first rest =>
      have early : span <+: (span ++ (rest ++ [mark])).dropLast := by
        rw [← List.append_assoc, List.dropLast_concat]
        exact List.prefix_append span rest
      cases first.closed.symm.trans (whole.opened.opened span early first.nonempty)
  | @unclosed inner kept escaped =>
      have closed := whole.closed
      rw [kept.quote_after_mark, escaped] at closed
      cases closed

end Misread

/-- The span of the first quote is closed by the last, by one before it, or not at all. -/
theorem isSpan_or_misread (opening : IsQuote mark) (inner : List Char) :
    IsSpan mark (mark :: (inner ++ [mark])) ∨ Misread mark (mark :: (inner ++ [mark])) := by
  rcases exists_span_or_keepsOpen opening inner with ⟨span, rest, whole, first⟩ | kept
  · rw [← List.cons_append, whole, List.append_assoc]
    exact .inr (.sideBySide first rest)
  · cases escaped : endsEscaped inner with
    | true => exact .inr (.unclosed kept escaped)
    | false => exact .inl (kept.isSpan escaped)

theorem isQuotedString_iff_isSpan_or_misread :
    IsQuotedString text ↔ ∃ mark, IsSpan mark text ∨ Misread mark text := by
  rw [isQuotedString_iff]
  constructor
  · rintro ⟨mark, inner, opening, rfl⟩
    exact ⟨mark, isSpan_or_misread opening inner⟩
  · rintro ⟨mark, span | misread⟩
    · obtain ⟨inner, whole⟩ := span.eq_enclosed
      exact ⟨mark, inner, span.opened.isQuote, whole⟩
    · exact ⟨mark, misread.eq_enclosed⟩

/-! ## Arguments of a call -/

theorem forall_mem_dropLast_cons {property : List Char → Prop} {first : List Char}
    {others : List (List Char)} : (∀ piece ∈ (first :: others).dropLast, property piece) ↔
      (others ≠ [] → property first) ∧ ∀ piece ∈ others.dropLast, property piece := by
  cases others with
  | nil => simp
  | cons second others => simp

/-- Where a text is cut, all its quotes are closed. -/
theorem closes_piecesFrom (plain : separator ≠ '\\') (state : QuoteState) (text : List Char) :
    ((piecesFrom separator state text).2 ≠ [] →
      (state.after (piecesFrom separator state text).1).quote = none) ∧
    ∀ piece ∈ (piecesFrom separator state text).2.dropLast,
      (QuoteState.start.after piece).quote = none := by
  induction text generalizing state with
  | nil => exact ⟨fun more => absurd rfl more, List.forall_mem_nil _⟩
  | cons c rest ih =>
      have later := ih (state.step c).1
      rw [piecesFrom]
      dsimp only
      split
      next here =>
        obtain ⟨outside, same⟩ := (Bool.and_eq_true _ _).mp here
        have fresh := QuoteState.step_eq_start (of_decide_eq_true same ▸ plain) outside
        rw [fresh] at later ⊢
        exact ⟨fun _ => QuoteState.quote_eq_none_of_outside outside,
          forall_mem_dropLast_cons.mpr later⟩
      next => exact later

theorem closes_pieces (plain : separator ≠ '\\') (text : List Char) :
    ∀ piece ∈ (pieces separator text).dropLast, (QuoteState.start.after piece).quote = none :=
  forall_mem_dropLast_cons.mpr (closes_piecesFrom plain .start text)

theorem dropBlankEnd_prefix (texts : List (List Char)) : dropBlankEnd texts <+: texts := by
  rw [dropBlankEnd]
  split
  · exact List.dropLast_prefix texts
  · exact List.prefix_refl texts

/-- A part that another one follows has closed its quotes. -/
theorem closes_splitUnquoted (plain : separator ≠ '\\') {before behind : List (List Char)}
    (place : splitUnquoted separator text = before ++ piece :: behind) (more : behind ≠ []) :
    (QuoteState.start.after piece).quote = none := by
  obtain ⟨blank, whole⟩ := dropBlankEnd_prefix ((pieces separator text).map trim)
  have kept : piece ∈ ((pieces separator text).map trim).dropLast := by
    have later : behind ++ blank ≠ [] := List.append_ne_nil_of_left_ne_nil more blank
    rw [← whole, ← splitUnquoted, place, List.append_assoc, List.cons_append,
      List.dropLast_append_cons, List.dropLast_cons_of_ne_nil later]
    exact List.mem_append_right before List.mem_cons_self
  rw [← List.map_dropLast] at kept
  obtain ⟨whole, member, rfl⟩ := List.mem_map.mp kept
  exact QuoteState.quote_after_trim (closes_pieces plain text whole member)

/-- An argument is read as a quoted string if it is one span or misread, so that reading agrees with
the scan on all arguments but those. What is between the two outer quotes is the string, and only
the last argument can leave a span open. -/
theorem readArgument_span_or_misread {raw : List Char} {before behind : List (List Char)}
    (place : splitUnquoted ',' raw = before ++ text :: behind) :
    (IsQuotedString text ↔ ∃ mark, IsSpan mark text ∨ Misread mark text) ∧
      ((IsQuotedString text ↔ ∃ mark, IsSpan mark text) ↔ ∀ mark, ¬ Misread mark text) ∧
      (∀ mark inner, IsQuote mark → text = mark :: (inner ++ [mark]) →
        readArgument text = .literal (.string (String.ofList (unescape mark inner)))) ∧
      (behind ≠ [] → (QuoteState.start.after text).quote = none) := by
  have quoted : IsQuotedString text ↔ ∃ mark, IsSpan mark text ∨ Misread mark text :=
    isQuotedString_iff_isSpan_or_misread
  refine ⟨quoted, ⟨?_, ?_⟩, ?_, closes_splitUnquoted (by decide) place⟩
  · intro agree mark misread
    obtain ⟨other, span⟩ := agree.mp (quoted.mpr ⟨mark, .inr misread⟩)
    exact misread.not_isSpan other span
  · intro never
    rw [quoted]
    exact exists_congr fun mark => or_iff_left (never mark)
  · rintro mark inner opening rfl
    exact readArgument_enclosed opening inner

/-- Two spans side by side, with an argument after them that is never closed. -/
theorem readArgument_span_or_misread_beside :
    let text := "'a' 'b'".toList
    splitUnquoted ',' "'a' 'b', \"c\\\"".toList = [text, "\"c\\\"".toList] ∧
      readArgument text = .literal (.string "a' 'b") ∧ Misread '\'' text ∧
      ¬ (IsQuotedString text ↔ ∃ mark, IsSpan mark text) ∧
      (QuoteState.start.after text).quote = none := by
  intro text
  have place : splitUnquoted ',' "'a' 'b', \"c\\\"".toList =
      [] ++ text :: ["\"c\\\"".toList] := by decide
  have first : IsSpan '\'' "'a'".toList := by decide
  have misread : Misread '\'' text := .sideBySide first " 'b".toList
  obtain ⟨-, agree, content, closed⟩ := readArgument_span_or_misread place
  have read := content '\'' "a' 'b".toList (.inr rfl) rfl
  exact ⟨place, read, misread, fun same => agree.mp same '\'' misread,
    closed (List.cons_ne_nil _ _)⟩

/-- The last quote is escaped. -/
theorem not_forall_isQuotedString_iff_isSpan :
    ¬ ∀ raw, ∀ text ∈ splitUnquoted ',' raw,
      (IsQuotedString text ↔ ∃ mark, IsSpan mark text) := by
  intro agree
  have member : "'a\\'".toList ∈ splitUnquoted ',' "'a\\'".toList := by decide
  have quoted : IsQuotedString "'a\\'".toList :=
    isQuotedString_iff.mpr ⟨'\'', "a\\".toList, .inr rfl, rfl⟩
  obtain ⟨mark, span⟩ := (agree _ _ member).mp quoted
  exact absurd span.closed (by decide)

end Templating.Template
