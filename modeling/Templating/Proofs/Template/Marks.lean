import Templating.Proofs.Template.Quoting
import Templating.Template.Pipeline

/-!
# Pipelines read in one scan

A pipeline is read part by part: each part is trimmed and scanned anew for the separators of the
next kind. It can as well be read in one scan from left to right that marks the characters outside
quotes, after which all separators are among the marked characters. The two agree since a scan
stands where it started after every cut, and since blanks do not change where a scan stands.
-/

namespace Templating.Template

open Text (trim isBlank)

/-- A character and whether a scan has found it outside quotes. -/
structure Marked where
  char : Char
  outside : Bool
  deriving DecidableEq

/-- The marks of a scan in `state`. -/
def marksFrom (state : QuoteState) : List Char → List Marked
  | [] => []
  | c :: rest => ⟨c, (state.step c).2⟩ :: marksFrom (state.step c).1 rest

def marks (text : List Char) : List Marked := marksFrom .start text

namespace Marked

/-- The marked text without the blanks around it. -/
def text (marked : List Marked) : List Char := trim (marked.map Marked.char)

/-- The pieces between the separators outside quotes, without a blank one at the end. -/
def split (separator : Char) (marked : List Marked) : List (List Marked) :=
  let parts := marked.splitOn ⟨separator, true⟩
  if parts.getLast?.map text = some [] then parts.dropLast else parts

/-- A filter name up to the first colon outside quotes, and the arguments after it. -/
def readCall (marked : List Marked) : FilterCall :=
  let beforeColon := fun mark : Marked => mark != ⟨':', true⟩
  ⟨String.ofList (text (marked.takeWhile beforeColon)),
    (split ',' (marked.dropWhile beforeColon).tail).map fun part => readArgument (text part)⟩

/-- A variable name up to the first bar outside quotes, and the filters after it. -/
def readPipeline (marked : List Marked) : Pipeline :=
  match split '|' marked with
  | [] => ⟨"", []⟩
  | name :: segments => ⟨String.ofList (text name), segments.map readCall⟩

end Marked

variable {separator c : Char} {state : QuoteState} {text front back blanks : List Char}

/-! ## Cuts among the marks -/

theorem map_char_marksFrom (state : QuoteState) (text : List Char) :
    (marksFrom state text).map Marked.char = text := by
  induction text generalizing state with
  | nil => rfl
  | cons c rest ih => rw [marksFrom, List.map_cons, ih]

theorem Marked.text_marks (text : List Char) : Marked.text (marks text) = trim text :=
  congrArg trim (map_char_marksFrom .start text)

/-- After a character outside quotes, a scan stands where it started. -/
theorem QuoteState.step_eq_start (plain : c ≠ '\\') (outside : (state.step c).2 = true) :
    (state.step c).1 = .start := by
  obtain ⟨quote, escaped⟩ := state
  unfold step at outside ⊢
  cases quote with
  | some mark =>
      dsimp only at outside
      split at outside <;> cases outside
  | none =>
      dsimp only at outside ⊢
      split at outside
      · cases outside
      next other =>
        rw [if_neg other]
        simp [start, plain]

theorem beq_marked {outside : Bool} :
    ((⟨c, outside⟩ : Marked) == ⟨separator, true⟩) = (outside && decide (c = separator)) := by
  rw [Bool.eq_iff_iff, beq_iff_eq, Marked.mk.injEq, Bool.and_eq_true, decide_eq_true_iff, and_comm]

/-- The pieces of the marks are the marks of the pieces, each from the start of a scan. -/
theorem splitOn_marksFrom (plain : separator ≠ '\\') (state : QuoteState) (text : List Char) :
    (marksFrom state text).splitOn ⟨separator, true⟩ =
      marksFrom state (piecesFrom separator state text).1 ::
        (piecesFrom separator state text).2.map marks := by
  induction text generalizing state with
  | nil => rfl
  | cons c rest ih =>
      have tail := ih (state.step c).1
      rw [List.splitOn] at tail ⊢
      rw [marksFrom, List.splitOnP_cons_eq_if_modifyHead, beq_marked, piecesFrom, tail]
      dsimp only
      split
      next here =>
        obtain ⟨outside, same⟩ := (Bool.and_eq_true _ _).mp here
        have fresh := QuoteState.step_eq_start (of_decide_eq_true same ▸ plain) outside
        rw [fresh]
        rfl
      next => rfl

theorem splitOn_marks (plain : separator ≠ '\\') (text : List Char) :
    (marks text).splitOn ⟨separator, true⟩ = (pieces separator text).map marks :=
  splitOn_marksFrom plain .start text

/-- Splitting a text and splitting its marks give the same pieces. -/
theorem exists_pieces (plain : separator ≠ '\\') (text : List Char) :
    ∃ kept : List (List Char), splitUnquoted separator text = kept.map trim ∧
      Marked.split separator (marks text) = kept.map marks := by
  have last : (((pieces separator text).map marks).getLast?.map Marked.text = some []) ↔
      ((pieces separator text).map trim).getLast? = some [] := by
    rw [List.getLast?_map, List.getLast?_map, Option.map_map]
    rw [show Marked.text ∘ marks = trim from funext Marked.text_marks]
  rw [splitUnquoted, dropBlankEnd, Marked.split, splitOn_marks plain]
  by_cases blank : ((pieces separator text).map trim).getLast? = some []
  · refine ⟨(pieces separator text).dropLast, ?_, ?_⟩
    · rw [if_pos blank, List.map_dropLast]
    · rw [if_pos (last.mpr blank), List.map_dropLast]
  · refine ⟨pieces separator text, ?_, ?_⟩
    · rw [if_neg blank]
    · rw [if_neg (mt last.mp blank)]

theorem map_text_split (plain : separator ≠ '\\') (text : List Char) :
    (Marked.split separator (marks text)).map Marked.text = splitUnquoted separator text := by
  obtain ⟨kept, pieces, parts⟩ := exists_pieces plain text
  rw [pieces, parts, List.map_map]
  exact List.map_congr_left fun piece _ => Marked.text_marks piece

/-- The characters up to the first cut outside quotes, and those after it. -/
theorem cut_marksFrom (plain : separator ≠ '\\') (state : QuoteState) (text : List Char) :
    let beforeCut := fun mark : Marked => mark != ⟨separator, true⟩
    (∀ front back, cutUnquotedFrom? separator state text = some (front, back) →
      (marksFrom state text).takeWhile beforeCut = marksFrom state front ∧
        ((marksFrom state text).dropWhile beforeCut).tail = marks back) ∧
    (cutUnquotedFrom? separator state text = none →
      (marksFrom state text).takeWhile beforeCut = marksFrom state text ∧
        (marksFrom state text).dropWhile beforeCut = []) := by
  intro beforeCut
  induction text generalizing state with
  | nil =>
      refine ⟨fun front back found => ?_, fun _ => ⟨rfl, rfl⟩⟩
      cases found
  | cons c rest ih =>
      obtain ⟨found, missed⟩ := ih (state.step c).1
      have kept : beforeCut ⟨c, (state.step c).2⟩ =
          !((state.step c).2 && decide (c = separator)) := congrArg not beq_marked
      rw [marksFrom, cutUnquotedFrom?]
      dsimp only
      by_cases here : ((state.step c).2 && decide (c = separator)) = true
      · obtain ⟨outside, same⟩ := (Bool.and_eq_true _ _).mp here
        have fresh := QuoteState.step_eq_start (of_decide_eq_true same ▸ plain) outside
        rw [here, Bool.not_true] at kept
        rw [if_pos here, List.takeWhile_cons_of_neg (ne_true_of_eq_false kept),
          List.dropWhile_cons_of_neg (ne_true_of_eq_false kept), fresh]
        refine ⟨?_, fun absent => by cases absent⟩
        rintro front back ⟨⟩
        exact ⟨rfl, rfl⟩
      · rw [eq_false_of_ne_true here, Bool.not_false] at kept
        rw [if_neg here, List.takeWhile_cons_of_pos kept, List.dropWhile_cons_of_pos kept]
        constructor
        · intro front back cut
          obtain ⟨⟨front, back⟩, later, same⟩ := Option.map_eq_some_iff.mp cut
          cases same
          obtain ⟨first, second⟩ := found front back later
          exact ⟨congrArg _ first, second⟩
        · intro cut
          obtain ⟨first, second⟩ := missed (Option.map_eq_none_iff.mp cut)
          exact ⟨congrArg _ first, second⟩

/-! ## Blanks around a part -/

theorem QuoteState.step_blank (blank : isBlank c = true) :
    QuoteState.start.step c = (.start, true) := by
  have plain : c ≠ '\\' := by
    rintro rfl
    exact absurd blank (by decide)
  rw [step_outside rfl (not_isQuote_of_isBlank blank)]
  simp [start, plain]

theorem passes_of_blanks (solid : isBlank separator = false)
    (blank : ∀ c ∈ blanks, isBlank c = true) (state : QuoteState) :
    Passes separator state blanks := by
  induction blanks generalizing state with
  | nil => exact True.intro
  | cons c blanks ih =>
      obtain ⟨first, later⟩ := List.forall_mem_cons.mp blank
      refine ⟨fun _ => ?_, ih later (state.step c).1⟩
      rintro rfl
      exact absurd first (ne_true_of_eq_false solid)

/-- Blanks before a part change nothing but what stands before its first cut. -/
theorem cutUnquoted?_blanks_append (solid : isBlank separator = false)
    (blank : ∀ c ∈ blanks, isBlank c = true) (text : List Char) :
    cutUnquoted? separator (blanks ++ text) =
      (cutUnquoted? separator text).map fun parts => (blanks ++ parts.1, parts.2) := by
  induction blanks with
  | nil => simp
  | cons c blanks ih =>
      obtain ⟨first, later⟩ := List.forall_mem_cons.mp blank
      have other : c ≠ separator := by
        rintro rfl
        exact absurd first (ne_true_of_eq_false solid)
      have rest := ih later
      rw [cutUnquoted?] at rest ⊢
      rw [List.cons_append, cutUnquotedFrom?_cons fun _ => other, QuoteState.step_blank first, rest,
        Option.map_map]
      rfl

/-- Blanks after a part change nothing but what stands after its last cut. -/
theorem cutUnquotedFrom?_append_blanks (solid : isBlank separator = false)
    (blank : ∀ c ∈ blanks, isBlank c = true) (state : QuoteState) (text : List Char) :
    cutUnquotedFrom? separator state (text ++ blanks) =
      (cutUnquotedFrom? separator state text).map fun parts => (parts.1, parts.2 ++ blanks) := by
  induction text generalizing state with
  | nil =>
      rw [List.nil_append]
      exact cutUnquotedFrom?_of_passes (passes_of_blanks solid blank state)
  | cons c rest ih =>
      rw [List.cons_append, cutUnquotedFrom?, cutUnquotedFrom?]
      dsimp only
      split
      · rfl
      · rw [ih, Option.map_map, Option.map_map]
        rfl

/-- They only lengthen the last piece. -/
theorem trim_piecesFrom_append_blanks (solid : isBlank separator = false)
    (blank : ∀ c ∈ blanks, isBlank c = true) (state : QuoteState) (text : List Char) :
    (∀ lead, trim (lead ++ (piecesFrom separator state (text ++ blanks)).1) =
      trim (lead ++ (piecesFrom separator state text).1)) ∧
    (piecesFrom separator state (text ++ blanks)).2.map trim =
      (piecesFrom separator state text).2.map trim := by
  induction text generalizing state with
  | nil =>
      rw [List.nil_append, piecesFrom_of_passes (passes_of_blanks solid blank state)]
      refine ⟨fun lead => ?_, rfl⟩
      change trim (lead ++ blanks) = trim (lead ++ [])
      rw [List.append_nil]
      have trimmed : trim ([] ++ lead ++ blanks) = trim lead :=
        Text.trim_append_blanks (List.forall_mem_nil _) blank
      exact trimmed
  | cons c rest ih =>
      obtain ⟨first, others⟩ := ih (state.step c).1
      rw [List.cons_append, piecesFrom, piecesFrom]
      dsimp only
      split
      · exact ⟨fun lead => rfl, congrArg₂ List.cons (first []) others⟩
      · refine ⟨fun lead => ?_, others⟩
        have longer := first (lead ++ [c])
        rwa [List.append_assoc, List.append_assoc] at longer

theorem splitUnquoted_append_blanks (solid : isBlank separator = false)
    (blank : ∀ c ∈ blanks, isBlank c = true) (text : List Char) :
    splitUnquoted separator (text ++ blanks) = splitUnquoted separator text := by
  obtain ⟨first, others⟩ := trim_piecesFrom_append_blanks solid blank .start text
  exact congrArg dropBlankEnd (congrArg₂ List.cons (first []) others)

/-- Trimming a part changes nothing but the blanks around what stands before and after its first
cut. -/
theorem cutUnquoted?_eq_trim (solid : isBlank separator = false) (text : List Char) :
    ∃ before after, (∀ c ∈ before, isBlank c = true) ∧ (∀ c ∈ after, isBlank c = true) ∧
      cutUnquoted? separator text = (cutUnquoted? separator (trim text)).map fun parts =>
        (before ++ parts.1, parts.2 ++ after) := by
  obtain ⟨before, after, blankFront, blankBack, around⟩ := Text.exists_blanks_around_trim text
  refine ⟨before, after, blankFront, blankBack, ?_⟩
  conv_lhs => rw [around, List.append_assoc, cutUnquoted?_blanks_append solid blankFront,
    cutUnquoted?, cutUnquotedFrom?_append_blanks solid blankBack, Option.map_map]
  rfl

/-! ## Reading -/

/-- A filter is read from its marks as from its text, with or without the blanks around it. -/
theorem Marked.readCall_marks (segment : List Char) :
    Marked.readCall (marks segment) = Template.readCall segment := by
  have colon : isBlank ':' = false := by decide
  have plain : ':' ≠ '\\' := by decide
  obtain ⟨found, missed⟩ := cut_marksFrom plain .start segment
  obtain ⟨before, after, blankFront, blankBack, cut⟩ := cutUnquoted?_eq_trim colon segment
  have arguments : ∀ text : List Char,
      (split ',' (marks text)).map (fun part => readArgument (Marked.text part)) =
        (splitUnquoted ',' text).map readArgument := by
    intro text
    rw [← map_text_split (by decide), List.map_map]
    rfl
  rw [Marked.readCall, Template.readCall]
  dsimp only
  cases inner : cutUnquoted? ':' (trim segment) with
  | none =>
      rw [inner] at cut
      obtain ⟨front, back⟩ := missed cut
      rw [marks, front, back, ← marks, Marked.text_marks]
      rfl
  | some parts =>
      obtain ⟨name, rest⟩ := parts
      rw [inner] at cut
      obtain ⟨front, back⟩ := found _ _ cut
      have named : trim (before ++ name) = trim name := by
        have trimmed : trim (before ++ name ++ []) = trim name :=
          Text.trim_append_blanks blankFront (List.forall_mem_nil _)
        rwa [List.append_nil] at trimmed
      rw [marks, front, back, ← marks, Marked.text_marks, named, arguments,
        splitUnquoted_append_blanks (by decide) blankBack]

theorem readCall_trim (segment : List Char) : readCall (trim segment) = readCall segment := by
  rw [readCall, readCall, Text.trim_trim]

/-- Reading a pipeline part by part gives what one scan gives that marks the characters outside
quotes: the pieces between marked bars, a name up to the first marked colon of a piece, and
arguments between the marked commas after it. -/
theorem readPipeline_eq_marks (raw : List Char) :
    readPipeline raw = Marked.readPipeline (marks raw) := by
  have plain : '|' ≠ '\\' := by decide
  obtain ⟨kept, pieces, parts⟩ := exists_pieces plain raw
  rw [readPipeline, Marked.readPipeline, pieces, parts]
  cases kept with
  | nil => rfl
  | cons name segments =>
      have calls : (segments.map trim).map readCall =
          (segments.map marks).map Marked.readCall := by
        rw [List.map_map, List.map_map]
        refine List.map_congr_left fun segment _ => ?_
        exact (readCall_trim segment).trans (Marked.readCall_marks segment).symm
      simp only [List.map_cons, calls, Marked.text_marks]

end Templating.Template
