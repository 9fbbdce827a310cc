import Templating.Proofs.Text.DotRuns

/-!
# Dots in slugs

A dot may stay in a slug between two digits only, and three passes over the runs of dots are to see
to that. Each pass turns the condition on its result into one on its text. They do not catch every
dot: nothing can stand before a dot at the start or after one at the end, and a character that has
closed one run cannot stand before the next.
-/

namespace Templating.Text

/-- Each dot stands directly between two digits. -/
def DotsBetweenDigits (text : List Char) : Prop :=
  ∀ before after, text = before ++ '.' :: after →
    before.getLast?.any Char.isDigit = true ∧ after.head?.any Char.isDigit = true

/-- A character alone between dots is a digit, or the dot before it follows a digit, or after it one
dot or two come before a digit. -/
def DotsApart (text : List Char) : Prop :=
  ∀ before c after, text = before ++ '.' :: c :: '.' :: after →
    c = '.' ∨ c.isDigit = true ∨ before.getLast?.any Char.isDigit = true ∨
      after.head?.any Char.isDigit = true ∨
      ∃ rest, after = '.' :: rest ∧ rest.head?.any Char.isDigit = true

/-! ## The three passes -/

/-- A single dot between two digits. -/
def Between (before : Option Char) (length : Nat) (next : Option Char) : Prop :=
  before.any Char.isDigit = true ∧ length = 1 ∧ next.any Char.isDigit = true

/-- A run that the last pass removes or leaves between two digits. -/
def Closable (before : Option Char) (length : Nat) (next : Option Char) : Prop :=
  before.any Char.isDigit = true ∧ next ≠ none ∧ (length = 1 ∨ next.any isNoDigit = true)

/-- A run of any length with characters on both sides, one of which is a digit. -/
def Sided (before : Option Char) (_length : Nat) (next : Option Char) : Prop :=
  before ≠ none ∧ next ≠ none ∧
    (before.any Char.isDigit = true ∨ next.any Char.isDigit = true)

/-- A run with characters on both sides. If it is crowded, one of them is a digit, and the dots
before that digit are not too many. -/
def Apart (run : DotRun) (next : Option Char) : Prop :=
  run.before ≠ none ∧ next ≠ none ∧
    (run.crowded = true → run.before.any Char.isDigit = true ∨
      next.any Char.isDigit = true ∧ run.length ≤ 2)

/-- Next to a run there is nothing, a digit or another character. -/
theorem side_cases (side : Option Char) :
    side = none ∨
      (side ≠ none ∧ side.any Char.isDigit = true ∧ side.any isNoDigit = false) ∨
      (side ≠ none ∧ side.any Char.isDigit = false ∧ side.any isNoDigit = true) := by
  cases side with
  | none => exact .inl rfl
  | some c => cases digit : c.isDigit <;> simp [isNoDigit, digit]

theorem pulled_between (before : Option Char) (length : Nat) (next : Option Char) :
    Pulled Between Char.isDigit isNoDigit (before.any Char.isDigit) before length next ↔
      (0 < length → Closable before length next) := by
  cases length with
  | zero => simp [Pulled, PulledAfter]
  | succ more =>
      cases digit : before.any Char.isDigit with
      | false => simp [Pulled, Between, Closable, digit]
      | true =>
          rcases side_cases next with rfl | ⟨present, after, other⟩ | ⟨present, after, other⟩
          · cases more <;> simp [Pulled, PulledAfter, Between, Closable]
          · -- A single dot stays between the digits; of more dots the last one stays after a space.
            cases more <;>
              simp [Pulled, PulledAfter, Between, Closable, isNoDigit, digit, present, after, other]
          · -- The run is removed.
            simp [Pulled, PulledAfter, Closable, digit, present, other]

theorem pulled_closable (before : Option Char) (length : Nat) (next : Option Char) :
    Pulled Closable isNoDigit Char.isDigit (before.any isNoDigit) before length next ↔
      (0 < length → Sided before length next) := by
  cases length with
  | zero => simp [Pulled, PulledAfter]
  | succ more =>
      rcases side_cases before with rfl | ⟨started, digit, free⟩ | ⟨started, digit, free⟩
      · cases more <;> simp [Pulled, PulledAfter, Closable, Sided]
      · -- All but the first dot can be removed, and the last pass sees to what is left.
        rcases side_cases next with rfl | ⟨present, after, other⟩ | ⟨present, after, other⟩
        · cases more <;> simp [Pulled, PulledAfter, Closable, Sided, isNoDigit, free]
        · cases more <;>
            simp [Pulled, PulledAfter, Closable, Sided, isNoDigit, digit, free, started, present,
              after]
        · cases more <;>
            simp [Pulled, PulledAfter, Closable, Sided, isNoDigit, digit, free, started, present,
              after, other]
      · -- The run is removed before a digit and stays otherwise.
        rcases side_cases next with rfl | ⟨present, after, other⟩ | ⟨present, after, other⟩
        · simp [Pulled, PulledAfter, Closable, Sided, free]
        · simp [Pulled, PulledAfter, Sided, free, started, present, after]
        · simp [Pulled, PulledAfter, Closable, Sided, digit, free, after]

theorem pulled_sided (run : DotRun) (next : Option Char) :
    Pulled Sided isNoDigit isNoDigit (run.before.any isNoDigit && !run.crowded) run.before
      run.length next ↔ (0 < run.length → Apart run next) := by
  obtain ⟨crowded, before, length⟩ := run
  rcases length with _ | _ | more
  · simp [Pulled, PulledAfter]
  all_goals
    rcases side_cases before with rfl | ⟨started, digit, other⟩ | ⟨started, digit, other⟩
    · simp [Pulled, PulledAfter, Sided, Apart, isNoDigit]
    · -- The digit stands before the first dots that stay, and a space before any others.
      rcases side_cases next with rfl | ⟨present, after, free⟩ | ⟨present, after, free⟩ <;>
        simp_all [Pulled, PulledAfter, Sided, Apart, isNoDigit]
    · cases crowded with
      | false =>
          -- The run is removed, or its last dot stays between a space and a digit.
          rcases side_cases next with rfl | ⟨present, after, free⟩ | ⟨present, after, free⟩ <;>
            simp_all [Pulled, PulledAfter, Sided, Apart, isNoDigit]
      | true =>
          -- The run before has used this character up, so the first dot stays after it.
          rcases side_cases next with rfl | ⟨present, after, free⟩ | ⟨present, after, free⟩ <;>
            simp_all [Pulled, PulledAfter, Sided, Apart, isNoDigit]

theorem everyRun_between_openDots (text : List Char) :
    EveryRun (OfShape Between) .start none (openDots Char.isDigit isNoDigit text) ↔
      EveryRun (OfShape Closable) .start none text :=
  everyRun_openDots_of_disjoint (fun _ other => (Bool.not_eq_true' _).mp other) pulled_between text

theorem everyRun_closable_openDots (text : List Char) :
    EveryRun (OfShape Closable) .start none (openDots isNoDigit Char.isDigit text) ↔
      EveryRun (OfShape Sided) .start none text :=
  everyRun_openDots_of_disjoint (fun _ digit => congrArg not digit) pulled_closable text

/-- In the first pass a character that closes a run can be one that could stand before the next. -/
theorem everyRun_sided_openDots (text : List Char) :
    EveryRun (OfShape Sided) .start none (openDots isNoDigit isNoDigit text) ↔
      EveryRun Apart .start none text := by
  refine everyRun_openDots (fun run => run.before.any isNoDigit && !run.crowded) (fun _ => rfl) ?_
    pulled_sided rfl text
  rintro ⟨crowded, before, length⟩ c solid apart
  cases digit : c.isDigit with
  | true => simp [DotRun.push_of_ne solid, isNoDigit, digit]
  | false =>
      -- A single dot that is left before this character is apart from it only if the run is free.
      rcases side_cases before with rfl | ⟨-, stands, other⟩ | ⟨-, stands, other⟩ <;>
        rcases length with _ | _ | more <;> cases crowded <;>
          simp_all [DotRun.push_of_ne, takes, isNoDigit, Apart]

/-! ## The result -/

/-- Each dot stands directly between two digits, where a text goes on after a digit or not. -/
def BetweenFrom (afterDigit : Bool) : List Char → Prop
  | [] => True
  | c :: rest =>
      (c = '.' → afterDigit = true ∧ rest.head?.any Char.isDigit = true) ∧
        BetweenFrom c.isDigit rest

theorem betweenFrom_iff (afterDigit : Bool) (text : List Char) :
    BetweenFrom afterDigit text ↔ ∀ before after, text = before ++ '.' :: after →
      before.getLast?.elim afterDigit Char.isDigit = true ∧
        after.head?.any Char.isDigit = true := by
  induction text generalizing afterDigit with
  | nil => simp [BetweenFrom]
  | cons c rest ih =>
      have last : ∀ before : List Char, (c :: before).getLast?.elim afterDigit Char.isDigit =
          before.getLast?.elim c.isDigit Char.isDigit := by
        intro before
        rw [List.getLast?_cons]
        cases before.getLast? <;> rfl
      rw [BetweenFrom, ih]
      constructor
      · rintro ⟨here, later⟩ before after split
        cases before with
        | nil =>
            obtain ⟨rfl, rfl⟩ := List.cons.inj split
            exact here rfl
        | cons first before =>
            obtain ⟨rfl, rfl⟩ := List.cons.inj split
            rw [last]
            exact later before after rfl
      · intro every
        refine ⟨?_, fun before after split => ?_⟩
        · rintro rfl
          exact every [] rest rfl
        · rw [← last]
          exact every (c :: before) after (congrArg (c :: ·) split)

theorem dotsBetweenDigits_iff (text : List Char) :
    DotsBetweenDigits text ↔ BetweenFrom false text := by
  rw [betweenFrom_iff, DotsBetweenDigits]
  have same : ∀ before : List Char, before.getLast?.any Char.isDigit =
      before.getLast?.elim false Char.isDigit := fun before => by
    cases before.getLast? <;> rfl
  simp only [same]

theorem betweenFrom_congr {text : List Char} (solid : text.head? ≠ some '.')
    (first second : Bool) : BetweenFrom first text ↔ BetweenFrom second text := by
  cases text with
  | nil => rfl
  | cons c rest =>
      have other : c ≠ '.' := fun same => solid (congrArg some same)
      simp [BetweenFrom, other]

theorem not_everyRun_between {run : DotRun} (long : 2 ≤ run.length) (text : List Char) :
    ¬ EveryRun (OfShape Between) run none text := by
  induction text generalizing run with
  | nil =>
      intro fits
      exact absurd (fits (by omega)).2.1 (by omega)
  | cons c rest ih =>
      rintro ⟨here, later⟩
      by_cases dot : c = '.'
      · subst dot
        have longer : 2 ≤ (run.push '.').length := Nat.le_succ_of_le long
        exact ih longer later
      · exact absurd (here dot (by omega)).2.1 (by omega)

theorem everyRun_between_iff_and (text : List Char) (run : DotRun) :
    (run.length = 0 → (EveryRun (OfShape Between) run none text ↔
      BetweenFrom (run.before.any Char.isDigit) text)) ∧
    (run.length = 1 → (EveryRun (OfShape Between) run none text ↔
      (run.before.any Char.isDigit = true ∧ text.head?.any Char.isDigit = true) ∧
        BetweenFrom false text)) := by
  induction text generalizing run with
  | nil =>
      refine ⟨fun none => ?_, fun one => ?_⟩
      · simp [EveryRun, BetweenFrom, none]
      · simp [EveryRun, OfShape, Between, BetweenFrom, one]
  | cons c rest ih =>
      obtain ⟨between, within⟩ := ih (run.push c)
      rw [EveryRun, BetweenFrom]
      by_cases dot : c = '.'
      · subst dot
        refine ⟨fun none => ?_, fun one => ?_⟩
        · have single : (run.push '.').length = 1 := congrArg (· + 1) none
          rw [within single]
          simp [DotRun.push_dot]
        · have long : 2 ≤ (run.push '.').length := Nat.succ_le_succ (Nat.le_of_eq one.symm)
          refine iff_of_false (fun every => not_everyRun_between long rest every.2) ?_
          rintro ⟨⟨-, digit⟩, -⟩
          cases digit
      · have after : (run.push c).before.any Char.isDigit = c.isDigit := by
          rw [DotRun.push_of_ne dot]
          rfl
        have next := between (by rw [DotRun.push_of_ne dot])
        rw [after] at next
        rw [next]
        refine ⟨fun none => ?_, fun one => ?_⟩
        · simp [none, dot]
        · simp [OfShape, Between, BetweenFrom, one, dot]

theorem everyRun_between_iff (text : List Char) :
    EveryRun (OfShape Between) .start none text ↔ DotsBetweenDigits text :=
  ((everyRun_between_iff_and text .start).1 rfl).trans (dotsBetweenDigits_iff text).symm

/-! ## Hyphens -/

/-- Whether the character becomes part of a hyphen. -/
def isGap (c : Char) : Bool := isBlank c || c == '-'

theorem hyphenate_cons (c : Char) (rest : List Char) :
    hyphenate (c :: rest) =
      if isGap c then
        if rest.head?.any isGap then hyphenate rest else '-' :: hyphenate rest
      else c :: hyphenate rest := by
  cases rest <;> simp [hyphenate, isGap]

theorem not_isDigit_of_isGap {c : Char} (gap : isGap c = true) : c.isDigit = false := by
  refine eq_false_of_ne_true fun digit => ?_
  have range : 0x30 ≤ c.toNat ∧ c.toNat ≤ 0x39 := Char.isDigit_iff_toNat.mp digit
  rcases (Bool.or_eq_true _ _).mp gap with blank | hyphen
  · simp [isBlank] at blank
    omega
  · have same : c = '-' := by simpa using hyphen
    subst same
    cases digit

theorem any_head?_hyphenate (text : List Char) :
    (hyphenate text).head?.any Char.isDigit = text.head?.any Char.isDigit := by
  induction text with
  | nil => rfl
  | cons c rest ih =>
      rw [hyphenate_cons]
      split
      next gap =>
        have other : (c :: rest).head?.any Char.isDigit = false := not_isDigit_of_isGap gap
        rw [other]
        split
        next more =>
          rw [ih]
          cases rest with
          | nil => rfl
          | cons next later => exact not_isDigit_of_isGap more
        next => rfl
      next => rfl

theorem betweenFrom_hyphenate (afterDigit : Bool) (text : List Char) :
    BetweenFrom afterDigit (hyphenate text) ↔ BetweenFrom afterDigit text := by
  induction text generalizing afterDigit with
  | nil => rfl
  | cons c rest ih =>
      rw [hyphenate_cons]
      split
      next gap =>
        have solid : c ≠ '.' := by
          rintro rfl
          cases gap
        have digit : c.isDigit = false := not_isDigit_of_isGap gap
        simp only [BetweenFrom, solid, digit, false_implies, true_and]
        split
        next more =>
          have plain : rest.head? ≠ some '.' := by
            intro same
            rw [same] at more
            cases more
          rw [ih, betweenFrom_congr plain afterDigit false]
        next => simp [BetweenFrom, ih]
      next => rw [BetweenFrom, BetweenFrom, ih, any_head?_hyphenate]

theorem dotsBetweenDigits_hyphenate (text : List Char) :
    DotsBetweenDigits (hyphenate text) ↔ DotsBetweenDigits text := by
  rw [dotsBetweenDigits_iff, betweenFrom_hyphenate, dotsBetweenDigits_iff]

/-! ## Runs that are apart -/

theorem dotsApart_of_everyRun {text : List Char} (every : EveryRun Apart .start none text) :
    text.head? ≠ some '.' ∧ text.getLast? ≠ some '.' ∧ DotsApart text := by
  have first : text.head? ≠ some '.' := by
    intro first
    obtain ⟨rest, rfl⟩ := List.head?_eq_some_iff.mp first
    obtain ⟨more, tail, rfl, stops⟩ := exists_dots rest
    have split : '.' :: (List.replicate more '.' ++ tail) =
        [] ++ (List.replicate (more + 1) '.' ++ tail) := rfl
    exact (every.fits_at split stops).1 rfl
  refine ⟨first, fun last => ?_, ?_⟩
  · obtain ⟨front, rfl⟩ := List.getLast?_eq_some_iff.mp last
    have split : front ++ ['.'] = front ++ (List.replicate (0 + 1) '.' ++ []) := rfl
    exact (every.fits_at split nofun).2.1 rfl
  · rintro before c after rfl
    by_cases dot : c = '.'
    · exact .inl dot
    obtain ⟨more, tail, rfl, stops⟩ := exists_dots after
    have split : before ++ '.' :: c :: '.' :: (List.replicate more '.' ++ tail) =
        before ++ ['.', c] ++ (List.replicate (more + 1) '.' ++ tail) := by
      simp [List.replicate_succ]
    obtain ⟨-, -, relieved⟩ := every.fits_at split stops
    rw [DotRun.reading_after_dot dot] at relieved
    rcases last : before.getLast? with _ | d
    · rw [List.getLast?_eq_none_iff.mp last] at first
      exact absurd rfl first
    cases digit : d.isDigit with
    | true => exact .inr (.inr (.inl digit))
    | false =>
        have crowded : before.getLast?.any isNoDigit = true := by
          rw [last]
          exact congrArg not digit
        rcases relieved crowded with digit | ⟨digit, few⟩
        · exact .inr (.inl digit)
        · rcases more with _ | _ | more
          · exact .inr (.inr (.inr (.inl digit)))
          · exact .inr (.inr (.inr (.inr ⟨tail, rfl, digit⟩)))
          · simp at few

theorem everyRun_of_dotsApart {text : List Char} (first : text.head? ≠ some '.')
    (last : text.getLast? ≠ some '.') (apart : DotsApart text) :
    EveryRun Apart .start none text := by
  refine everyRun_of_forall ?_
  rintro front more after rfl solid stops
  refine ⟨fun nothing => ?_, fun nothing => ?_, fun crowded => ?_⟩
  · rw [List.getLast?_eq_none_iff.mp nothing] at first
    exact first rfl
  · rw [List.head?_eq_none_iff.mp nothing, List.append_nil, List.replicate_succ',
      ← List.append_assoc, List.getLast?_concat] at last
    exact last rfl
  · obtain ⟨text, c, rfl, dot, other⟩ := DotRun.exists_of_crowded solid crowded
    have place : text ++ ['.', c] ++ (List.replicate (more + 1) '.' ++ after) =
        text ++ '.' :: c :: '.' :: (List.replicate more '.' ++ after) := by
      simp [List.replicate_succ]
    rcases apart text c _ place with same | digit | digit | digit | ⟨rest, twice, digit⟩
    · exact absurd same dot
    · rw [List.append_cons, List.getLast?_concat]
      exact .inl digit
    · rcases side_cases text.getLast? with none | ⟨-, -, no⟩ | ⟨-, no, -⟩
      · rw [none] at digit
        cases digit
      · cases no.symm.trans other
      · cases no.symm.trans digit
    · cases more with
      | zero => exact .inr ⟨digit, Nat.le_succ 1⟩
      | succ more => cases digit
    · rcases more with _ | _ | more
      · exact absurd (congrArg List.head? twice) stops
      · cases twice
        exact .inr ⟨digit, Nat.le_refl 2⟩
      · cases twice
        cases digit

/-- Each run has characters on both sides and is not too crowded when no dot stands at an end of the
text and the dots in it are apart. -/
theorem everyRun_apart_iff (text : List Char) :
    EveryRun Apart .start none text ↔
      text.head? ≠ some '.' ∧ text.getLast? ≠ some '.' ∧ DotsApart text :=
  ⟨dotsApart_of_everyRun, fun ⟨first, last, apart⟩ => everyRun_of_dotsApart first last apart⟩

/-! ## Slugs -/

/-- The words of a title in the alphabet of slugs, with a space between them. -/
def spaced (title : List Char) : List Char := [' '].intercalate (words (slugAlphabet title))

/-- Every dot in a slug stands between two digits just when the words of the title neither start nor
end with a dot and the dots in them are apart. -/
theorem dotsBetweenDigits_slugify_iff (title : List Char) :
    DotsBetweenDigits (slugify title) ↔
      (spaced title).head? ≠ some '.' ∧ (spaced title).getLast? ≠ some '.' ∧
        DotsApart (spaced title) := by
  rw [slugify, dotsBetweenDigits_hyphenate, ← everyRun_between_iff, everyRun_between_openDots,
    everyRun_closable_openDots, everyRun_sided_openDots, everyRun_apart_iff]
  rfl

example : slugify "GPT-4.5 Preview".toList = "gpt-4.5-preview".toList := by
  simp only [slugify, openDots_eq_openedFrom]
  decide

/-- The second dot of a.b.c stays: the letter before it has closed the run of the first. -/
theorem not_forall_dotsBetweenDigits_slugify : ¬ ∀ title, DotsBetweenDigits (slugify title) := by
  intro every
  have spelled : slugify "a.b.c".toList = "a-b".toList ++ '.' :: "c".toList := by
    simp only [slugify, openDots_eq_openedFrom]
    decide
  have digits := every "a.b.c".toList "a-b".toList "c".toList spelled
  exact absurd digits.1 (by decide)

end Templating.Text
