import Mathlib.Data.List.Induction
import Templating.Proofs.Text.OpenDots

/-!
# Runs of dots

A condition on the runs of dots in a text looks at each run, at the character before it and at the
one after it. A condition on the runs that are left when dots are opened comes to another condition
on the runs that were there, and for that it is enough to look at a single run.
-/

namespace Templating.Text

variable {left right : Char → Bool} {c : Char} {length : Nat}

/-- A run of dots while it is read: the character before it, if there is one, and its length so far,
which is nought between runs. It is crowded if dots stand before that character, unless this is a
single dot after a digit or at the start. -/
structure DotRun where
  crowded : Bool
  before : Option Char
  length : Nat

namespace DotRun

def start : DotRun := ⟨false, none, 0⟩

/-- Reads one more character. -/
def push (run : DotRun) (c : Char) : DotRun :=
  if c = '.' then { run with length := run.length + 1 }
  else ⟨0 < run.length && run.before.any isNoDigit || 1 < run.length, some c, 0⟩

theorem push_dot (run : DotRun) : run.push '.' = { run with length := run.length + 1 } := rfl

theorem push_of_ne {c : Char} (solid : c ≠ '.') (run : DotRun) :
    run.push c =
      ⟨0 < run.length && run.before.any isNoDigit || 1 < run.length, some c, 0⟩ :=
  if_neg solid

end DotRun

/-- The condition holds for each run of dots in the text, with the character after it. The text is
read on from `run`, and `next` follows it. -/
def EveryRun (fits : DotRun → Option Char → Prop) (run : DotRun) (next : Option Char) :
    List Char → Prop
  | [] => 0 < run.length → fits run next
  | c :: rest =>
      (c ≠ '.' → 0 < run.length → fits run (some c)) ∧ EveryRun fits (run.push c) next rest

variable {fits : DotRun → Option Char → Prop} {shape : Option Char → Nat → Option Char → Prop}
  {run other : DotRun}

/-- The condition says nothing about crowded runs. -/
def OfShape (shape : Option Char → Nat → Option Char → Prop) (run : DotRun) (next : Option Char) :
    Prop :=
  shape run.before run.length next

theorem everyRun_congr (before : run.before = other.before) (length : run.length = other.length)
    (next : Option Char) (text : List Char) :
    EveryRun (OfShape shape) run next text ↔ EveryRun (OfShape shape) other next text := by
  induction text generalizing run other with
  | nil => simp only [EveryRun, OfShape, before, length]
  | cons c rest ih =>
      simp only [EveryRun, OfShape, before, length]
      refine and_congr_right fun _ => ih ?_ ?_
      · unfold DotRun.push
        split
        · exact before
        · rfl
      · unfold DotRun.push
        split
        · exact congrArg (· + 1) length
        · rfl

theorem everyRun_append (solid : c ≠ '.') (next : Option Char) (front back : List Char) :
    EveryRun fits run next (front ++ c :: back) ↔ EveryRun fits run (some c) front ∧
      EveryRun fits ((front.foldl DotRun.push run).push c) next back := by
  induction front generalizing run with
  | nil => simp only [List.nil_append, EveryRun, List.foldl_nil, ne_eq, solid, not_false_eq_true,
      forall_const]
  | cons first rest ih =>
      simp only [List.cons_append, EveryRun, List.foldl_cons, ih, and_assoc]

theorem everyRun_dots (length : Nat) (next : Option Char) :
    EveryRun fits run next (List.replicate length '.') ↔
      (0 < run.length + length → fits { run with length := run.length + length } next) := by
  induction length generalizing run with
  | zero => rfl
  | succ length ih =>
      rw [List.replicate_succ, EveryRun, ih, DotRun.push_dot]
      simp only [ne_eq, not_true_eq_false, false_implies, true_and, Nat.add_assoc, Nat.add_comm 1]

/-! ## Runs as places in a text -/

theorem exists_dots (text : List Char) :
    ∃ length rest, text = List.replicate length '.' ++ rest ∧ rest.head? ≠ some '.' := by
  induction text with
  | nil => exact ⟨0, [], rfl, nofun⟩
  | cons c rest ih =>
      by_cases dot : c = '.'
      · subst dot
        obtain ⟨length, tail, rfl, stops⟩ := ih
        exact ⟨length + 1, tail, rfl, stops⟩
      · exact ⟨0, c :: rest, rfl, fun same => dot (Option.some.inj same)⟩

namespace DotRun

/-- The run at the end of a text. -/
def reading (text : List Char) : DotRun := text.foldl push start

theorem reading_concat (text : List Char) (c : Char) :
    reading (text ++ [c]) = (reading text).push c := by
  rw [reading, List.foldl_append]
  rfl

theorem reading_dots (text : List Char) (length : Nat) :
    reading (text ++ List.replicate length '.') =
      { reading text with length := (reading text).length + length } := by
  induction length with
  | zero =>
      rw [List.replicate_zero, List.append_nil]
      rfl
  | succ length ih =>
      rw [List.replicate_succ', ← List.append_assoc, reading_concat, ih]
      rfl

/-- A text is another one, which does not end with a dot, and the dots of the run at its end. -/
theorem exists_reading (text : List Char) : ∃ front,
    text = front ++ List.replicate (reading text).length '.' ∧ front.getLast? ≠ some '.' ∧
      (reading text).before = front.getLast? ∧
      (reading text).crowded = (reading front).crowded := by
  induction text using List.reverseRecOn with
  | nil => exact ⟨[], rfl, nofun, rfl, rfl⟩
  | append_singleton text c ih =>
      rw [reading_concat]
      by_cases dot : c = '.'
      · subst dot
        obtain ⟨front, split, solid, before, crowded⟩ := ih
        refine ⟨front, ?_, solid, before, crowded⟩
        rw [push_dot, List.replicate_succ', ← List.append_assoc, ← split]
      · refine ⟨text ++ [c], ?_, ?_, ?_, ?_⟩
        · rw [push_of_ne dot, List.replicate_zero, List.append_nil]
        · simpa using dot
        · rw [push_of_ne dot, List.getLast?_concat]
        · rw [reading_concat]

/-- A run after a character that follows a dot is crowded, unless a digit or nothing is before that
dot. -/
theorem reading_after_dot {c : Char} (solid : c ≠ '.') (text : List Char) :
    reading (text ++ ['.', c]) = ⟨text.getLast?.any isNoDigit, some c, 0⟩ := by
  obtain ⟨front, split, -, before, -⟩ := exists_reading text
  rw [List.append_cons, reading_concat, reading_concat, push_of_ne solid, push_dot]
  cases long : (reading text).length with
  | zero =>
      rw [long, List.replicate_zero, List.append_nil] at split
      subst split
      simp [before]
  | succ more =>
      rw [long, List.replicate_succ', ← List.append_assoc] at split
      rw [split, List.getLast?_concat]
      simp [isNoDigit]

/-- Before a crowded run there is a character that follows a dot, with another one that is no digit
before this dot. -/
theorem exists_of_crowded {front : List Char} (solid : front.getLast? ≠ some '.')
    (crowded : (reading front).crowded = true) : ∃ text c, front = text ++ ['.', c] ∧ c ≠ '.' ∧
      text.getLast?.any isNoDigit = true := by
  rcases front.eq_nil_or_concat' with rfl | ⟨head, c, rfl⟩
  · cases crowded
  have dot : c ≠ '.' := fun same => solid (by rw [same, List.getLast?_concat])
  obtain ⟨start, split, -⟩ := exists_reading head
  cases long : (reading head).length with
  | zero =>
      rw [reading_concat, push_of_ne dot] at crowded
      simp [long] at crowded
  | succ more =>
      rw [long, List.replicate_succ', ← List.append_assoc] at split
      generalize start ++ List.replicate more '.' = text at split
      subst split
      rw [List.append_assoc, List.singleton_append, reading_after_dot dot] at crowded
      exact ⟨text, c, List.append_assoc _ _ _, dot, crowded⟩

end DotRun

/-- The runs are where the text can be split between a dot and something else, or its end. -/
theorem everyRun_iff (run : DotRun) (text : List Char) :
    EveryRun fits run none text ↔ ∀ before after, text = before ++ after →
      after.head? ≠ some '.' → 0 < (before.foldl DotRun.push run).length →
        fits (before.foldl DotRun.push run) after.head? := by
  induction text generalizing run with
  | nil =>
      constructor
      · intro every before after split stops long
        obtain ⟨rfl, rfl⟩ := List.append_eq_nil_iff.mp split.symm
        exact every long
      · intro every long
        exact every [] [] rfl nofun long
  | cons c rest ih =>
      rw [EveryRun, ih]
      constructor
      · rintro ⟨here, later⟩ before after split stops long
        cases before with
        | nil =>
            cases split
            exact here (fun same => stops (congrArg some same)) long
        | cons first before =>
            obtain ⟨rfl, rfl⟩ := List.cons.inj split
            exact later before after rfl stops long
      · intro every
        refine ⟨fun solid long => ?_, fun before after split stops long => ?_⟩
        · exact every [] (c :: rest) rfl (fun same => solid (Option.some.inj same)) long
        · exact every (c :: before) after (congrArg (c :: ·) split) stops long

/-- The condition holds for the dots in some place of the text, with the dots before them. -/
theorem EveryRun.fits_at {text front after : List Char} (every : EveryRun fits .start none text)
    (split : text = front ++ (List.replicate (length + 1) '.' ++ after))
    (stops : after.head? ≠ some '.') :
    fits { DotRun.reading front with length := (DotRun.reading front).length + (length + 1) }
      after.head? := by
  rw [← List.append_assoc] at split
  have here := (everyRun_iff .start text).mp every _ after split stops
  have read : (front ++ List.replicate (length + 1) '.').foldl DotRun.push .start =
      { DotRun.reading front with length := (DotRun.reading front).length + (length + 1) } :=
    DotRun.reading_dots front (length + 1)
  rw [read] at here
  exact here (Nat.succ_pos _)

theorem everyRun_of_forall {text : List Char} (every : ∀ front length after,
    text = front ++ (List.replicate (length + 1) '.' ++ after) → front.getLast? ≠ some '.' →
      after.head? ≠ some '.' →
        fits ⟨(DotRun.reading front).crowded, front.getLast?, length + 1⟩ after.head?) :
    EveryRun fits .start none text := by
  rw [everyRun_iff]
  rintro read after rfl stops long
  obtain ⟨front, split, solid, before, crowded⟩ := DotRun.exists_reading read
  obtain ⟨more, length⟩ := Nat.exists_eq_succ_of_ne_zero (Nat.ne_of_gt long)
  have run : DotRun.reading read =
      ⟨(DotRun.reading front).crowded, front.getLast?, more + 1⟩ := by
    rw [← crowded, ← before, ← Nat.succ_eq_add_one, ← length]
    rfl
  change fits (DotRun.reading read) after.head?
  rw [run] at split ⊢
  refine every front more after ?_ solid stops
  rw [← List.append_assoc, ← split]

/-! ## Opening dots as a change of the condition -/

/-- What the condition comes to, on dots after a character that can stand before them. Before that
character's space `kept` dots of the run are left. -/
def PulledAfter (shape : Option Char → Nat → Option Char → Prop) (right : Char → Bool)
    (before : Option Char) (kept length : Nat) (next : Option Char) : Prop :=
  if length = 0 then 0 < kept → shape before kept next
  else if next.any right then 0 < kept → shape before kept (some ' ')
  else if right '.' && 1 < length then
    (0 < kept → shape before kept (some ' ')) ∧ shape (some ' ') 1 next
  else shape before (kept + length) next

/-- What the condition comes to, on a run that is opened. -/
def Pulled (shape : Option Char → Nat → Option Char → Prop) (left right : Char → Bool) (free : Bool)
    (before : Option Char) (length : Nat) (next : Option Char) : Prop :=
  if free then PulledAfter shape right before 0 length next
  else
    match length with
    | 0 => True
    | more + 1 =>
        if left '.' then PulledAfter shape right before 1 more next
        else shape before (more + 1) next

theorem everyRun_openedAfter (next : Option Char) :
    EveryRun (OfShape shape) run next (openedAfter right length next) ↔
      PulledAfter shape right run.before run.length length next := by
  unfold openedAfter PulledAfter
  split
  · rfl
  next some =>
    split
    · simp [EveryRun, OfShape, DotRun.push]
    · split
      · simp [EveryRun, OfShape, DotRun.push]
      · rw [everyRun_dots]
        have positive : 0 < run.length + length :=
          Nat.add_pos_right _ (Nat.pos_of_ne_zero some)
        simp only [OfShape, positive, forall_const]

theorem everyRun_opened (free : Bool) (before next : Option Char) (length : Nat) :
    EveryRun (OfShape shape) ⟨false, before, 0⟩ next (opened left right free length next) ↔
      Pulled shape left right free before length next := by
  unfold opened Pulled
  split
  · exact everyRun_openedAfter next
  · cases length with
    | zero => simp [EveryRun]
    | succ more =>
        dsimp only
        split
        · simp only [EveryRun, ne_eq, not_true_eq_false, false_implies, true_and]
          exact everyRun_openedAfter next
        · rw [← List.replicate_succ, everyRun_dots]
          simp only [OfShape, Nat.zero_add, Nat.succ_pos, forall_const]

section Whole

variable (free : DotRun → Bool) (steady : ∀ run, free (run.push '.') = free run)
  (moves : ∀ run c, c ≠ '.' → (0 < run.length → fits run (some c)) →
    free (run.push c) = (left c && !takes left right (free run) run.length c))
  (pulls : ∀ run next, Pulled shape left right (free run) run.before run.length next ↔
    (0 < run.length → fits run next))

include steady moves pulls

/-- If a condition comes to another one on what becomes of a single run, it does so on the whole
text. `free` says whether the character before a run can stand before it. -/
theorem everyRun_openedFrom (run : DotRun) (text : List Char) :
    EveryRun (OfShape shape) ⟨false, run.before, 0⟩ none
      (openedFrom left right (free run) run.length text) ↔ EveryRun fits run none text := by
  induction text generalizing run with
  | nil => exact (everyRun_opened _ _ _ _).trans (pulls run none)
  | cons c rest ih =>
      rw [openedFrom, EveryRun]
      by_cases dot : c = '.'
      · subst dot
        have onward := ih (run.push '.')
        rw [steady] at onward
        rw [if_pos rfl]
        simp only [ne_eq, not_true_eq_false, false_implies, true_and]
        exact onward
      · rw [if_neg dot, everyRun_append dot, everyRun_opened, pulls run (some c)]
        simp only [ne_eq, dot, not_false_eq_true, forall_const]
        refine and_congr_right fun fitting => ?_
        rw [← moves run c dot fitting, ← ih (run.push c)]
        have between : (run.push c).length = 0 := by rw [DotRun.push_of_ne dot]
        rw [between]
        apply everyRun_congr
        · rw [DotRun.push_of_ne dot, DotRun.push_of_ne dot]
        · rw [DotRun.push_of_ne dot]

theorem everyRun_openDots (starts : free .start = false) (text : List Char) :
    EveryRun (OfShape shape) .start none (openDots left right text) ↔
      EveryRun fits .start none text := by
  have whole := everyRun_openedFrom free steady moves pulls .start text
  rw [starts] at whole
  rw [openDots_eq_openedFrom]
  exact whole

end Whole

/-- No character that can close a run can stand before one, so every character is free. -/
theorem everyRun_openDots_of_disjoint {other : Option Char → Nat → Option Char → Prop}
    (disjoint : ∀ c, right c = true → left c = false)
    (pulls : ∀ before length next, Pulled shape left right (before.any left) before length next ↔
      (0 < length → other before length next)) (text : List Char) :
    EveryRun (OfShape shape) .start none (openDots left right text) ↔
      EveryRun (OfShape other) .start none text := by
  refine everyRun_openDots (fun run => run.before.any left) (fun _ => rfl) ?_
    (fun run => pulls run.before run.length) rfl text
  intro run c solid _
  rw [DotRun.push_of_ne solid, Option.any_some]
  cases closes : right c with
  | true => rw [disjoint c closes, Bool.false_and]
  | false => simp [takes, closes]

end Templating.Text
