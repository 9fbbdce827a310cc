import Mathlib.Data.List.Basic
import Templating.Text.Slug

/-!
# Opening dots

What becomes of a run of dots is settled by the character after it and by the one before it, which
may have been used up by the run before. So dots are opened in one reading of the text, which only
carries the dots of the run that it is in and whether the character before them is free.
-/

namespace Templating.Text

section Opening

variable (left right : Char → Bool)

/-- What the dots become that follow a character which can stand before them. -/
def openedAfter (length : Nat) (next : Option Char) : List Char :=
  if length = 0 then []
  else if next.any right then [' ']
  else if right '.' && 1 < length then [' ', '.']
  else List.replicate length '.'

/-- What a run of dots becomes. Where the character before it is not free, the first of the dots may
stand in for it. -/
def opened (free : Bool) (length : Nat) (next : Option Char) : List Char :=
  if free then openedAfter right length next
  else
    match length with
    | 0 => []
    | more + 1 =>
        '.' :: if left '.' then openedAfter right more next else List.replicate more '.'

/-- Whether the character after a run is used up with it. -/
def takes (free : Bool) (length : Nat) (next : Char) : Bool :=
  right next && if free then 0 < length else left '.' && 1 < length

/-- The rest of a text after `length` dots, with these. -/
def openedFrom (free : Bool) (length : Nat) : List Char → List Char
  | [] => opened left right free length none
  | c :: rest =>
      if c = '.' then openedFrom free (length + 1) rest
      else
        opened left right free length (some c) ++
          c :: openedFrom (left c && !takes left right free length c) 0 rest

end Opening

variable {left right : Char → Bool} {c next : Char} {length : Nat} {text rest : List Char}

theorem takeWhile_dots (length : Nat) (stops : rest.head? ≠ some '.') :
    (List.replicate length '.' ++ rest).takeWhile (· == '.') = List.replicate length '.' := by
  have stop : rest.takeWhile (· == '.') = [] := by
    cases rest with
    | nil => rfl
    | cons next later => exact List.takeWhile_cons_of_neg (by simpa using stops)
  simp [List.takeWhile_append_of_pos, stop]

theorem dropWhile_dots (length : Nat) (stops : rest.head? ≠ some '.') :
    (List.replicate length '.' ++ rest).dropWhile (· == '.') = rest := by
  have stop : rest.dropWhile (· == '.') = rest := by
    cases rest with
    | nil => rfl
    | cons next later => exact List.dropWhile_cons_of_neg (by simpa using stops)
  simp [List.dropWhile_append_of_pos, stop]

theorem dotRun?_next (length : Nat) (fits : left c = true) (solid : next ≠ '.')
    (closes : right next = true) :
    dotRun? left right (c :: (List.replicate (length + 1) '.' ++ next :: rest)) =
      some (c, next, rest) := by
  have stops : (next :: rest).head? ≠ some '.' := by simpa using solid
  simp [dotRun?, takeWhile_dots (length + 1) stops, dropWhile_dots (length + 1) stops, fits, closes]

theorem dotRun?_dot (length : Nat) (fits : left c = true) (stops : rest.head? ≠ some '.')
    (notClosed : rest.head?.any right = false) (closes : right '.' = true) :
    dotRun? left right (c :: (List.replicate (length + 2) '.' ++ rest)) = some (c, '.', rest) := by
  rw [dotRun?, takeWhile_dots (length + 2) stops, dropWhile_dots (length + 2) stops]
  cases rest with
  | nil => simp [fits, closes]
  | cons next later =>
      have other : right next = false := notClosed
      simp [fits, closes, other]

/-- Nothing is opened at a character that cannot stand before dots, or before no dots, or before a
run that nothing closes. -/
theorem dotRun?_none (stops : rest.head? ≠ some '.')
    (blocked : left c = false ∨ length = 0 ∨
      rest.head?.any right = false ∧ (right '.' = true → length ≤ 1)) :
    dotRun? left right (c :: (List.replicate length '.' ++ rest)) = none := by
  rw [dotRun?, takeWhile_dots length stops, dropWhile_dots length stops]
  rcases blocked with other | rfl | ⟨notClosed, short⟩
  · simp [other]
  · simp
  · have dot : (right '.' && decide (2 ≤ length)) = false := by
      cases closes : right '.' with
      | false => rfl
      | true => simpa using Nat.lt_succ_of_le (short closes)
    cases rest with
    | nil => simp [List.length_replicate, dot]
    | cons next later =>
        have other : right next = false := notClosed
        simp [List.length_replicate, dot, other]

theorem openDots_of_some {c next : Char} (found : dotRun? left right text = some (c, next, rest)) :
    openDots left right text = c :: ' ' :: next :: openDots left right rest := by
  rw [openDots]
  split
  next found' =>
    cases found.symm.trans found'
    rfl
  next found' => cases found.symm.trans found'

theorem openDots_of_none (found : dotRun? left right (c :: rest) = none) :
    openDots left right (c :: rest) = c :: openDots left right rest := by
  rw [openDots]
  split
  next found' => cases found.symm.trans found'
  next => rfl

theorem openDots_nil : openDots left right [] = [] := by
  rw [openDots]
  rfl

/-- Dots stay where none of them can stand before the others, or nothing closes the run. -/
theorem openDots_dots (length : Nat) (stops : rest.head? ≠ some '.')
    (blocked : left '.' = false ∨
      rest.head?.any right = false ∧ (right '.' = true → length ≤ 2)) :
    openDots left right (List.replicate length '.' ++ rest) =
      List.replicate length '.' ++ openDots left right rest := by
  induction length with
  | zero => rfl
  | succ length ih =>
      have here : dotRun? left right ('.' :: (List.replicate length '.' ++ rest)) = none :=
        dotRun?_none stops (blocked.imp_right fun closed =>
          .inr ⟨closed.1, fun closes => Nat.le_of_succ_le_succ (closed.2 closes)⟩)
      rw [List.replicate_succ, List.cons_append, openDots_of_none here, List.cons_append,
        ih (blocked.imp_right fun closed =>
          ⟨closed.1, fun closes => Nat.le_of_succ_le (closed.2 closes)⟩)]

/-- How the text goes on after a run. -/
def resumed (left right : Char → Bool) (free : Bool) (length : Nat) : List Char → List Char
  | [] => []
  | c :: rest =>
      if takes left right free length c then c :: openDots left right rest
      else openDots left right (c :: rest)

theorem resumed_of_open (free : Bool) (length : Nat) (notClosed : rest.head?.any right = false) :
    resumed left right free length rest = openDots left right rest := by
  cases rest with
  | nil => rw [resumed, openDots_nil]
  | cons next later =>
      have other : right next = false := notClosed
      simp [resumed, takes, other]

theorem resumed_zero (free : Bool) (rest : List Char) :
    resumed left right free 0 rest = openDots left right rest := by
  cases rest with
  | nil => rw [resumed, openDots_nil]
  | cons next later => cases free <;> simp [resumed, takes]

theorem openDots_free (length : Nat) (fits : left c = true) (stops : rest.head? ≠ some '.') :
    openDots left right (c :: (List.replicate length '.' ++ rest)) =
      c :: (opened left right true length rest.head? ++ resumed left right true length rest) := by
  cases length with
  | zero =>
      rw [openDots_of_none (dotRun?_none stops (.inr (.inl rfl))), resumed_zero]
      rfl
  | succ length =>
      cases closed : rest.head?.any right with
      | true =>
          cases rest with
          | nil => cases closed
          | cons next later =>
              have closes : right next = true := closed
              have solid : next ≠ '.' := by simpa using stops
              rw [openDots_of_some (dotRun?_next length fits solid closes)]
              simp [opened, openedAfter, resumed, takes, closes]
      | false =>
          rw [resumed_of_open true (length + 1) closed]
          cases dots : right '.' && decide (1 < length + 1) with
          | true =>
              obtain ⟨closes, long⟩ := (Bool.and_eq_true _ _).mp dots
              obtain ⟨more, rfl⟩ :=
                Nat.exists_eq_add_of_le' (Nat.le_of_lt_succ (of_decide_eq_true long))
              rw [openDots_of_some (dotRun?_dot more fits stops closed closes)]
              simp [opened, openedAfter, closed, closes]
          | false =>
              have short : right '.' = true → length + 1 ≤ 1 := by
                intro closes
                rw [closes, Bool.true_and] at dots
                exact Nat.le_of_not_lt (of_decide_eq_false dots)
              rw [openDots_of_none (dotRun?_none stops (.inr (.inr ⟨closed, short⟩))),
                openDots_dots (length + 1) stops (.inr ⟨closed, fun closes =>
                  Nat.le_succ_of_le (short closes)⟩),
                opened, if_pos rfl, openedAfter, if_neg (Nat.succ_ne_zero length), closed, dots,
                if_neg Bool.false_ne_true, if_neg Bool.false_ne_true]

theorem openDots_held (length : Nat) (stops : rest.head? ≠ some '.') :
    openDots left right (List.replicate length '.' ++ rest) =
      opened left right false length rest.head? ++ resumed left right false length rest := by
  cases length with
  | zero => exact (resumed_zero false rest).symm
  | succ more =>
      rw [List.replicate_succ, List.cons_append]
      cases dot : left '.' with
      | true =>
          have same : resumed left right false (more + 1) rest =
              resumed left right true more rest := by
            cases rest with
            | nil => rfl
            | cons next later => simp [resumed, takes, dot]
          rw [openDots_free more dot stops, same]
          simp [opened, dot]
      | false =>
          have same : resumed left right false (more + 1) rest = openDots left right rest := by
            cases rest with
            | nil => rw [resumed, openDots_nil]
            | cons next later => simp [resumed, takes, dot]
          rw [← List.cons_append, ← List.replicate_succ, openDots_dots _ stops (.inl dot), same]
          simp [opened, dot, List.replicate_succ]

/-- Opening dots is one reading, also after dots that are not read yet. -/
theorem openDots_eq_openedFrom_and (text : List Char) :
    (∀ length, openDots left right (List.replicate length '.' ++ text) =
      openedFrom left right false length text) ∧
    ∀ c length, left c = true → openDots left right (c :: (List.replicate length '.' ++ text)) =
      c :: openedFrom left right true length text := by
  induction text with
  | nil =>
      have stops : ([] : List Char).head? ≠ some '.' := nofun
      refine ⟨fun length => ?_, fun c length fits => ?_⟩
      · rw [openDots_held length stops]
        exact List.append_nil _
      · rw [openDots_free length fits stops]
        exact congrArg _ (List.append_nil _)
  | cons next rest ih =>
      obtain ⟨held, free⟩ := ih
      by_cases dot : next = '.'
      · subst dot
        have longer : ∀ length, List.replicate length '.' ++ '.' :: rest =
            List.replicate (length + 1) '.' ++ rest := fun length => by
          rw [List.append_cons, List.replicate_succ']
        refine ⟨fun length => ?_, fun c length fits => ?_⟩
        · rw [longer, held, openedFrom, if_pos rfl]
        · rw [longer, free c (length + 1) fits, openedFrom, if_pos rfl]
      · have stops : (next :: rest).head? ≠ some '.' := fun same => dot (Option.some.inj same)
        have onward : ∀ isFree length, resumed left right isFree length (next :: rest) =
            next :: openedFrom left right (left next && !takes left right isFree length next) 0
              rest := by
          intro isFree length
          cases used : takes left right isFree length next with
          | true => simpa [resumed, used] using held 0
          | false =>
              cases fits : left next with
              | true => simpa [resumed, used] using free next 0 fits
              | false =>
                  have here : dotRun? left right (next :: rest) = none := by
                    rw [dotRun?, fits]
                    rfl
                  simpa [resumed, used, openDots_of_none here] using held 0
        refine ⟨fun length => ?_, fun c length fits => ?_⟩
        · rw [openDots_held length stops, onward, openedFrom, if_neg dot, List.head?_cons]
        · rw [openDots_free length fits stops, onward, openedFrom, if_neg dot, List.head?_cons]

theorem openDots_eq_openedFrom (text : List Char) :
    openDots left right text = openedFrom left right false 0 text :=
  (openDots_eq_openedFrom_and text).1 0

end Templating.Text
