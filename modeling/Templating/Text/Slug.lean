import Templating.Text.Blank
import Templating.Text.Case

/-!
# Slugs

A slug is written with small ASCII letters, digits, hyphens and dots. The title is put in lower
case, every other character becomes a space, runs of dots are opened to a space in three passes,
and last each run of spaces and hyphens becomes one hyphen.
-/

namespace Templating.Text

def isSlugLetter (c : Char) : Bool :=
  (0x61 ≤ c.toNat && c.toNat ≤ 0x7a) || c.isDigit

def isSlugChar (c : Char) : Bool := isSlugLetter c || c == '-' || c == '.'

/-- Lower case, with a space for every character that a slug cannot hold; blanks are kept. -/
def slugAlphabet (title : List Char) : List Char :=
  (lower title).map fun c => if isSlugChar c || isBlank c then c else ' '

/-- A run of dots between a character that satisfies `left` and one that satisfies `right`, at the
start of the text: the two neighbours and what follows. The run is as long as possible; its last
dot may serve as the right neighbour. -/
def dotRun? (left right : Char → Bool) : List Char → Option (Char × Char × List Char)
  | [] => none
  | c :: rest =>
      let dots := rest.takeWhile (· == '.')
      let beyond := rest.dropWhile (· == '.')
      if !left c || dots.isEmpty then none
      else
        match beyond with
        | next :: later =>
            if right next then some (c, next, later)
            else if right '.' && 2 ≤ dots.length then some (c, '.', beyond) else none
        | [] => if right '.' && 2 ≤ dots.length then some (c, '.', []) else none

theorem length_dotRun?_lt {left right : Char → Bool} {text rest : List Char} {c next : Char}
    (found : dotRun? left right text = some (c, next, rest)) : rest.length < text.length := by
  cases text with
  | nil => simp [dotRun?] at found
  | cons first tail =>
      have shorter : (tail.dropWhile (· == '.')).length ≤ tail.length :=
        (List.dropWhile_sublist _).length_le
      simp only [dotRun?] at found
      split at found
      · simp at found
      · split at found
        next head later equal =>
          have size := congrArg List.length equal
          simp only [List.length_cons] at size
          split at found
          · cases found; simp only [List.length_cons]; omega
          · split at found
            · simp only [Option.some.injEq, Prod.mk.injEq] at found
              obtain ⟨-, -, rfl⟩ := found
              simp only [List.length_cons]; omega
            · simp at found
        next equal =>
          split at found
          · simp only [Option.some.injEq, Prod.mk.injEq] at found
            obtain ⟨-, -, rfl⟩ := found
            simp
          · simp at found

/-- Replaces each run of dots between the two kinds of neighbours by a space, from left to right
and without overlap. -/
def openDots (left right : Char → Bool) (text : List Char) : List Char :=
  match _found : dotRun? left right text with
  | some (c, next, rest) => c :: ' ' :: next :: openDots left right rest
  | none =>
      match text with
      | [] => []
      | c :: rest => c :: openDots left right rest
termination_by text.length
decreasing_by
  · exact length_dotRun?_lt _found
  · simp

/-- One hyphen for each run of blanks and hyphens. -/
def hyphenate : List Char → List Char
  | [] => []
  | c :: rest =>
      let isGap := fun c => isBlank c || c == '-'
      if isGap c then
        match rest with
        | [] => ['-']
        | next :: _ => if isGap next then hyphenate rest else '-' :: hyphenate rest
      else c :: hyphenate rest

def isNoDigit (c : Char) : Bool := !c.isDigit

def slugify (title : List Char) : List Char :=
  let spaced := [' '].intercalate (words (slugAlphabet title))
  let opened := openDots Char.isDigit isNoDigit
    (openDots isNoDigit Char.isDigit (openDots isNoDigit isNoDigit spaced))
  hyphenate opened

end Templating.Text
