/-!
# Finding and splitting text

A pattern is found at its leftmost place; occurrences do not overlap. `cut?` takes a text apart at
the first occurrence, and the splitters repeat it on what follows.
-/

namespace Templating.Text

/-- What follows `pattern` at the start of the text. -/
def after? : List Char → List Char → Option (List Char)
  | [], text => some text
  | _ :: _, [] => none
  | p :: pattern, c :: text => if p = c then after? pattern text else none

theorem eq_append_of_after? {pattern text rest : List Char}
    (found : after? pattern text = some rest) : text = pattern ++ rest := by
  induction pattern generalizing text with
  | nil => simpa [after?] using found
  | cons p pattern ih =>
      cases text with
      | nil => simp [after?] at found
      | cons c text =>
          by_cases same : p = c
          · subst same; simp only [after?, if_true] at found; simp [ih found]
          · simp [after?, same] at found

/-- The text before and after the first occurrence of `pattern`. -/
def cut? (pattern : List Char) : List Char → Option (List Char × List Char)
  | [] => (after? pattern []).map fun rest => ([], rest)
  | c :: text =>
      match after? pattern (c :: text) with
      | some rest => some ([], rest)
      | none => (cut? pattern text).map fun parts => (c :: parts.1, parts.2)

theorem eq_append_of_cut? {pattern text before rest : List Char}
    (found : cut? pattern text = some (before, rest)) : text = before ++ pattern ++ rest := by
  induction text generalizing before rest with
  | nil =>
      simp only [cut?, Option.map_eq_some_iff] at found
      obtain ⟨_, start, equal⟩ := found
      cases equal
      simpa using eq_append_of_after? start
  | cons c text ih =>
      simp only [cut?] at found
      split at found
      next start => cases found; simpa using eq_append_of_after? start
      next =>
        simp only [Option.map_eq_some_iff, Prod.exists] at found
        obtain ⟨front, back, later, equal⟩ := found
        cases equal
        simp [ih later]

theorem length_of_cut? {pattern text before rest : List Char}
    (found : cut? pattern text = some (before, rest)) :
    text.length = before.length + pattern.length + rest.length := by
  simp [eq_append_of_cut? found, Nat.add_assoc]

def contains (pattern text : List Char) : Bool := (cut? pattern text).isSome

/-- The pieces between the occurrences of a separator that starts with `head`. -/
def splitBy (head : Char) (tail text : List Char) : List (List Char) :=
  match _found : cut? (head :: tail) text with
  | none => [text]
  | some (before, rest) => before :: splitBy head tail rest
termination_by text.length
decreasing_by have := length_of_cut? _found; simp at this; omega

/-- The pieces between the occurrences of `separator`. The empty separator stands before, between
and after all characters. -/
def split (separator text : List Char) : List (List Char) :=
  match separator with
  | [] => [] :: text.map (fun c => [c]) ++ [[]]
  | head :: tail => splitBy head tail text

/-- Splits at every `c`. -/
def splitAtChar (c : Char) (text : List Char) : List (List Char) := splitBy c [] text

/-- The pieces with `separator` between them. -/
def join (separator : List Char) (pieces : List (List Char)) : List Char :=
  separator.intercalate pieces

end Templating.Text
