import Mathlib.Data.List.DropRight
import Mathlib.Data.List.TakeWhile
import Templating.Text.Blank
import Templating.Text.Search

/-!
# Trimming

Trimming takes a part out of the middle of a text and leaves blanks around it. A trimmed text is
left as it is, and blanks put around a text are taken off again.
-/

namespace Templating.Text

theorem trim_eq (text : List Char) :
    trim text = (text.dropWhile isBlank).rdropWhile isBlank := rfl

theorem trim_infix (text : List Char) : trim text <:+: text :=
  (List.rdropWhile_prefix isBlank (text.dropWhile isBlank)).isInfix.trans
    (List.dropWhile_suffix isBlank).isInfix

theorem trim_trim (text : List Char) : trim (trim text) = trim text := by
  have solid := List.dropWhile_eq_self_iff.mp (List.dropWhile_idempotent isBlank text)
  have start : trim text <+: text.dropWhile isBlank := List.rdropWhile_prefix isBlank _
  have front : (trim text).dropWhile isBlank = trim text := by
    rw [List.dropWhile_eq_self_iff]
    intro positive
    rw [start.getElem positive]
    exact solid (Nat.lt_of_lt_of_le positive start.length_le)
  rw [trim_eq (trim text), front, trim_eq text, List.rdropWhile_idempotent]

theorem trim_padded {c : Char} (blank : isBlank c = true) (text : List Char) :
    trim (c :: (text ++ [c])) = trim text := by
  rw [trim_eq, trim_eq, List.dropWhile_cons_of_pos blank, List.dropWhile_append]
  by_cases empty : (text.dropWhile isBlank).isEmpty = true
  · rw [if_pos empty, List.dropWhile_cons_of_pos blank, List.isEmpty_iff.mp empty]
    rfl
  · rw [if_neg empty, List.rdropWhile_concat_pos isBlank _ c blank]

theorem trim_append_blanks {text before after : List Char}
    (front : ∀ c ∈ before, isBlank c = true) (back : ∀ c ∈ after, isBlank c = true) :
    trim (before ++ text ++ after) = trim text := by
  have start : (before ++ text ++ after).dropWhile isBlank =
      (text ++ after).dropWhile isBlank := by
    rw [List.append_assoc, List.dropWhile_append_of_pos front]
  have ends : ∀ kept : List Char, (kept ++ after).rdropWhile isBlank = kept.rdropWhile isBlank := by
    intro kept
    have reversed : ∀ c ∈ after.reverse, isBlank c = true := fun c member =>
      back c (List.mem_reverse.mp member)
    rw [List.rdropWhile, List.reverse_append, List.dropWhile_append_of_pos reversed,
      List.rdropWhile]
  rw [trim_eq, trim_eq, start, List.dropWhile_append]
  by_cases empty : (text.dropWhile isBlank).isEmpty = true
  · rw [if_pos empty, List.isEmpty_iff.mp empty, List.dropWhile_eq_nil_iff.mpr back]
  · rw [if_neg empty, ends]

/-- What trimming takes off at either end is blank. -/
theorem exists_blanks_around_trim (text : List Char) :
    ∃ before after, (∀ c ∈ before, isBlank c = true) ∧ (∀ c ∈ after, isBlank c = true) ∧
      text = before ++ trim text ++ after := by
  refine ⟨text.takeWhile isBlank, (text.dropWhile isBlank).rtakeWhile isBlank, ?_, ?_, ?_⟩
  · exact fun c => List.mem_takeWhile_imp
  · exact fun c => List.mem_rtakeWhile_imp
  · rw [trim_eq, List.append_assoc, List.rdropWhile_append_rtakeWhile,
      List.takeWhile_append_dropWhile]

/-- A text with something at either end that is not blank. -/
structure Solid (text : List Char) : Prop where
  nonempty : text ≠ []
  head : ∀ c, text.head? = some c → isBlank c = false
  last : ∀ c, text.getLast? = some c → isBlank c = false

namespace Solid

variable {text front back : List Char}

theorem trim_eq (solid : Solid text) : trim text = text := by
  have start : text.dropWhile isBlank = text := by
    rw [List.dropWhile_eq_self_iff]
    intro positive
    rw [solid.head text[0] (by rw [List.head?_eq_getElem?, List.getElem?_eq_getElem positive])]
    exact Bool.false_ne_true
  rw [Text.trim_eq, start, List.rdropWhile_eq_self_iff]
  intro nonempty
  rw [solid.last _ (List.getLast?_eq_some_getLast nonempty)]
  exact Bool.false_ne_true

theorem of_trim_eq (nonempty : text ≠ []) (trimmed : trim text = text) : Solid text where
  nonempty := nonempty
  head c first := by
    obtain ⟨rest, rfl⟩ := List.head?_eq_some_iff.mp first
    by_contra blank
    have shorter := (List.rdropWhile_prefix isBlank ((c :: rest).dropWhile isBlank)).length_le
    rw [← Text.trim_eq, trimmed, List.dropWhile_cons_of_pos (by simpa using blank)] at shorter
    have bound := (List.dropWhile_suffix isBlank (l := rest)).length_le
    rw [List.length_cons] at shorter
    omega
  last c final := by
    obtain ⟨rest, rfl⟩ := List.getLast?_eq_some_iff.mp final
    have kept : (trim (rest ++ [c])).getLast? = some c := by rw [trimmed]; exact final
    have ends : trim (rest ++ [c]) ≠ [] := by rw [trimmed]; exact nonempty
    have solid := List.rdropWhile_last_not isBlank ((rest ++ [c]).dropWhile isBlank) ends
    rw [List.getLast?_eq_some_getLast ends] at kept
    rw [← Option.some.inj kept]
    exact eq_false_of_ne_true solid

theorem of_forall (nonempty : text ≠ []) (solid : ∀ c ∈ text, isBlank c = false) : Solid text where
  nonempty := nonempty
  head c first := solid c (List.mem_of_head? first)
  last c final := solid c (List.mem_of_getLast? final)

/-- What lies between two solid texts may be blank. -/
theorem append (first : Solid front) (second : Solid back) (between : List Char) :
    Solid (front ++ (between ++ back)) where
  nonempty := List.append_ne_nil_of_left_ne_nil first.nonempty _
  head c start := first.head c (by rwa [List.head?_append_of_ne_nil _ first.nonempty] at start)
  last c final := second.last c (by
    rwa [← List.append_assoc, List.getLast?_append_of_ne_nil _ second.nonempty] at final)

theorem join {texts : List (List Char)} (nonempty : texts ≠ [])
    (each : ∀ text ∈ texts, Solid text) (between : List Char) :
    Solid (Text.join between texts) := by
  induction texts with
  | nil => exact absurd rfl nonempty
  | cons first others ih =>
      obtain ⟨start, later⟩ := List.forall_mem_cons.mp each
      cases others with
      | nil => simpa only [Text.join, List.intercalate_singleton] using start
      | cons second others =>
          rw [Text.join, List.intercalate_cons_cons, List.append_assoc]
          exact start.append (ih (List.cons_ne_nil _ _) later) between

end Solid

end Templating.Text
