import Mathlib.Data.List.Infix
import Templating.Text.Search

/-!
# First occurrences

A cut is made at the first place where a pattern stands: what comes before it, even with all but
the last character of the pattern, does not hold the pattern. Every other occurrence stands further
back. Where there is no cut, the pattern stands nowhere in the text.
-/

namespace Templating.Text

variable {pattern text before rest : List Char}

theorem after?_append (pattern rest : List Char) :
    after? pattern (pattern ++ rest) = some rest := by
  induction pattern with
  | nil => rfl
  | cons p pattern ih => rw [List.cons_append, after?, if_pos rfl, ih]

theorem after?_eq_some_iff : after? pattern text = some rest ↔ text = pattern ++ rest :=
  ⟨eq_append_of_after?, fun equal => equal ▸ after?_append pattern rest⟩

theorem after?_eq_none_iff : after? pattern text = none ↔ ¬ pattern <+: text := by
  constructor
  · rintro absent ⟨rest, rfl⟩
    rw [after?_append] at absent
    cases absent
  · intro absent
    cases found : after? pattern text with
    | none => rfl
    | some rest =>
        rw [after?_eq_some_iff.mp found] at absent
        exact absurd (List.prefix_append pattern rest) absent

theorem cut?_eq_none_iff : cut? pattern text = none ↔ ¬ pattern <:+: text := by
  induction text with
  | nil => simp [cut?, after?_eq_none_iff]
  | cons c text ih =>
      rw [cut?, List.infix_cons_iff]
      cases start : after? pattern (c :: text) with
      | some rest =>
          have here : pattern <+: c :: text := ⟨rest, (after?_eq_some_iff.mp start).symm⟩
          simp [here]
      | none =>
          have away := after?_eq_none_iff.mp start
          simp [away, ih]

theorem contains_eq_true_iff : contains pattern text = true ↔ pattern <:+: text := by
  rw [contains, ← Option.ne_none_iff_isSome, Ne, cut?_eq_none_iff, not_not]

theorem contains_eq_false_iff : contains pattern text = false ↔ ¬ pattern <:+: text := by
  rw [← Bool.not_eq_true, contains_eq_true_iff]

/-- A pattern is cut out where it stands, if it does not end before. -/
theorem cut?_append (nonempty : pattern ≠ []) (rest : List Char)
    (first : ¬ pattern <:+: before ++ pattern.dropLast) :
    cut? pattern (before ++ pattern ++ rest) = some (before, rest) := by
  induction before with
  | nil =>
      obtain ⟨c, tail, rfl⟩ := List.exists_cons_of_ne_nil nonempty
      have start := after?_append (c :: tail) rest
      rw [List.cons_append] at start
      rw [List.nil_append, List.cons_append, cut?, start]
  | cons c before ih =>
      rw [List.cons_append, List.infix_cons_iff, not_or] at first
      have whole : before ++ pattern ++ rest =
          (before ++ pattern.dropLast) ++ (pattern.getLast nonempty :: rest) := by
        rw [List.append_assoc, List.append_assoc]
        congr 1
        conv_lhs => rw [← List.dropLast_append_getLast nonempty]
        rw [List.append_assoc, List.singleton_append]
      have away : after? pattern (c :: (before ++ pattern ++ rest)) = none := by
        rw [after?_eq_none_iff, whole, ← List.cons_append]
        intro start
        have bound : pattern.length ≤ (c :: (before ++ pattern.dropLast)).length := by
          simp only [List.length_cons, List.length_append, List.length_dropLast]
          omega
        exact first.1 (List.prefix_of_prefix_length_le start (List.prefix_append _ _) bound)
      rw [List.cons_append, List.cons_append, cut?, away, ih first.2]
      rfl

/-- Nothing is cut out at a later place than the first. -/
theorem not_infix_of_cut? (nonempty : pattern ≠ [])
    (found : cut? pattern text = some (before, rest)) :
    ¬ pattern <:+: before ++ pattern.dropLast := by
  have short : ¬ pattern <:+: pattern.dropLast := by
    intro inside
    have bound := inside.length_le
    have positive := List.length_pos_of_ne_nil nonempty
    rw [List.length_dropLast] at bound
    omega
  induction text generalizing before with
  | nil =>
      rw [cut?, Option.map_eq_some_iff] at found
      obtain ⟨_, _, equal⟩ := found
      cases equal
      exact short
  | cons c text ih =>
      have whole := eq_append_of_cut? found
      rw [cut?] at found
      cases start : after? pattern (c :: text) with
      | some tail =>
          rw [start] at found
          cases found
          exact short
      | none =>
          rw [start] at found
          obtain ⟨⟨front, back⟩, later, equal⟩ := Option.map_eq_some_iff.mp found
          cases equal
          rw [List.cons_append, List.infix_cons_iff, not_or]
          refine ⟨fun early => ?_, ih later⟩
          have tail : text = front ++ pattern ++ back := eq_append_of_cut? later
          have longer : c :: (front ++ pattern.dropLast) <+: c :: text := by
            rw [tail, List.append_assoc, List.cons_prefix_cons]
            refine ⟨rfl, List.prefix_append_right_inj front |>.mpr ?_⟩
            exact (List.dropLast_prefix pattern).trans (List.prefix_append pattern back)
          exact after?_eq_none_iff.mp start (early.trans longer)

theorem not_infix_before_of_cut? (nonempty : pattern ≠ [])
    (found : cut? pattern text = some (before, rest)) : ¬ pattern <:+: before := fun inside =>
  not_infix_of_cut? nonempty found (inside.trans (List.prefix_append before _).isInfix)

/-- A cut is made at the first occurrence and nowhere else. -/
theorem cut?_eq_some_iff (nonempty : pattern ≠ []) :
    cut? pattern text = some (before, rest) ↔
      text = before ++ pattern ++ rest ∧ ¬ pattern <:+: before ++ pattern.dropLast := by
  constructor
  · intro found
    exact ⟨eq_append_of_cut? found, not_infix_of_cut? nonempty found⟩
  · rintro ⟨rfl, first⟩
    exact cut?_append nonempty rest first

/-- A cut stays where it is when more text follows. -/
theorem cut?_append_of_cut? (nonempty : pattern ≠ [])
    (found : cut? pattern text = some (before, rest)) (more : List Char) :
    cut? pattern (text ++ more) = some (before, rest ++ more) := by
  obtain ⟨whole, first⟩ := (cut?_eq_some_iff nonempty).mp found
  refine (cut?_eq_some_iff nonempty).mpr ⟨?_, first⟩
  rw [whole, List.append_assoc]

/-- What follows an occurrence ends what follows the first. -/
theorem suffix_of_cut? {front back : List Char} (nonempty : pattern ≠ [])
    (found : cut? pattern (front ++ pattern ++ back) = some (before, rest)) : back <:+ rest := by
  obtain ⟨whole, first⟩ := (cut?_eq_some_iff nonempty).mp found
  have earlier : before.length ≤ front.length := by
    by_contra later
    have kept : before ++ pattern.dropLast <+: front ++ pattern ++ back := by
      rw [whole, List.append_assoc, List.prefix_append_right_inj]
      exact (List.dropLast_prefix pattern).trans (List.prefix_append pattern rest)
    have bound : (front ++ pattern).length ≤ (before ++ pattern.dropLast).length := by
      simp only [List.length_append, List.length_dropLast]
      omega
    have inside := List.prefix_of_prefix_length_le (List.prefix_append _ back) kept bound
    exact first ((List.suffix_append front pattern).isInfix.trans inside.isInfix)
  have sizes := congrArg List.length whole
  simp only [List.length_append] at sizes
  refine List.suffix_of_suffix_length_le (List.suffix_append (front ++ pattern) back) ?_ ?_
  · rw [whole]
    exact List.suffix_append _ rest
  · omega

end Templating.Text
