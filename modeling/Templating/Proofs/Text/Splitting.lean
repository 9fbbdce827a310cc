import Templating.Proofs.Text.Occurrence

/-!
# Splitting and joining

The pieces of a text with the separator put back between them are the text, and no piece holds the
separator. The other way around, pieces are found again if no occurrence of the separator begins in
one of them, not even one that ends in the separator after it.
-/

namespace Templating.Text

variable {head : Char} {tail separator text before rest piece : List Char}
  {pieces : List (List Char)}

theorem join_cons (nonempty : pieces ≠ []) :
    join separator (piece :: pieces) = piece ++ separator ++ join separator pieces := by
  rw [join, List.intercalate_cons_of_ne_nil nonempty, join]

theorem splitBy_of_cut? (found : cut? (head :: tail) text = some (before, rest)) :
    splitBy head tail text = before :: splitBy head tail rest := by
  rw [splitBy]
  split
  next absent => rw [absent] at found; cases found
  next found' => rw [found'] at found; cases found; rfl

theorem splitBy_of_absent (absent : ¬ head :: tail <:+: text) :
    splitBy head tail text = [text] := by
  rw [splitBy]
  split
  next => rfl
  next found => rw [cut?_eq_none_iff.mpr absent] at found; cases found

theorem splitBy_ne_nil (head : Char) (tail text : List Char) : splitBy head tail text ≠ [] := by
  rw [splitBy]
  split
  all_goals exact List.cons_ne_nil _ _

/-! ## Joining what was split -/

theorem join_splitBy (head : Char) (tail text : List Char) :
    join (head :: tail) (splitBy head tail text) = text := by
  induction text using splitBy.induct head tail with
  | case1 text absent =>
      rw [splitBy_of_absent (cut?_eq_none_iff.mp absent)]
      exact List.intercalate_singleton
  | case2 text before rest found ih =>
      rw [splitBy_of_cut? found, join_cons (splitBy_ne_nil head tail rest), ih]
      exact (eq_append_of_cut? found).symm

theorem join_nil (pieces : List (List Char)) : join [] pieces = pieces.flatten := by
  induction pieces with
  | nil => rfl
  | cons piece pieces ih =>
      by_cases last : pieces = []
      · rw [last, join, List.intercalate_singleton, List.flatten_singleton]
      · rw [join_cons last, ih, List.append_nil, List.flatten_cons]

theorem join_split (separator text : List Char) : join separator (split separator text) = text := by
  cases separator with
  | nil =>
      have letters : (text.map fun c => [c]).flatten = text := List.flatMap_singleton' text
      rw [split, join_nil, List.cons_append, List.flatten_cons, List.flatten_append, letters,
        List.flatten_singleton, List.append_nil, List.nil_append]
  | cons head tail => exact join_splitBy head tail text

/-! ## Pieces -/

theorem not_infix_of_mem_splitBy (member : piece ∈ splitBy head tail text) :
    ¬ head :: tail <:+: piece := by
  induction text using splitBy.induct head tail with
  | case1 text absent =>
      have away := cut?_eq_none_iff.mp absent
      rw [splitBy_of_absent away, List.mem_singleton] at member
      rwa [member]
  | case2 text before rest found ih =>
      rw [splitBy_of_cut? found, List.mem_cons] at member
      rcases member with rfl | later
      · exact not_infix_before_of_cut? (List.cons_ne_nil head tail) found
      · exact ih later

theorem not_infix_of_mem_split (nonempty : separator ≠ []) (member : piece ∈ split separator text) :
    ¬ separator <:+: piece := by
  cases separator with
  | nil => exact absurd rfl nonempty
  | cons head tail => exact not_infix_of_mem_splitBy member

/-- A character is a border on either side of which a text is split alone. -/
theorem splitAtChar_append (c : Char) (front back : List Char) :
    splitAtChar c (front ++ c :: back) = splitAtChar c front ++ splitAtChar c back := by
  unfold splitAtChar
  rw [List.append_cons]
  induction front using splitBy.induct c [] with
  | case1 front absent =>
      have away := cut?_eq_none_iff.mp absent
      have first : ¬ [c] <:+: front ++ [c].dropLast := by
        rwa [List.dropLast_singleton, List.append_nil]
      rw [splitBy_of_absent away, splitBy_of_cut? (cut?_append (List.cons_ne_nil c []) back first),
        List.singleton_append]
  | case2 front before rest found ih =>
      have found' := cut?_append_of_cut? (List.cons_ne_nil c []) found ([c] ++ back)
      rw [← List.append_assoc, ← List.append_assoc] at found'
      rw [splitBy_of_cut? found, splitBy_of_cut? found', ih, List.cons_append]

/-! ## Splitting what was joined -/

theorem split_join (nonempty : separator ≠ []) (some : pieces ≠ [])
    (apart : ∀ piece ∈ pieces, ¬ separator <:+: piece ++ separator.dropLast) :
    split separator (join separator pieces) = pieces := by
  obtain ⟨head, tail, rfl⟩ := List.exists_cons_of_ne_nil nonempty
  change splitBy head tail _ = _
  induction pieces with
  | nil => exact absurd rfl some
  | cons piece pieces ih =>
      obtain ⟨here, later⟩ := List.forall_mem_cons.mp apart
      by_cases last : pieces = []
      · have absent : ¬ head :: tail <:+: piece := fun inside =>
          here (inside.trans (List.prefix_append piece _).isInfix)
        rw [last, join, List.intercalate_singleton, splitBy_of_absent absent]
      · rw [join_cons last, splitBy_of_cut? (cut?_append nonempty _ here), ih last later]

/-- An occurrence of a single character lies in one piece. -/
theorem split_join_char {c : Char} (some : pieces ≠ []) (free : ∀ piece ∈ pieces, c ∉ piece) :
    split [c] (join [c] pieces) = pieces := by
  refine split_join (List.cons_ne_nil c []) some fun piece member inside => free piece member ?_
  rw [List.dropLast_singleton, List.append_nil] at inside
  exact inside.subset (List.mem_singleton_self c)

end Templating.Text
