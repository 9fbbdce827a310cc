import Templating.Filter.Text
import Templating.Proofs.Text.Splitting

/-!
# Splitting and joining with filters

The splitting filters give a list of texts, and joining this list gives the text that was split.
Texts that do not hold a character are found again when they are joined with it and split at it.
-/

namespace Templating.Filter

/-- Texts as a list value. -/
def texts (items : List String) : Value := .list (items.map .string)

theorem textList_eq (pieces : List (List Char)) :
    textList pieces = texts (pieces.map String.ofList) := by
  rw [textList, texts, List.map_map]
  rfl

theorem split_text (text separator : String) :
    split (.string text) [.string separator] =
      .ok (texts ((Text.split separator.toList text.toList).map String.ofList)) := by
  rw [← textList_eq]
  rfl

/-- Without a separator, splitting and joining are at line feeds. -/
theorem lines_text (text : String) :
    lines (.string text) [] = split (.string text) [.string "\n"] := rfl

theorem join_lines (items : List String) :
    join (texts items) [] = join (texts items) [.string "\n"] := rfl

theorem join_texts (items : List String) (separator : String) :
    join (texts items) [.string separator] =
      .ok (.string (String.ofList (Text.join separator.toList (items.map String.toList)))) := by
  have written : (items.map Value.string).map (fun item => item.toText.toList) =
      items.map String.toList := List.map_map
  rw [← written]
  rfl

theorem join_pieces (text separator : String) :
    join (texts ((Text.split separator.toList text.toList).map String.ofList))
      [.string separator] = .ok (.string text) := by
  have pieces : ((Text.split separator.toList text.toList).map String.ofList).map String.toList =
      Text.split separator.toList text.toList := by
    simp [List.map_map, Function.comp_def]
  rw [join_texts, pieces, Text.join_split, String.ofList_toList]

/-- A text that is split comes back when its pieces are joined, whatever the separator, and no piece
holds a separator that is not empty. Texts come back from being joined with a character that none
of them holds, if there is at least one of them. -/
theorem splitting_joining_inverse :
    (∀ text separator : String, ∃ pieces : List String,
      split (.string text) [.string separator] = .ok (texts pieces) ∧
      join (texts pieces) [.string separator] = .ok (.string text) ∧
      (separator ≠ "" → ∀ piece ∈ pieces, ¬ separator.toList <:+: piece.toList)) ∧
    (∀ text : String, ∃ pieces : List String,
      lines (.string text) [] = .ok (texts pieces) ∧
      join (texts pieces) [] = .ok (.string text)) ∧
    ∀ (c : Char) (items : List String), items ≠ [] → (∀ item ∈ items, c ∉ item.toList) →
      ∃ joined, join (texts items) [.string (String.singleton c)] = .ok joined ∧
        split joined [.string (String.singleton c)] = .ok (texts items) := by
  refine ⟨fun text separator => ?_, fun text => ?_, fun c items some free => ?_⟩
  · refine ⟨_, split_text text separator, join_pieces text separator, ?_⟩
    intro given piece member
    obtain ⟨inside, cut, rfl⟩ := List.mem_map.mp member
    rw [String.toList_ofList]
    refine Text.not_infix_of_mem_split (fun empty => given ?_) cut
    rwa [String.toList_eq_nil_iff] at empty
  · refine ⟨_, (lines_text text).trans (split_text text "\n"), ?_⟩
    rw [join_lines, join_pieces]
  · refine ⟨_, join_texts items _, ?_⟩
    have kept : Text.split [c] (Text.join [c] (items.map String.toList)) =
        items.map String.toList := by
      refine Text.split_join_char (by simpa using some) fun text member => ?_
      obtain ⟨item, inside, rfl⟩ := List.mem_map.mp member
      exact free item inside
    rw [split_text, String.toList_ofList, String.toList_singleton, kept, List.map_map]
    simp

/-- Of occurrences that overlap only the first counts; texts may be empty, and the character may take
several bytes. -/
theorem splitting_joining_inverse_overlapping :
    (split (.string "aaa") [.string "aa"] = .ok (texts ["", "a"]) ∧
      join (texts ["", "a"]) [.string "aa"] = .ok (.string "aaa")) ∧
    ∃ joined, join (texts ["", "é", "", ""]) [.string (String.singleton '→')] = .ok joined ∧
      split joined [.string (String.singleton '→')] = .ok (texts ["", "é", "", ""]) := by
  obtain ⟨whole, -, parts⟩ := splitting_joining_inverse
  constructor
  · have first : Text.cut? "aa".toList "aaa".toList = some ([], ['a']) := by decide
    have pieces : Text.split "aa".toList "aaa".toList = [[], ['a']] :=
      (Text.splitBy_of_cut? first).trans
        (congrArg _ (Text.splitBy_of_absent (by decide)))
    have cut : split (.string "aaa") [.string "aa"] = .ok (texts ["", "a"]) := by
      rw [split_text, pieces]
      rfl
    obtain ⟨_, cut', joined, -⟩ := whole "aaa" "aa"
    rw [cut] at cut'
    rw [← Except.ok.inj cut'] at joined
    exact ⟨cut, joined⟩
  · exact parts '→' ["", "é", "", ""] (by decide) (by decide)

end Templating.Filter
