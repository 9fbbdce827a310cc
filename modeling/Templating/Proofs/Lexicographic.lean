import Mathlib.Order.Lattice

/-!
# Comparing part by part

Where a first part decides unless it is the same on both sides, a comparison is that of the first
parts and then that of the rest. Lists that begin with parts of one length are compared in this way,
and so are texts that go by their bytes in UTF-8.
-/

namespace Templating

theorem compare_eq_then {α β : Type} [LinearOrder α] [LinearOrder β] {first second : α} {x y : β}
    {later : Ordering} (below : first < second → x < y) (above : second < first → y < x)
    (equal : first = second → compare x y = later) :
    compare x y = (compare first second).then later := by
  rcases lt_trichotomy first second with less | same | greater
  · rw [compare_lt_iff_lt.mpr (below less), compare_lt_iff_lt.mpr less]
    rfl
  · rw [compare_eq_iff_eq.mpr same, equal same]
    rfl
  · rw [compare_gt_iff_gt.mpr (above greater), compare_gt_iff_gt.mpr greater]
    rfl

theorem compare_eq_compare {α β : Type} [LinearOrder α] [LinearOrder β] {first second : α} {x y : β}
    (below : first < second → x < y) (above : second < first → y < x)
    (equal : first = second → x = y) : compare x y = compare first second := by
  have parts := compare_eq_then below above fun same => compare_eq_iff_eq.mpr (equal same)
  rwa [Ordering.then_eq] at parts

theorem compare_append {α : Type} [Ord α] {first second : List α}
    (same : first.length = second.length) (rest others : List α) :
    compare (first ++ rest) (second ++ others) =
      (compare first second).then (compare rest others) := by
  induction first generalizing second with
  | nil =>
      rw [List.eq_nil_of_length_eq_zero same.symm]
      rfl
  | cons x first ih =>
      cases second with
      | nil => cases same
      | cons y second =>
          rw [List.cons_append, List.cons_append, List.compare_cons_cons, List.compare_cons_cons,
            ih (Nat.succ.inj same), Ordering.then_assoc]

namespace Text

/-- The bytes of a text in UTF-8. -/
def utf8 (text : List Char) : List UInt8 := (String.ofList text).toUTF8.data.toList

theorem utf8_eq (text : List Char) : utf8 text = text.flatMap String.utf8EncodeChar := by
  simp [utf8, String.toUTF8, String.toByteArray_ofList, List.utf8Encode]

theorem utf8_append (first second : List Char) :
    utf8 (first ++ second) = utf8 first ++ utf8 second := by
  rw [utf8_eq, utf8_eq, utf8_eq, List.flatMap_append]

theorem compare_utf8_append {first second : List Char}
    (same : (utf8 first).length = (utf8 second).length) (rest others : List Char) :
    compare (utf8 (first ++ rest)) (utf8 (second ++ others)) =
      (compare (utf8 first) (utf8 second)).then (compare (utf8 rest) (utf8 others)) := by
  rw [utf8_append, utf8_append, compare_append same]

theorem compare_utf8_cons (c : Char) (rest others : List Char) :
    compare (utf8 (c :: rest)) (utf8 (c :: others)) = compare (utf8 rest) (utf8 others) := by
  have self : compare (utf8 [c]) (utf8 [c]) = .eq := Std.ReflCmp.compare_self
  have parts := compare_utf8_append (Eq.refl (utf8 [c]).length) rest others
  rwa [self, Ordering.eq_then] at parts

end Text

end Templating
