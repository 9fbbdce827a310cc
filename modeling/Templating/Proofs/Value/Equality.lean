import Templating.Proofs.NameMap.Lookup
import Templating.Value.Equality

/-!
# Values equal to themselves

A value is equal to itself if no float stands in it: then its parts are compared one with another,
and in a map each name leads back to the entry that it comes from, because names are distinct.
-/

namespace Templating.Value

mutual

/-- No float stands in the value. -/
def Floatless : Value → Prop
  | float _ => False
  | list items => FloatlessItems items
  | map entries => FloatlessEntries entries
  | _ => True

def FloatlessItems : List Value → Prop
  | [] => True
  | item :: rest => item.Floatless ∧ FloatlessItems rest

def FloatlessEntries : List (String × Value) → Prop
  | [] => True
  | (_, value) :: rest => value.Floatless ∧ FloatlessEntries rest

end

mutual

theorem same_self : ∀ value : Value, value.WellFormed → value.Floatless → same value value = true
  | nil, _, _ => rfl
  | bool _, _, _ => beq_self_eq_true _
  | int _, _, _ => beq_self_eq_true _
  | float _, _, floatless => floatless.elim
  | string _, _, _ => beq_self_eq_true _
  | list items, formed, floatless => sameItems_self items formed floatless
  | map entries, formed, floatless => by
      have found : ∀ entry ∈ entries, Entries.get? entry.1 entries = some entry.2 :=
        fun _ member => Entries.get?_of_mem formed.1 member
      rw [same, beq_self_eq_true, Bool.true_and]
      exact sameEntries_of_get? entries entries formed.2 floatless found
  | timestamp _, _, _ => beq_self_eq_true _

theorem sameItems_self : ∀ items : List Value, WellFormedItems items → FloatlessItems items →
    sameItems items items = true
  | [], _, _ => rfl
  | item :: rest, formed, floatless => by
      rw [sameItems, same_self item formed.1 floatless.1,
        sameItems_self rest formed.2 floatless.2, Bool.and_self]

/-- The entries are compared with those that their names lead to, here themselves. -/
theorem sameEntries_of_get? : ∀ entries others : List (String × Value),
    WellFormedEntries entries → FloatlessEntries entries →
    (∀ entry ∈ entries, Entries.get? entry.1 others = some entry.2) →
    sameEntries entries others = true
  | [], _, _, _, _ => rfl
  | (name, value) :: rest, others, formed, floatless, found => by
      obtain ⟨here, later⟩ := List.forall_mem_cons.mp found
      rw [sameEntries, here, sameEntries_of_get? rest others formed.2 floatless.2 later,
        Bool.and_true]
      exact same_self value formed.1 floatless.1

end

end Templating.Value
