import Mathlib.Data.List.Chain
import Mathlib.Logic.Relation
import Mathlib.Order.WellFounded
import Templating.Graph
import Templating.Proofs.NameMap.Lookup

/-!
# Edges, cycles and topological orders

What an order of the nodes should be, and what stands against one, said without the search. A
topological order makes the edges well-founded, so it excludes every cycle.
-/

namespace Templating.Graph

variable {graph : Graph} {source target node : String} {order : List String}

/-- `source` names `target`, which need not be a node. -/
def Edge (graph : Graph) (source target : String) : Prop := target ∈ graph.dependencies source

/-- Some entry needs itself, at once or through others. -/
def Cyclic (graph : Graph) : Prop := ∃ node, Relation.TransGen graph.Edge node node

/-- The names along a cycle: the first one closes it and stands at the end again. -/
structure IsCycle (graph : Graph) (chain : List String) : Prop where
  two_le_length : 2 ≤ chain.length
  closed : chain.head? = chain.getLast?
  nodup : chain.dropLast.Nodup
  edges : chain.IsChain graph.Edge

/-- Every node once, after the nodes that it names. -/
structure IsTopological (graph : Graph) (order : List String) : Prop where
  nodup : order.Nodup
  mem_iff : ∀ node, node ∈ order ↔ node ∈ graph.nodes
  earlier : ∀ before node after, order = before ++ node :: after →
    ∀ target ∈ graph.dependencies node, target ∈ graph.nodes → target ∈ before

theorem contains_iff_mem_nodes : graph.contains node = true ↔ node ∈ graph.nodes :=
  NameMap.contains_iff

theorem mem_successors :
    target ∈ graph.successors source ↔ graph.Edge source target ∧ target ∈ graph.nodes := by
  rw [successors, List.mem_filter, contains_iff_mem_nodes]
  rfl

/-- Only nodes name others. -/
theorem mem_nodes_of_edge (edge : graph.Edge source target) : source ∈ graph.nodes := by
  by_contra absent
  have none := NameMap.get?_eq_none_iff.mpr absent
  rw [Edge, dependencies, none] at edge
  cases edge

/-- A chain that comes back to its first name leads around a cycle. -/
theorem IsCycle.cyclic {chain : List String} (cycle : graph.IsCycle chain) : graph.Cyclic := by
  obtain ⟨long, closed, -, edges⟩ := cycle
  match chain, long with
  | first :: second :: rest, _ =>
      obtain ⟨edge, tail⟩ := List.isChain_cons_cons.mp edges
      have last : (second :: rest).getLast (List.cons_ne_nil _ _) = first := by
        rw [List.head?_cons, List.getLast?_eq_some_getLast (List.cons_ne_nil _ _),
          List.getLast_cons (List.cons_ne_nil _ _)] at closed
        exact (Option.some.inj closed).symm
      have back := List.relationReflTransGen_of_exists_isChain_cons _ tail last
      exact ⟨first, Relation.TransGen.head' edge back⟩

namespace IsTopological

/-- What holds of a node whenever it holds of the nodes that it names, holds of all nodes. -/
theorem induction {motive : String → Prop} (sorted : graph.IsTopological order)
    (step : ∀ node ∈ graph.nodes,
      (∀ target ∈ graph.dependencies node, target ∈ graph.nodes → motive target) → motive node) :
    ∀ node ∈ graph.nodes, motive node := by
  have prefixes : ∀ before after, order = before ++ after → ∀ node ∈ before, motive node := by
    intro before
    induction before using List.reverseRecOn with
    | nil =>
        intro after _ node member
        cases member
    | append_singleton before last ih =>
        intro after split node member
        have split' : order = before ++ last :: after := by
          rw [split, List.append_assoc, List.singleton_append]
        have settled := ih (last :: after) split'
        rcases List.mem_append.mp member with early | here
        · exact settled node early
        · obtain rfl := List.mem_singleton.mp here
          have isNode : node ∈ graph.nodes :=
            (sorted.mem_iff node).mp (split ▸ List.mem_append_left _ member)
          exact step node isNode fun target edge targetNode =>
            settled target (sorted.earlier before node after split' target edge targetNode)
  intro node member
  exact prefixes order [] (List.append_nil order).symm node ((sorted.mem_iff node).mpr member)

/-- Going from names to the names that they need comes to an end. -/
theorem wellFounded (sorted : graph.IsTopological order) :
    WellFounded fun target source => graph.Edge source target := by
  have leaf : ∀ name, name ∉ graph.nodes →
      Acc (fun target source => graph.Edge source target) name := by
    intro name absent
    exact Acc.intro name fun target edge => absurd (mem_nodes_of_edge edge) absent
  refine ⟨fun name => ?_⟩
  by_cases isNode : name ∈ graph.nodes
  · refine sorted.induction ?_ name isNode
    intro node _ settled
    refine Acc.intro node fun target edge => ?_
    by_cases targetNode : target ∈ graph.nodes
    · exact settled target edge targetNode
    · exact leaf target targetNode
  · exact leaf name isNode

theorem not_cyclic (sorted : graph.IsTopological order) : ¬ graph.Cyclic := by
  rintro ⟨node, around⟩
  have backwards := Relation.transGen_swap.mpr around
  exact sorted.wellFounded.transGen.irrefl.irrefl node backwards

end IsTopological

end Templating.Graph
