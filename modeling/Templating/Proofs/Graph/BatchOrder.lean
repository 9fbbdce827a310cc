import Templating.Proofs.Graph.Visits

/-!
# The order keeps to the batch

Nodes are taken up in batch order. So a batch in which every entry stands after those that it needs
keeps its order, and otherwise an entry moves in front of another one only because it is needed: by
that one, or by an entry that stands still further in front.
-/

namespace Templating.Graph

open Relation (ReflTransGen TransGen)

variable {graph : Graph} {level : Nat} {search last : Search} {targets : List String}
  {visits : List Visit} {outcome : Except (List String) Search} {node target : String}

/-- Where a name stands once, the names before it are those in front of its place. -/
theorem pair_sublist_iff {first second : String} {before after : List String}
    (distinct : (before ++ second :: after).Nodup) :
    [first, second].Sublist (before ++ second :: after) ↔ first ∈ before := by
  obtain ⟨-, tail, apart⟩ := List.nodup_append.mp distinct
  have once : second ∉ after := (List.nodup_cons.mp tail).1
  constructor
  · intro ordered
    obtain ⟨front, back, equal, inFront, inBack⟩ := List.sublist_append_iff.mp ordered
    by_contra absent
    match front, equal with
    | [], equal =>
        rw [List.nil_append] at equal
        subst equal
        cases inBack with
        | cons _ inAfter => exact once (inAfter.subset (List.mem_cons_of_mem _ List.mem_cons_self))
        | cons_cons _ inAfter => exact once (inAfter.subset List.mem_cons_self)
    | name :: others, equal =>
        obtain rfl := (List.cons.inj equal).1
        exact absent (inFront.subset List.mem_cons_self)
  · intro member
    exact (List.singleton_sublist.mpr member).append
      (List.singleton_sublist.mpr List.mem_cons_self)

namespace Visits

/-! ## Batches in order -/

/-- Targets that are done are passed over. -/
theorem exists_done (finished : ∀ target ∈ targets, search.marks.get? target = some .done) :
    ∃ visits, graph.Visits level search targets visits (.ok search) := by
  induction targets with
  | nil => exact ⟨[], .nil⟩
  | cons target rest ih =>
      obtain ⟨here, later⟩ := List.forall_mem_cons.mp finished
      obtain ⟨visits, run⟩ := ih later
      exact ⟨_, .done here run⟩

/-- The nodes in front are done, in their order, and the rest follows them node by node. -/
theorem exists_inOrder (front back : List String) (split : graph.nodes = front ++ back)
    (sorted : ∀ before node after, graph.nodes = before ++ node :: after →
      ∀ target ∈ graph.successors node, target ∈ before)
    (consistent : search.Consistent graph) (path : search.path = [])
    (order : search.order = front) :
    ∃ visits last, graph.Visits level search back visits (.ok last) ∧ last.order = graph.nodes := by
  induction back generalizing search front with
  | nil => exact ⟨[], search, .nil, by rw [order, split, List.append_nil]⟩
  | cons node rest ih =>
      have ready : search.Ready graph (node :: rest) := consistent.ready path
        fun target member => split ▸ List.mem_append_right front member
      have fresh : node ∉ front := by
        have distinct : (front ++ node :: rest).Nodup := split ▸ graph.edges.nodup
        intro early
        exact (List.nodup_append.mp distinct).2.2 node early node List.mem_cons_self rfl
      have unmarked : search.marks.get? node = none :=
        consistent.unmarked_of_unseen (path ▸ List.not_mem_nil) (order ▸ fresh)
      have entered := ready.enter unmarked
      have settled : ∀ target ∈ graph.successors node, target ∈ (search.enter node).order :=
        fun target needed => order ▸ sorted front node rest split target needed
      have left := entered.consistent.leave rfl settled
      obtain ⟨within, inner⟩ : ∃ visits, graph.Visits (level + 1) (search.enter node)
          (graph.successors node) visits (.ok (search.enter node)) :=
        exists_done fun target needed =>
          (entered.consistent.done_iff target).mpr (settled target needed)
      obtain ⟨visits, last, later, whole⟩ := ih (front ++ [node])
        (by rw [split, List.append_assoc, List.singleton_append]) left
        ((Search.path_leave rfl).trans path) (congrArg (· ++ [node]) order)
      exact ⟨_, last, .finished unmarked inner later, whole⟩

/-! ## Batches out of order -/

/-- A node is finished only when a target needs it, at once or through others, or is the node. -/
theorem reachable_of_mem_order (run : graph.Visits level search targets visits outcome)
    (done : outcome = .ok last) (member : node ∈ last.order) :
    node ∈ search.order ∨ ∃ target ∈ targets, ReflTransGen graph.Edge target node := by
  induction run generalizing last node with
  | nil =>
      cases done
      exact .inl member
  | done _ _ ih =>
      exact (ih done member).imp_right fun ⟨target, rest, reaches⟩ =>
        ⟨target, List.mem_cons_of_mem _ rest, reaches⟩
  | again => cases done
  | @finished level search between first rest within visits outcome _ _ _ ihInner ihLater =>
      rcases ihLater done member with early | ⟨target, later, reaches⟩
      · refine (List.mem_append.mp early).elim (fun inside => ?_) fun here => ?_
        · refine (ihInner rfl inside).imp_right fun ⟨target, needed, reaches⟩ => ?_
          have edge := (mem_successors.mp needed).1
          exact ⟨first, List.mem_cons_self, .head edge reaches⟩
        · obtain rfl := List.mem_singleton.mp here
          exact .inr ⟨node, List.mem_cons_self, .refl⟩
      · exact .inr ⟨target, List.mem_cons_of_mem _ later, reaches⟩
  | stopped => cases done

/-- Targets in two parts are visited part by part. -/
theorem split {front back : List String}
    (run : graph.Visits level search (front ++ back) visits (.ok last)) :
    ∃ middle early late, graph.Visits level search front early (.ok middle) ∧
      graph.Visits level middle back late (.ok last) := by
  induction front generalizing search visits with
  | nil => exact ⟨search, [], visits, .nil, run⟩
  | cons node rest ih =>
      cases run with
      | done marked later =>
          obtain ⟨middle, early, late, first, second⟩ := ih later
          exact ⟨middle, _, late, .done marked first, second⟩
      | finished unmarked inner later =>
          obtain ⟨middle, early, late, first, second⟩ := ih later
          exact ⟨middle, _, late, .finished unmarked inner first, second⟩

/-- What is finished before `early` is needed by `early` or by a target in front of it. -/
theorem exists_root {front back : List String} {early late : String}
    (run : graph.Visits level .start (front ++ early :: back) visits (.ok last))
    (nodes : ∀ target ∈ front ++ early :: back, target ∈ graph.nodes)
    (ahead : [late, early].Sublist last.order) :
    ∃ root ∈ front ++ [early], ReflTransGen graph.Edge root late := by
  rw [List.append_cons] at run nodes
  obtain ⟨middle, _, _, first, second⟩ := run.split
  obtain ⟨kept, path, -, found⟩ := first.reached (Search.consistent_start.ready rfl
    fun target member => nodes target (List.mem_append_left back member))
  obtain ⟨keptLast, -, ⟨rest, whole⟩, -⟩ := second.reached (kept.ready path
    fun target member => nodes target (List.mem_append_right _ member))
  -- `early` is finished in the first part, and what comes before it is so, too.
  obtain ⟨before, after, place⟩ := List.append_of_mem
    (found early (List.mem_append_right front List.mem_cons_self))
  have order : last.order = before ++ early :: (after ++ rest) := by
    rw [← whole, place, List.append_assoc, List.cons_append]
  have inFront : late ∈ before := by
    have distinct := keptLast.order_nodup
    rw [order] at ahead distinct
    exact (pair_sublist_iff distinct).mp ahead
  have finished : late ∈ middle.order := place ▸ List.mem_append_left _ inFront
  exact (first.reachable_of_mem_order rfl finished).resolve_left List.not_mem_nil

end Visits

theorem topologicalOrder_of_search (sorted : graph.search = .ok last) :
    graph.topologicalOrder = .ok last.order := by
  rw [topologicalOrder, sorted]

/-- If each node stands after those that it needs, then every cut of the batch at a node has them
in front. -/
theorem topologicalOrder_of_inOrder
    (sorted : ∀ node ∈ graph.nodes, ∀ target ∈ graph.successors node,
      [target, node].Sublist graph.nodes) :
    graph.topologicalOrder = .ok graph.nodes := by
  have inFront : ∀ before node after, graph.nodes = before ++ node :: after →
      ∀ target ∈ graph.successors node, target ∈ before := by
    intro before node after split target needed
    have member : node ∈ graph.nodes := split ▸ List.mem_append_right _ List.mem_cons_self
    have ordered := sorted node member target needed
    have distinct : graph.nodes.Nodup := graph.edges.nodup
    rw [split] at ordered distinct
    exact (pair_sublist_iff distinct).mp ordered
  obtain ⟨visits, run⟩ := exists_visits_search graph
  obtain ⟨others, last, same, whole⟩ := Visits.exists_inOrder [] graph.nodes rfl inFront
    Search.consistent_start rfl rfl
  rw [topologicalOrder_of_search (run.unique same).2.symm, whole]

theorem exists_order_of_not_cyclic (acyclic : ¬ graph.Cyclic) :
    ∃ last, graph.search = .ok last ∧ graph.topologicalOrder = .ok last.order := by
  cases searched : graph.search with
  | error chain =>
      have failed : graph.topologicalOrder = .error (.circularDependency chain) := by
        rw [topologicalOrder, searched]
      exact absurd (topologicalOrder_error_iff.mp ⟨_, failed⟩) acyclic
  | ok last => exact ⟨last, rfl, topologicalOrder_of_search searched⟩

/-- The batch is split at the later of the two nodes, and then at the earlier one. -/
theorem exists_root_of_moved {early late : String} (searched : graph.search = .ok last)
    (precedes : [early, late].Sublist graph.nodes) (moved : [late, early].Sublist last.order) :
    ∃ root, (root = early ∨ [root, early].Sublist graph.nodes) ∧
      TransGen graph.Edge root late := by
  have distinct : graph.nodes.Nodup := graph.edges.nodup
  obtain ⟨visits, run⟩ := exists_visits_search graph
  obtain ⟨before, after, split⟩ := List.append_of_mem
    (precedes.subset (List.mem_cons_of_mem early List.mem_cons_self))
  rw [split] at distinct precedes
  obtain ⟨front, between, rfl⟩ := List.append_of_mem ((pair_sublist_iff distinct).mp precedes)
  have parts : graph.nodes = front ++ early :: (between ++ late :: after) := by
    rw [split, List.append_assoc, List.cons_append]
  rw [searched, parts] at run
  obtain ⟨root, here, reaches⟩ := run.exists_root (fun _ member => parts ▸ member) moved
  have other : late ≠ root := by
    rintro rfl
    have ahead : late ∈ front ++ early :: between := by
      rw [List.append_cons]
      exact List.mem_append_left between here
    exact (List.nodup_append.mp distinct).2.2 late ahead late List.mem_cons_self rfl
  refine ⟨root, ?_, (Relation.reflTransGen_iff_eq_or_transGen.mp reaches).resolve_left other⟩
  rcases List.mem_append.mp here with inFront | same
  · rw [← split, parts] at distinct
    rw [parts]
    exact .inr ((pair_sublist_iff distinct).mpr inFront)
  · exact .inl (List.mem_singleton.mp same)

/-- Nodes that all stand after those that they need are put in batch order. In any other order
without a cycle, a node comes to stand before one that precedes it only if that one, or a node in
front of it, needs it at once or through others. -/
theorem topologicalOrder_batch (graph : Graph) :
    ((∀ node ∈ graph.nodes, ∀ target ∈ graph.successors node,
        [target, node].Sublist graph.nodes) →
      graph.topologicalOrder = .ok graph.nodes) ∧
    (¬ graph.Cyclic → ∃ order, graph.topologicalOrder = .ok order ∧
      ∀ early late, [early, late].Sublist graph.nodes → [late, early].Sublist order →
        ∃ root, (root = early ∨ [root, early].Sublist graph.nodes) ∧
          TransGen graph.Edge root late) := by
  refine ⟨topologicalOrder_of_inOrder, fun acyclic => ?_⟩
  obtain ⟨last, searched, sorted⟩ := exists_order_of_not_cyclic acyclic
  exact ⟨last.order, sorted, fun early late => exists_root_of_moved searched⟩

/-- A batch in order, with a shared entry and one that needs nothing; and a batch whose last entry
moves to the front because the first one needs it through another. -/
theorem topologicalOrder_batch_shared :
    let inOrder : Graph := ⟨.ofPairs [("low", []), ("left", ["low"]), ("free", []),
      ("top", ["left", "low"])], []⟩
    let moved : Graph := ⟨.ofPairs [("top", ["left"]), ("free", []), ("left", ["low"]),
      ("low", [])], []⟩
    inOrder.topologicalOrder = .ok ["low", "left", "free", "top"] ∧
      moved.topologicalOrder = .ok ["low", "left", "top", "free"] ∧
      ∃ root, (root = "free" ∨ [root, "free"].Sublist moved.nodes) ∧
        TransGen moved.Edge root "low" := by
  intro inOrder moved
  have sorted : moved.topologicalOrder = .ok ["low", "left", "top", "free"] := rfl
  have acyclic : ¬ moved.Cyclic := (isTopological_of_topologicalOrder sorted).not_cyclic
  obtain ⟨order, same, needed⟩ := (topologicalOrder_batch moved).2 acyclic
  cases sorted.symm.trans same
  refine ⟨(topologicalOrder_batch inOrder).1 (by decide), sorted, ?_⟩
  exact needed "free" "low" (by decide) (by decide)

end Templating.Graph
