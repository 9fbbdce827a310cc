import Templating.Graph.Order
import Templating.Proofs.Graph.Topology

/-!
# The search and its bookkeeping

A search is consistent when its marks, its path and its order tell the same story: the path is a
walk through the nodes in progress, and the order lists the finished nodes, each after what it
needs. `Visits` is the recursion of the search with no limit on its depth. It keeps a search
consistent or ends with a cycle, and the depth that is allowed to a visit is never used up, because
a path that repeats no node is not longer than the nodes are many.
-/

namespace Templating.Graph

variable {graph : Graph} {node target : String} {search next : Search}

namespace Search

structure Consistent (graph : Graph) (search : Search) : Prop where
  inProgress_iff : ∀ node, search.marks.get? node = some .inProgress ↔ node ∈ search.path
  done_iff : ∀ node, search.marks.get? node = some .done ↔ node ∈ search.order
  path_nodup : search.path.Nodup
  path_edges : search.path.IsChain graph.Edge
  path_nodes : ∀ node ∈ search.path, node ∈ graph.nodes
  order_nodup : search.order.Nodup
  order_nodes : ∀ node ∈ search.order, node ∈ graph.nodes
  earlier : ∀ before node after, search.order = before ++ node :: after →
    ∀ target ∈ graph.successors node, target ∈ before

theorem consistent_start : start.Consistent graph where
  inProgress_iff node := by simp [start, NameMap.get?_empty]
  done_iff node := by simp [start, NameMap.get?_empty]
  path_nodup := List.nodup_nil
  path_edges := List.IsChain.nil
  path_nodes _ member := by cases member
  order_nodup := List.nodup_nil
  order_nodes _ member := by cases member
  earlier before node after split := by cases before <;> cases split

namespace Consistent

/-- A node without a mark is met for the first time. -/
theorem unseen (consistent : search.Consistent graph) (unmarked : search.marks.get? node = none) :
    node ∉ search.path ∧ node ∉ search.order := by
  constructor
  · intro member
    rw [(consistent.inProgress_iff node).mpr member] at unmarked
    cases unmarked
  · intro member
    rw [(consistent.done_iff node).mpr member] at unmarked
    cases unmarked

theorem unmarked_of_unseen (consistent : search.Consistent graph) (fresh : node ∉ search.path)
    (unfinished : node ∉ search.order) : search.marks.get? node = none := by
  rcases marked : search.marks.get? node with - | - | -
  · rfl
  · exact absurd ((consistent.inProgress_iff node).mp marked) fresh
  · exact absurd ((consistent.done_iff node).mp marked) unfinished

/-- No node is in progress and finished at once. -/
theorem disjoint (consistent : search.Consistent graph) (open_ : node ∈ search.path) :
    node ∉ search.order := by
  intro member
  have marks := (consistent.inProgress_iff node).mpr open_
  rw [(consistent.done_iff node).mpr member] at marks
  cases marks

theorem enter (consistent : search.Consistent graph) (member : node ∈ graph.nodes)
    (edges : (search.path ++ [node]).IsChain graph.Edge)
    (unmarked : search.marks.get? node = none) : (search.enter node).Consistent graph := by
  obtain ⟨fresh, unfinished⟩ := consistent.unseen unmarked
  refine ⟨fun other => ?_, fun other => ?_, ?_, edges, ?_, consistent.order_nodup,
    consistent.order_nodes, consistent.earlier⟩
  · simp only [Search.enter, NameMap.get?_insert, List.mem_append, List.mem_singleton]
    by_cases same : other = node
    · simp [same]
    · simp [same, consistent.inProgress_iff]
  · simp only [Search.enter, NameMap.get?_insert]
    by_cases same : other = node
    · simp [same, unfinished]
    · simp [same, consistent.done_iff]
  · exact List.nodup_append.mpr ⟨consistent.path_nodup, List.nodup_singleton node,
      fun early here last atEnd equal =>
        fresh (List.mem_singleton.mp atEnd ▸ equal ▸ here)⟩
  · intro other here
    rcases List.mem_append.mp here with early | last
    · exact consistent.path_nodes other early
    · exact List.mem_singleton.mp last ▸ member

/-- The node at the end of the path is finished once all that it needs is. -/
theorem leave {path : List String} (consistent : search.Consistent graph)
    (last : search.path = path ++ [node])
    (settled : ∀ target ∈ graph.successors node, target ∈ search.order) :
    (search.leave node).Consistent graph := by
  have here : node ∈ search.path := last ▸ List.mem_append_right _ List.mem_cons_self
  have unfinished := consistent.disjoint here
  have apart := last ▸ consistent.path_nodup
  have fresh : node ∉ path := fun early =>
    (List.nodup_append.mp apart).2.2 node early node List.mem_cons_self rfl
  have shorter : (search.leave node).path = path := by
    rw [Search.leave, last, List.dropLast_concat]
  refine ⟨fun other => ?_, fun other => ?_, ?_, ?_, ?_, ?_, ?_, ?_⟩
  · rw [shorter]
    simp only [Search.leave, NameMap.get?_insert]
    by_cases same : other = node
    · simp [same, fresh]
    · simp [same, consistent.inProgress_iff, last]
  · simp only [Search.leave, NameMap.get?_insert, List.mem_append, List.mem_singleton]
    by_cases same : other = node
    · simp [same]
    · simp [same, consistent.done_iff]
  · rw [shorter]
    exact (List.nodup_append.mp apart).1
  · rw [shorter]
    exact (last ▸ consistent.path_edges).left_of_append
  · rw [shorter]
    exact fun other early => consistent.path_nodes other (last ▸ List.mem_append_left _ early)
  · exact List.nodup_append.mpr ⟨consistent.order_nodup, List.nodup_singleton node,
      fun other done last atEnd equal =>
        unfinished (List.mem_singleton.mp atEnd ▸ equal ▸ done)⟩
  · intro other done
    rcases List.mem_append.mp done with early | atEnd
    · exact consistent.order_nodes other early
    · exact List.mem_singleton.mp atEnd ▸ consistent.path_nodes node here
  · intro before other after split target needed
    rcases List.eq_nil_or_concat after with rfl | ⟨front, final, rfl⟩
    · obtain ⟨rfl, equal⟩ := List.append_inj' split rfl
      obtain rfl := (List.cons.inj equal).1
      exact settled target needed
    · rw [List.concat_eq_append] at split
      have split' : search.order ++ [node] = (before ++ other :: front) ++ [final] :=
        split.trans (List.append_assoc before (other :: front) [final]).symm
      obtain ⟨equal, -⟩ := List.append_inj' split' rfl
      exact consistent.earlier before other front equal target needed

/-- A node of the path that is met again closes a cycle. -/
theorem isCycle (consistent : search.Consistent graph) (again : node ∈ search.path)
    (edges : (search.path ++ [node]).IsChain graph.Edge) : graph.IsCycle (search.cycle node) := by
  obtain ⟨before, after, split, fresh⟩ := List.eq_append_cons_of_mem again
  have place : search.path.idxOf? node = some before.length := by
    rw [List.idxOf?_eq_some_iff, split]
    refine ⟨by simp, by simp, fun index lt => ?_⟩
    rw [List.getElem_append_left lt]
    exact fun equal => fresh (equal ▸ List.getElem_mem lt)
  have around : search.cycle node = node :: (after ++ [node]) := by
    rw [Search.cycle, place, split, Option.getD_some, List.drop_left, List.cons_append]
  have suffix : search.cycle node <:+ search.path ++ [node] := by
    rw [around, split, List.append_assoc]
    exact List.suffix_append before (node :: (after ++ [node]))
  refine ⟨?_, ?_, ?_, edges.suffix suffix⟩
  · simp [around]
  · rw [around, ← List.cons_append, List.getLast?_concat]
    rfl
  · rw [around, ← List.cons_append, List.dropLast_concat]
    exact (split ▸ consistent.path_nodup).sublist (List.sublist_append_right before _)

/-- A path that can still grow has not yet used the depth that the nodes allow. -/
theorem length_path_lt (consistent : search.Consistent graph) (member : node ∈ graph.nodes)
    (unmarked : search.marks.get? node = none) : search.path.length < graph.edges.size := by
  have fresh := (consistent.unseen unmarked).1
  have distinct : (node :: search.path).Nodup := List.nodup_cons.mpr ⟨fresh, consistent.path_nodup⟩
  have inside : node :: search.path ⊆ graph.nodes := by
    intro other here
    rcases List.mem_cons.mp here with rfl | early
    · exact member
    · exact consistent.path_nodes other early
  have bound := distinct.length_le_of_subset inside
  rw [nodes, NameMap.names, Entries.names, List.length_map] at bound
  exact bound

end Consistent

/-- What was entered last is left first. -/
theorem path_leave (path : next.path = (search.enter node).path) :
    (next.leave node).path = search.path :=
  (congrArg List.dropLast path).trans List.dropLast_concat

/-- What visiting `targets` one after the other may come to. -/
def Reached (graph : Graph) (search : Search) (targets : List String) :
    Except (List String) Search → Prop
  | .ok next => next.Consistent graph ∧ next.path = search.path ∧ search.order <+: next.order ∧
      ∀ target ∈ targets, target ∈ next.order
  | .error chain => graph.IsCycle chain

/-- The targets are nodes that the path leads to. -/
structure Ready (graph : Graph) (search : Search) (targets : List String) : Prop where
  consistent : search.Consistent graph
  nodes : ∀ target ∈ targets, target ∈ graph.nodes
  edges : ∀ target ∈ targets, (search.path ++ [target]).IsChain graph.Edge

/-- With nothing in progress, any nodes can be visited. -/
theorem Consistent.ready (consistent : search.Consistent graph) (path : search.path = [])
    {targets : List String} (nodes : ∀ target ∈ targets, target ∈ graph.nodes) :
    search.Ready graph targets where
  consistent := consistent
  nodes := nodes
  edges target _ := by
    rw [path]
    exact List.isChain_singleton target

theorem ready_start (graph : Graph) : start.Ready graph graph.nodes :=
  consistent_start.ready rfl fun _ member => member

namespace Ready

variable {rest : List String}

theorem enter (ready : search.Ready graph (node :: rest))
    (unmarked : search.marks.get? node = none) :
    (search.enter node).Ready graph (graph.successors node) where
  consistent := ready.consistent.enter (ready.nodes node List.mem_cons_self)
    (ready.edges node List.mem_cons_self) unmarked
  nodes _ needed := (mem_successors.mp needed).2
  edges target needed := by
    refine (ready.edges node List.mem_cons_self).append (List.isChain_singleton target) ?_
    simpa using (mem_successors.mp needed).1

/-- The other targets are visited from the same path. -/
theorem later (ready : search.Ready graph (node :: rest)) (consistent : next.Consistent graph)
    (path : next.path = search.path) : next.Ready graph rest where
  consistent := consistent
  nodes target member := ready.nodes target (List.mem_cons_of_mem _ member)
  edges target member := path ▸ ready.edges target (List.mem_cons_of_mem _ member)

end Ready

end Search

/-! ## Visits without a limit -/

/-- A visit as it begins. -/
structure Visit where
  /-- How many visits are open, this one included. -/
  level : Nat
  search : Search
  node : String

/-- The recursion as it goes, with no limit on its depth. Targets are visited one after the other:
one that is done is passed over, one in progress closes a cycle, and any other is entered and left
again after all that it needs. The visits are listed in the order in which they begin. -/
inductive Visits (graph : Graph) :
    Nat → Search → List String → List Visit → Except (List String) Search → Prop
  | nil {level : Nat} {search : Search} : Visits graph level search [] [] (.ok search)
  | done {level : Nat} {search : Search} {node : String} {rest : List String}
      {visits : List Visit} {outcome : Except (List String) Search}
      (marked : search.marks.get? node = some .done)
      (later : Visits graph level search rest visits outcome) :
      Visits graph level search (node :: rest) (⟨level, search, node⟩ :: visits) outcome
  | again {level : Nat} {search : Search} {node : String} {rest : List String}
      (marked : search.marks.get? node = some .inProgress) :
      Visits graph level search (node :: rest) [⟨level, search, node⟩]
        (.error (search.cycle node))
  | finished {level : Nat} {search between : Search} {node : String} {rest : List String}
      {within visits : List Visit} {outcome : Except (List String) Search}
      (unmarked : search.marks.get? node = none)
      (inner : Visits graph (level + 1) (search.enter node) (graph.successors node) within
        (.ok between))
      (later : Visits graph level (between.leave node) rest visits outcome) :
      Visits graph level search (node :: rest) (⟨level, search, node⟩ :: (within ++ visits))
        outcome
  | stopped {level : Nat} {search : Search} {node : String} {rest : List String}
      {within : List Visit} {chain : List String}
      (unmarked : search.marks.get? node = none)
      (inner : Visits graph (level + 1) (search.enter node) (graph.successors node) within
        (.error chain)) :
      Visits graph level search (node :: rest) (⟨level, search, node⟩ :: within) (.error chain)

namespace Visits

open Search

variable {level : Nat} {targets : List String} {visits : List Visit}
  {outcome : Except (List String) Search}

/-- Visits keep a search consistent and finish their targets, or they meet a cycle. -/
theorem reached (run : graph.Visits level search targets visits outcome)
    (ready : search.Ready graph targets) : Reached graph search targets outcome := by
  induction run with
  | nil => exact ⟨ready.consistent, rfl, List.prefix_refl _, fun _ member => nomatch member⟩
  | @done level search node rest visits outcome marked later ih =>
      have finished := (ready.consistent.done_iff node).mp marked
      have others := ih (ready.later ready.consistent rfl)
      cases outcome with
      | error chain => exact others
      | ok last =>
          obtain ⟨kept, path, grown, found⟩ := others
          exact ⟨kept, path, grown, List.forall_mem_cons.mpr ⟨grown.subset finished, found⟩⟩
  | @again level search node rest marked =>
      have here := (ready.consistent.inProgress_iff node).mp marked
      exact ready.consistent.isCycle here (ready.edges node List.mem_cons_self)
  | @finished level search between node rest within visits outcome unmarked _ _ ihInner ihLater =>
      obtain ⟨kept, path, grown, settled⟩ := ihInner (ready.enter unmarked)
      have left := kept.leave path settled
      have back := path_leave path
      have prefix_ : search.order <+: (between.leave node).order :=
        grown.trans (List.prefix_append _ _)
      have others := ihLater (ready.later left back)
      cases outcome with
      | error chain => exact others
      | ok last =>
          obtain ⟨keptLast, pathLast, grownLast, found⟩ := others
          have here : node ∈ last.order :=
            grownLast.subset (List.mem_append_right _ List.mem_cons_self)
          exact ⟨keptLast, pathLast.trans back, prefix_.trans grownLast,
            List.forall_mem_cons.mpr ⟨here, found⟩⟩
  | stopped unmarked _ ih => exact ih (ready.enter unmarked)

end Visits

/-! ## Visits with a limit that is never reached -/

section Limit

variable {depth : Nat}

theorem visit_done (marked : search.marks.get? node = some .done) :
    visit graph depth search node = .ok search := by
  cases depth <;> simp only [visit, marked]

theorem visit_inProgress (marked : search.marks.get? node = some .inProgress) :
    visit graph depth search node = .error (search.cycle node) := by
  cases depth <;> simp only [visit, marked]

theorem visit_unmarked (unmarked : search.marks.get? node = none) :
    visit graph (depth + 1) search node =
      ((graph.successors node).foldlM (visit graph depth) (search.enter node)).map
        fun search => search.leave node := by
  simp only [visit, unmarked]

end Limit

/-- A path that repeats no node leaves depth enough for the rest of the recursion, so the limit
changes nothing. The depth falls from a node to what it needs, and stays from one target to the
next. -/
theorem exists_visits (depth level : Nat) (search : Search) :
    (targets : List String) → search.Ready graph targets →
      graph.edges.size ≤ search.path.length + depth →
        ∃ visits, graph.Visits level search targets visits
          (targets.foldlM (visit graph depth) search)
  | [], _, _ => ⟨[], .nil⟩
  | node :: rest, ready, enough => by
      rw [List.foldlM_cons]
      rcases marked : search.marks.get? node with - | - | -
      · have free := ready.consistent.length_path_lt (ready.nodes node List.mem_cons_self) marked
        obtain ⟨less, left⟩ : ∃ less, depth = less + 1 := ⟨depth - 1, by omega⟩
        have entered := ready.enter marked
        have longer : (search.enter node).path.length = search.path.length + 1 :=
          List.length_append
        obtain ⟨within, inner⟩ := exists_visits less (level + 1) (search.enter node)
          (graph.successors node) entered (by omega)
        rw [left, visit_unmarked marked, ← left]
        cases outcome : (graph.successors node).foldlM (visit graph less) (search.enter node) with
        | error chain =>
            rw [outcome] at inner
            exact ⟨_, .stopped marked inner⟩
        | ok between =>
            rw [outcome] at inner
            obtain ⟨kept, path, -, settled⟩ := inner.reached entered
            have back := Search.path_leave path
            obtain ⟨visits, later⟩ := exists_visits depth level (between.leave node) rest
              (ready.later (kept.leave path settled) back) (back ▸ enough)
            exact ⟨_, .finished marked inner later⟩
      · rw [visit_inProgress marked]
        exact ⟨_, .again marked⟩
      · obtain ⟨visits, later⟩ := exists_visits depth level search rest
          (ready.later ready.consistent rfl) enough
        rw [visit_done marked]
        exact ⟨_, .done marked later⟩
termination_by targets => (depth, targets.length)

/-- The whole search, from the first node to the last. -/
theorem exists_visits_search (graph : Graph) :
    ∃ visits, graph.Visits 1 .start graph.nodes visits graph.search :=
  exists_visits graph.edges.size 1 .start graph.nodes (Search.ready_start graph)
    (Nat.le_add_left _ _)

theorem reached_search (graph : Graph) : Search.Reached graph .start graph.nodes graph.search := by
  obtain ⟨visits, run⟩ := exists_visits_search graph
  exact run.reached (Search.ready_start graph)

/-- An order that the search gives is topological. -/
theorem isTopological_of_topologicalOrder {order : List String}
    (sorted : graph.topologicalOrder = .ok order) : graph.IsTopological order := by
  have whole := reached_search graph
  rw [topologicalOrder] at sorted
  cases outcome : graph.search with
  | error chain =>
      rw [outcome] at sorted
      cases sorted
  | ok last =>
      rw [outcome] at sorted whole
      cases sorted
      obtain ⟨consistent, -, -, found⟩ := whole
      refine ⟨consistent.order_nodup, fun node => ⟨consistent.order_nodes node, found node⟩, ?_⟩
      intro before node after split target edge targetNode
      have successor := mem_successors.mpr ⟨edge, targetNode⟩
      exact consistent.earlier before node after split target successor

/-- The only error of ordering is a cycle of the graph. -/
theorem isCycle_of_topologicalOrder {error : TemplateError}
    (failed : graph.topologicalOrder = .error error) :
    ∃ chain, error = .circularDependency chain ∧ graph.IsCycle chain := by
  have whole := reached_search graph
  rw [topologicalOrder] at failed
  cases outcome : graph.search with
  | ok last =>
      rw [outcome] at failed
      cases failed
  | error chain =>
      rw [outcome] at failed whole
      cases failed
      exact ⟨chain, rfl, whole⟩

/-- Ordering fails exactly on graphs with a cycle. -/
theorem topologicalOrder_error_iff :
    (∃ error, graph.topologicalOrder = .error error) ↔ graph.Cyclic := by
  constructor
  · rintro ⟨error, failed⟩
    obtain ⟨chain, -, cycle⟩ := isCycle_of_topologicalOrder failed
    exact cycle.cyclic
  · intro cyclic
    cases outcome : graph.topologicalOrder with
    | error error => exact ⟨error, rfl⟩
    | ok order => exact absurd cyclic (isTopological_of_topologicalOrder outcome).not_cyclic

end Templating.Graph
