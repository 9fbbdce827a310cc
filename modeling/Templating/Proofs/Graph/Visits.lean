import Templating.Proofs.Graph.Search

/-!
# The visits of a search

The recursion of a search takes one course and comes to an end. At each of its visits the search is
consistent, so a node in progress is found on the path, and what a finished node needs is finished.
No node is entered twice, and the visits stand inside one another at most one deeper than the nodes
are many.
-/

namespace Templating.Graph

variable {graph : Graph} {level : Nat} {search : Search} {targets : List String}
  {visits : List Visit} {outcome : Except (List String) Search} {node target : String}

namespace Visit

/-- The node bears no mark yet, so it is entered. -/
def isFirst (visit : Visit) : Bool := (visit.search.marks.get? visit.node).isNone

end Visit

/-- The nodes that are entered, in the order in which they are. -/
def entered (visits : List Visit) : List String := (visits.filter Visit.isFirst).map Visit.node

theorem entered_cons_marked {mark : Mark} (marked : search.marks.get? node = some mark) :
    entered (⟨level, search, node⟩ :: visits) = entered visits := by
  simp [entered, Visit.isFirst, marked]

theorem entered_cons_unmarked (unmarked : search.marks.get? node = none) :
    entered (⟨level, search, node⟩ :: visits) = node :: entered visits := by
  simp [entered, Visit.isFirst, unmarked]

theorem entered_append (front back : List Visit) :
    entered (front ++ back) = entered front ++ entered back := by
  simp [entered]

namespace Search.Consistent

/-- What a finished node needs is finished. -/
theorem done_of_needed (consistent : search.Consistent graph)
    (finished : search.marks.get? node = some .done) (needed : target ∈ graph.successors node) :
    search.marks.get? target = some .done := by
  obtain ⟨before, after, split⟩ := List.append_of_mem ((consistent.done_iff node).mp finished)
  refine (consistent.done_iff target).mpr ?_
  rw [split]
  exact List.mem_append_left _ (consistent.earlier before node after split target needed)

/-- A node in progress has a place on the path. -/
theorem place_of_inProgress (consistent : search.Consistent graph)
    (open_ : search.marks.get? node = some .inProgress) :
    (search.path.idxOf? node).isSome = true := by
  have here := (consistent.inProgress_iff node).mp open_
  rw [← Option.ne_none_iff_isSome, Ne, List.idxOf?_eq_none_iff, not_not]
  exact here

theorem length_path_le (consistent : search.Consistent graph) :
    search.path.length ≤ graph.nodes.length :=
  consistent.path_nodup.length_le_of_subset consistent.path_nodes

end Search.Consistent

namespace Visits

/-- The recursion takes one course. -/
theorem unique (run : graph.Visits level search targets visits outcome) {others : List Visit}
    {other : Except (List String) Search}
    (second : graph.Visits level search targets others other) :
    others = visits ∧ other = outcome := by
  induction run generalizing others other with
  | nil =>
      cases second
      exact ⟨rfl, rfl⟩
  | done marked _ ih =>
      cases second with
      | done _ later =>
          obtain ⟨rfl, rfl⟩ := ih later
          exact ⟨rfl, rfl⟩
      | again open_ => cases marked.symm.trans open_
      | finished unmarked => cases marked.symm.trans unmarked
      | stopped unmarked => cases marked.symm.trans unmarked
  | again marked =>
      cases second with
      | done finished => cases marked.symm.trans finished
      | again => exact ⟨rfl, rfl⟩
      | finished unmarked => cases marked.symm.trans unmarked
      | stopped unmarked => cases marked.symm.trans unmarked
  | finished unmarked _ _ ihInner ihLater =>
      cases second with
      | done finished => cases unmarked.symm.trans finished
      | again open_ => cases unmarked.symm.trans open_
      | finished _ inner later =>
          obtain ⟨rfl, same⟩ := ihInner inner
          cases same
          obtain ⟨rfl, rfl⟩ := ihLater later
          exact ⟨rfl, rfl⟩
      | stopped _ inner => cases (ihInner inner).2
  | stopped unmarked _ ih =>
      cases second with
      | done finished => cases unmarked.symm.trans finished
      | again open_ => cases unmarked.symm.trans open_
      | finished _ inner => cases (ih inner).2
      | stopped _ inner =>
          obtain ⟨rfl, same⟩ := ih inner
          cases same
          exact ⟨rfl, rfl⟩

/-- Each visit begins with a consistent search, and its level is told by the path. -/
theorem consistent_of_mem (run : graph.Visits level search targets visits outcome)
    (ready : search.Ready graph targets) (depth : level = search.path.length + 1) :
    ∀ visit ∈ visits,
      visit.search.Consistent graph ∧ visit.level = visit.search.path.length + 1 := by
  induction run with
  | nil => exact fun _ member => nomatch member
  | done _ _ ih =>
      exact List.forall_mem_cons.mpr
        ⟨⟨ready.consistent, depth⟩, ih (ready.later ready.consistent rfl) depth⟩
  | again => exact List.forall_mem_singleton.mpr ⟨ready.consistent, depth⟩
  | @finished level search between node rest within visits outcome unmarked inner _ ihInner
      ihLater =>
      have longer : (search.enter node).path.length = search.path.length + 1 :=
        List.length_append
      obtain ⟨kept, path, -, settled⟩ := inner.reached (ready.enter unmarked)
      have back := Search.path_leave path
      refine List.forall_mem_cons.mpr ⟨⟨ready.consistent, depth⟩, fun visit member => ?_⟩
      rcases List.mem_append.mp member with early | late
      · exact ihInner (ready.enter unmarked) (by omega) visit early
      · exact ihLater (ready.later (kept.leave path settled) back) (back ▸ depth) visit late
  | @stopped level search node rest within chain unmarked _ ih =>
      have longer : (search.enter node).path.length = search.path.length + 1 :=
        List.length_append
      exact List.forall_mem_cons.mpr
        ⟨⟨ready.consistent, depth⟩, ih (ready.enter unmarked) (by omega)⟩

/-- The nodes that are entered bore no mark before, and they are those that bear one afterwards. -/
theorem entered_nodup (run : graph.Visits level search targets visits outcome) :
    (entered visits).Nodup ∧ (∀ name ∈ entered visits, name ∉ search.marks.names) ∧
      ∀ next, outcome = .ok next → ∀ name,
        name ∈ next.marks.names ↔ name ∈ search.marks.names ∨ name ∈ entered visits := by
  induction run with
  | nil =>
      refine ⟨List.nodup_nil, fun _ => List.not_mem_nil.elim, ?_⟩
      rintro _ ⟨⟩ name
      simp [entered]
  | done marked _ ih =>
      rw [entered_cons_marked marked]
      exact ih
  | again marked =>
      rw [entered_cons_marked marked]
      exact ⟨List.nodup_nil, fun _ => List.not_mem_nil.elim, fun _ impossible => nomatch impossible⟩
  | @finished level search between node rest within visits outcome unmarked _ _ ihInner ihLater =>
      obtain ⟨once, fresh, marks⟩ := ihInner
      obtain ⟨onceLater, freshLater, marksLater⟩ := ihLater
      have before : ∀ name,
          name ∈ (search.enter node).marks.names ↔ name = node ∨ name ∈ search.marks.names :=
        fun name => NameMap.mem_names_insert
      have after : ∀ name, name ∈ (between.leave node).marks.names ↔
          name = node ∨ name ∈ search.marks.names ∨ name ∈ entered within := by
        intro name
        refine NameMap.mem_names_insert.trans ?_
        rw [marks between rfl name, before name, or_assoc, or_self_left]
      simp only [before, not_or] at fresh
      simp only [after, not_or] at freshLater
      rw [entered_cons_unmarked unmarked, entered_append]
      refine ⟨?_, ?_, ?_⟩
      · refine List.nodup_cons.mpr ⟨?_, List.nodup_append.mpr ⟨once, onceLater, ?_⟩⟩
        · intro member
          rcases List.mem_append.mp member with early | late
          · exact (fresh node early).1 rfl
          · exact (freshLater node late).1 rfl
        · rintro name early _ late rfl
          exact (freshLater name late).2.2 early
      · refine List.forall_mem_cons.mpr ⟨NameMap.get?_eq_none_iff.mp unmarked, ?_⟩
        intro name member
        rcases List.mem_append.mp member with early | late
        · exact (fresh name early).2
        · exact (freshLater name late).2.1
      · intro next done name
        rw [marksLater next done name, after name]
        simp only [List.mem_cons, List.mem_append]
        tauto
  | @stopped level search node rest within chain unmarked _ ih =>
      obtain ⟨once, fresh, -⟩ := ih
      have before : ∀ name,
          name ∈ (search.enter node).marks.names ↔ name = node ∨ name ∈ search.marks.names :=
        fun name => NameMap.mem_names_insert
      simp only [before, not_or] at fresh
      rw [entered_cons_unmarked unmarked]
      refine ⟨?_, ?_, fun _ impossible => nomatch impossible⟩
      · exact List.nodup_cons.mpr ⟨fun member => (fresh node member).1 rfl, once⟩
      · exact List.forall_mem_cons.mpr
          ⟨NameMap.get?_eq_none_iff.mp unmarked, fun name member => (fresh name member).2⟩

end Visits

/-- The recursion from the first node to the last comes to an end, with the outcome of the search,
and takes no other course. It enters no node twice. At each visit the search is consistent, what a
finished node needs is finished, a node that is met again has a place on the path, and no more
visits are open than one for each node and one more. -/
theorem search_consistent_at_visits (graph : Graph) :
    ∃ visits, graph.Visits 1 .start graph.nodes visits graph.search ∧
      (∀ others outcome, graph.Visits 1 .start graph.nodes others outcome →
        others = visits ∧ outcome = graph.search) ∧
      (entered visits).Nodup ∧
      ∀ visit ∈ visits, visit.search.Consistent graph ∧
        (∀ node, visit.search.marks.get? node = some .done →
          ∀ target ∈ graph.successors node, visit.search.marks.get? target = some .done) ∧
        (visit.search.marks.get? visit.node = some .inProgress →
          (visit.search.path.idxOf? visit.node).isSome = true) ∧
        visit.level ≤ graph.nodes.length + 1 := by
  obtain ⟨visits, run⟩ := exists_visits_search graph
  refine ⟨visits, run, fun others outcome other => run.unique other, run.entered_nodup.1, ?_⟩
  intro visit member
  obtain ⟨consistent, level⟩ := run.consistent_of_mem (Search.ready_start graph) rfl visit member
  refine ⟨consistent, ?_, consistent.place_of_inProgress, ?_⟩
  · exact fun node finished target needed => consistent.done_of_needed finished needed
  · exact level ▸ Nat.add_le_add_right consistent.length_path_le 1

/-- A node that two others need, and a cycle that is met after it. -/
theorem search_consistent_at_visits_shared :
    let graph : Graph := ⟨.ofPairs [("top", ["left", "right"]), ("left", ["low"]),
      ("right", ["low", "top"]), ("low", [])], []⟩
    ∃ visits, graph.Visits 1 .start graph.nodes visits (.error ["top", "right", "top"]) ∧
      visits.map Visit.node = ["top", "left", "low", "right", "low", "top"] ∧
      visits.map Visit.level = [1, 2, 3, 2, 3, 3] ∧
      entered visits = ["top", "left", "low", "right"] ∧
      ∀ visit ∈ visits, visit.search.Consistent graph := by
  intro graph
  obtain ⟨visits, run, only, -, kept⟩ := search_consistent_at_visits graph
  have course : graph.Visits 1 .start graph.nodes _ _ :=
    .stopped rfl (.finished rfl (.finished rfl .nil .nil) (.stopped rfl (.done rfl (.again rfl))))
  obtain ⟨rfl, -⟩ := only _ _ course
  exact ⟨_, run, rfl, rfl, rfl, fun visit member => (kept visit member).1⟩

end Templating.Graph
