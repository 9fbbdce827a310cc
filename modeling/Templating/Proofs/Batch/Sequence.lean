import Templating.Proofs.Batch.Run

/-!
# One batch after another

Two batches without common names make one batch. If no entry of the front batch refers to the back
batch, then the whole is resolved exactly when the front is resolved and the back is resolved over
the results of the front, and its results are those of the two, in this order. The graphs fit
together likewise: no edge leads from the front to the back, so every cycle stays in one of them.
-/

namespace Templating

variable {tokenizer : Tokenizer} {front back : Bindings} {name source target : String} {raw : Value}

/-- No name of `front` is one of `back`, and no entry of `front` refers to `back`. -/
structure Bindings.Precedes (tokenizer : Tokenizer) (front back : Bindings) : Prop where
  apart : ∀ name ∈ front.names, name ∉ back.names
  unread : ∀ source raw names, front.get? source = some raw →
    raw.references tokenizer = .ok names → ∀ target ∈ names, target ∉ back.names

namespace Bindings.Precedes

theorem get?_front (precedes : Precedes tokenizer front back) (member : name ∈ front.names) :
    (front.extend back).get? name = front.get? name :=
  NameMap.get?_extend_of_not_mem (precedes.apart name member)

end Bindings.Precedes

namespace Graph

open Bindings (Precedes)

variable {whole first second : Graph}

/-- The batch has a graph, and no entry needs itself. -/
def Acyclic (tokenizer : Tokenizer) (batch : Bindings) : Prop :=
  ∃ graph, build tokenizer batch = .ok graph ∧ ¬ graph.Cyclic

theorem Acyclic.exists_build {batch : Bindings} (acyclic : Acyclic tokenizer batch) :
    ∃ graph, build tokenizer batch = .ok graph := by
  obtain ⟨graph, built, -⟩ := acyclic
  exact ⟨graph, built⟩

theorem acyclic_iff_order {batch : Bindings} :
    Acyclic tokenizer batch ↔ ∃ graph order, build tokenizer batch = .ok graph ∧
      graph.topologicalOrder = .ok order := by
  constructor
  · rintro ⟨graph, built, acyclic⟩
    cases ordered : graph.topologicalOrder with
    | ok order => exact ⟨graph, order, built, ordered⟩
    | error error => exact absurd (topologicalOrder_error_iff.mp ⟨error, ordered⟩) acyclic
  · rintro ⟨graph, order, built, ordered⟩
    exact ⟨graph, built, (isTopological_of_topologicalOrder ordered).not_cyclic⟩

/-- The whole can be read when both parts can. -/
theorem exists_build_extend_iff (precedes : Precedes tokenizer front back) :
    (∃ graph, build tokenizer (front.extend back) = .ok graph) ↔
      (∃ graph, build tokenizer front = .ok graph) ∧
        ∃ graph, build tokenizer back = .ok graph := by
  rw [build_ok_iff, build_ok_iff, build_ok_iff, NameMap.entries_extend precedes.apart,
    List.forall_mem_append]

/-- A node of the front has its edges in the front. -/
theorem edge_front_iff (precedes : Precedes tokenizer front back)
    (builtWhole : build tokenizer (front.extend back) = .ok whole)
    (built : build tokenizer front = .ok first) (member : source ∈ front.names) :
    whole.Edge source target ↔ first.Edge source target := by
  rw [edge_build_iff builtWhole, edge_build_iff built, precedes.get?_front member]
  constructor
  · rintro ⟨raw, names, found, read, reads, inside⟩
    have notBack := precedes.unread source raw names found read target reads
    have inFront := (NameMap.mem_names_extend.mp inside).resolve_right notBack
    exact ⟨raw, names, found, read, reads, inFront⟩
  · rintro ⟨raw, names, found, read, reads, inside⟩
    exact ⟨raw, names, found, read, reads, NameMap.mem_names_extend.mpr (.inl inside)⟩

/-- An edge to a node of the back comes from the back. -/
theorem edge_back_iff (precedes : Precedes tokenizer front back)
    (builtWhole : build tokenizer (front.extend back) = .ok whole)
    (built : build tokenizer back = .ok second) (member : target ∈ back.names) :
    whole.Edge source target ↔ second.Edge source target := by
  rw [edge_build_iff builtWhole, edge_build_iff built]
  constructor
  · rintro ⟨raw, names, found, read, reads, -⟩
    rw [NameMap.get?_extend] at found
    rcases Option.or_eq_some_iff.mp found with own | ⟨-, own⟩
    · exact ⟨raw, names, own, read, reads, member⟩
    · exact absurd member (precedes.unread source raw names own read target reads)
  · rintro ⟨raw, names, found, read, reads, -⟩
    refine ⟨raw, names, ?_, read, reads, NameMap.mem_names_extend.mpr (.inr member)⟩
    exact NameMap.get?_extend_of_some found

theorem mem_names_of_edge {graph : Graph} {batch : Bindings}
    (built : build tokenizer batch = .ok graph) (edge : graph.Edge source target) :
    source ∈ batch.names ∧ target ∈ batch.names := by
  obtain ⟨raw, names, found, -, -, inside⟩ := (edge_build_iff built).mp edge
  exact ⟨NameMap.mem_names_iff.mpr ⟨raw, found⟩, inside⟩

/-- A walk that starts in the front stays there. -/
theorem transGen_front (precedes : Precedes tokenizer front back)
    (builtWhole : build tokenizer (front.extend back) = .ok whole)
    (built : build tokenizer front = .ok first) (member : source ∈ front.names)
    (walk : Relation.TransGen whole.Edge source target) :
    Relation.TransGen first.Edge source target ∧ target ∈ front.names := by
  induction walk with
  | single edge =>
      have own := (edge_front_iff precedes builtWhole built member).mp edge
      exact ⟨.single own, (mem_names_of_edge built own).2⟩
  | tail walk edge ih =>
      obtain ⟨inside, here⟩ := ih
      have own := (edge_front_iff precedes builtWhole built here).mp edge
      exact ⟨inside.tail own, (mem_names_of_edge built own).2⟩

/-- A walk that ends in the back has been there all along. -/
theorem transGen_back (precedes : Precedes tokenizer front back)
    (builtWhole : build tokenizer (front.extend back) = .ok whole)
    (built : build tokenizer back = .ok second) (member : target ∈ back.names)
    (walk : Relation.TransGen whole.Edge source target) :
    Relation.TransGen second.Edge source target ∧ source ∈ back.names := by
  induction walk using Relation.TransGen.head_induction_on with
  | single edge =>
      have own := (edge_back_iff precedes builtWhole built member).mp edge
      exact ⟨.single own, (mem_names_of_edge built own).1⟩
  | head edge walk ih =>
      obtain ⟨inside, here⟩ := ih
      have own := (edge_back_iff precedes builtWhole built here).mp edge
      exact ⟨.head own inside, (mem_names_of_edge built own).1⟩

theorem cyclic_extend_iff (precedes : Precedes tokenizer front back)
    (builtWhole : build tokenizer (front.extend back) = .ok whole)
    (builtFront : build tokenizer front = .ok first)
    (builtBack : build tokenizer back = .ok second) :
    whole.Cyclic ↔ first.Cyclic ∨ second.Cyclic := by
  constructor
  · rintro ⟨node, around⟩
    obtain ⟨next, edge, -⟩ := Relation.TransGen.head'_iff.mp around
    rcases NameMap.mem_names_extend.mp (mem_names_of_edge builtWhole edge).1 with early | late
    · exact .inl ⟨node, (transGen_front precedes builtWhole builtFront early around).1⟩
    · exact .inr ⟨node, (transGen_back precedes builtWhole builtBack late around).1⟩
  · rintro (⟨node, around⟩ | ⟨node, around⟩)
    · refine ⟨node, Relation.TransGen.mono (fun source target edge => ?_) _ _ around⟩
      have member := (mem_names_of_edge builtFront edge).1
      exact (edge_front_iff precedes builtWhole builtFront member).mpr edge
    · refine ⟨node, Relation.TransGen.mono (fun source target edge => ?_) _ _ around⟩
      have member := (mem_names_of_edge builtBack edge).2
      exact (edge_back_iff precedes builtWhole builtBack member).mpr edge

theorem acyclic_extend_iff (precedes : Precedes tokenizer front back) :
    Acyclic tokenizer (front.extend back) ↔
      Acyclic tokenizer front ∧ Acyclic tokenizer back := by
  constructor
  · rintro ⟨whole, builtWhole, acyclic⟩
    obtain ⟨⟨first, builtFront⟩, second, builtBack⟩ :=
      (exists_build_extend_iff precedes).mp ⟨whole, builtWhole⟩
    rw [cyclic_extend_iff precedes builtWhole builtFront builtBack, not_or] at acyclic
    exact ⟨⟨first, builtFront, acyclic.1⟩, second, builtBack, acyclic.2⟩
  · rintro ⟨⟨first, builtFront, acyclicFront⟩, second, builtBack, acyclicBack⟩
    obtain ⟨whole, builtWhole⟩ :=
      (exists_build_extend_iff precedes).mpr ⟨⟨first, builtFront⟩, second, builtBack⟩
    refine ⟨whole, builtWhole, ?_⟩
    rw [cyclic_extend_iff precedes builtWhole builtFront builtBack, not_or]
    exact ⟨acyclicFront, acyclicBack⟩

end Graph

namespace Engine

open Bindings (Precedes)

variable {engine : Engine} {base out first second candidate batch : Bindings}

theorem acyclic_of_resolve {cancellation : Cancellation}
    (resolved : (engine.resolve cancellation base batch).outcome = .ok out) :
    Graph.Acyclic engine.tokenizer batch :=
  Graph.acyclic_iff_order.mpr (exists_order_of_resolve resolved)

/-- A batch without cycles is resolved to any solution that has its names in their order. -/
theorem resolve_eq_of_solves (acyclic : Graph.Acyclic engine.tokenizer batch)
    (solved : engine.Solves base batch candidate) (names : candidate.names = batch.names) :
    (engine.resolve .ignored base batch).outcome = .ok candidate := by
  obtain ⟨graph, order, built, ordered⟩ := Graph.acyclic_iff_order.mp acyclic
  obtain ⟨result, resolved, values⟩ :=
    resolve_of_solves built ordered solved fun name member => names ▸ member
  obtain ⟨resultNames, -⟩ := solves_of_resolve resolved
  rw [resolved, NameMap.eq_of_get? (resultNames.trans names.symm) values]

theorem get?_extend_extend (name : String) :
    (base.extend (first.extend second)).get? name =
      ((base.extend first).extend second).get? name := by
  rw [NameMap.get?_extend, NameMap.get?_extend, NameMap.get?_extend, NameMap.get?_extend,
    Option.or_assoc]

/-- Results of the back make no difference to the front. -/
theorem resolveValue_extend_front (precedes : Precedes engine.tokenizer front back)
    (built : ∃ graph, Graph.build engine.tokenizer front = .ok graph)
    (names : second.names = back.names) (found : front.get? name = some raw) :
    engine.resolveValue (base.extend (first.extend second)) raw =
      engine.resolveValue (base.extend first) raw := by
  obtain ⟨graph, built⟩ := built
  obtain ⟨references, read⟩ := Graph.references_of_build built found
  refine resolveValue_agreeOn raw read fun target reads => ?_
  have unread : target ∉ second.names :=
    names ▸ precedes.unread name raw references found read target reads
  rw [get?_extend_extend, NameMap.get?_extend_of_not_mem unread]

theorem resolveValue_extend_back
    (built : ∃ graph, Graph.build engine.tokenizer back = .ok graph)
    (found : back.get? name = some raw) :
    engine.resolveValue (base.extend (first.extend second)) raw =
      engine.resolveValue ((base.extend first).extend second) raw := by
  obtain ⟨graph, built⟩ := built
  obtain ⟨references, read⟩ := Graph.references_of_build built found
  exact resolveValue_agreeOn raw read fun target _ => get?_extend_extend target

/-- The results of the whole solve it when those of the front solve the front, and those of the back
solve the back over them. -/
theorem solves_extend_iff (precedes : Precedes engine.tokenizer front back)
    (builtFront : ∃ graph, Graph.build engine.tokenizer front = .ok graph)
    (builtBack : ∃ graph, Graph.build engine.tokenizer back = .ok graph)
    (namesSecond : second.names = back.names) :
    engine.Solves base (front.extend back) (first.extend second) ↔
      engine.Solves base front first ∧ engine.Solves (base.extend first) back second := by
  constructor
  · intro solved
    constructor
    · intro name raw found
      have member : name ∈ front.names := NameMap.mem_names_iff.mpr ⟨raw, found⟩
      have absent : name ∉ second.names := namesSecond ▸ precedes.apart name member
      obtain ⟨value, place, comes⟩ := solved name raw ((precedes.get?_front member).trans found)
      rw [NameMap.get?_extend_of_not_mem absent] at place
      rw [resolveValue_extend_front precedes builtFront namesSecond found] at comes
      exact ⟨value, place, comes⟩
    · intro name raw found
      have member : name ∈ second.names := namesSecond ▸ NameMap.mem_names_iff.mpr ⟨raw, found⟩
      obtain ⟨value, place, comes⟩ := solved name raw (NameMap.get?_extend_of_some found)
      rw [NameMap.get?_extend_of_mem member] at place
      rw [resolveValue_extend_back builtBack found] at comes
      exact ⟨value, place, comes⟩
  · rintro ⟨solvedFront, solvedBack⟩ name raw found
    rw [NameMap.get?_extend] at found
    rcases Option.or_eq_some_iff.mp found with own | ⟨other, own⟩
    · obtain ⟨value, place, comes⟩ := solvedBack name raw own
      rw [← resolveValue_extend_back builtBack own] at comes
      exact ⟨value, NameMap.get?_extend_of_some place, comes⟩
    · have absent : name ∉ second.names := namesSecond ▸ NameMap.get?_eq_none_iff.mp other
      obtain ⟨value, place, comes⟩ := solvedFront name raw own
      rw [← resolveValue_extend_front precedes builtFront namesSecond own] at comes
      exact ⟨value, (NameMap.get?_extend_of_not_mem absent).trans place, comes⟩

/-- Resolving the whole is resolving the front, and then the back over its results. -/
theorem resolve_extend_iff (precedes : Precedes engine.tokenizer front back) :
    (engine.resolve .ignored base (front.extend back)).outcome = .ok out ↔
      ∃ first second, (engine.resolve .ignored base front).outcome = .ok first ∧
        (engine.resolve .ignored (base.extend first) back).outcome = .ok second ∧
          out = first.extend second := by
  constructor
  · intro resolved
    obtain ⟨acyclicFront, acyclicBack⟩ :=
      (Graph.acyclic_extend_iff precedes).mp (acyclic_of_resolve resolved)
    obtain ⟨names, solved⟩ := solves_of_resolve resolved
    rw [NameMap.names_extend precedes.apart] at names
    obtain ⟨first, second, rfl, namesFirst, namesSecond⟩ :=
      NameMap.eq_extend_of_names precedes.apart names
    obtain ⟨solvedFront, solvedBack⟩ :=
      (solves_extend_iff precedes acyclicFront.exists_build acyclicBack.exists_build
        namesSecond).mp solved
    exact ⟨first, second, resolve_eq_of_solves acyclicFront solvedFront namesFirst,
      resolve_eq_of_solves acyclicBack solvedBack namesSecond, rfl⟩
  · rintro ⟨first, second, resolvedFront, resolvedBack, rfl⟩
    have acyclicFront := acyclic_of_resolve resolvedFront
    have acyclicBack := acyclic_of_resolve resolvedBack
    obtain ⟨namesFirst, solvedFront⟩ := solves_of_resolve resolvedFront
    obtain ⟨namesSecond, solvedBack⟩ := solves_of_resolve resolvedBack
    refine resolve_eq_of_solves ((Graph.acyclic_extend_iff precedes).mpr
      ⟨acyclicFront, acyclicBack⟩) ?_ ?_
    · exact (solves_extend_iff precedes acyclicFront.exists_build acyclicBack.exists_build
        namesSecond).mpr ⟨solvedFront, solvedBack⟩
    · have apart : ∀ name ∈ first.names, name ∉ second.names := by
        rw [namesFirst, namesSecond]
        exact precedes.apart
      rw [NameMap.names_extend apart, NameMap.names_extend precedes.apart, namesFirst, namesSecond]

end Engine

end Templating
