import Templating.Proofs.Batch.Cycle

/-!
# The order of a batch

What a batch comes to depends on what its names stand for, and not on the order in which it lists
them. Its entries in another order have the same references, the same edges and the same solutions.
-/

namespace Templating

namespace Graph

variable {tokenizer : Tokenizer} {batch shuffled : Bindings} {graph graph' : Graph}
  {source target : String}

theorem exists_build_of_perm (same : batch.entries.Perm shuffled.entries)
    (built : build tokenizer batch = .ok graph) :
    ∃ graph', build tokenizer shuffled = .ok graph' := by
  have readable := build_ok_iff.mp ⟨graph, built⟩
  refine build_ok_iff.mpr ?_
  intro entry member
  exact readable entry (same.mem_iff.mpr member)

theorem edge_iff_of_perm (same : batch.entries.Perm shuffled.entries)
    (built : build tokenizer batch = .ok graph) (built' : build tokenizer shuffled = .ok graph') :
    graph.Edge source target ↔ graph'.Edge source target := by
  rw [edge_build_iff built, edge_build_iff built', NameMap.get?_eq_of_perm same,
    NameMap.mem_names_iff_of_perm same]

theorem cyclic_iff_of_perm (same : batch.entries.Perm shuffled.entries)
    (built : build tokenizer batch = .ok graph) (built' : build tokenizer shuffled = .ok graph') :
    graph.Cyclic ↔ graph'.Cyclic := by
  have edges : graph.Edge = graph'.Edge :=
    funext fun _ => funext fun _ => propext (edge_iff_of_perm same built built')
  rw [Cyclic, Cyclic, edges]

/-- A batch that has an order has one however its entries are listed. -/
theorem exists_order_of_perm {order : List String} (same : batch.entries.Perm shuffled.entries)
    (built : build tokenizer batch = .ok graph) (ordered : graph.topologicalOrder = .ok order) :
    ∃ graph' order', build tokenizer shuffled = .ok graph' ∧
      graph'.topologicalOrder = .ok order' := by
  obtain ⟨graph', built'⟩ := exists_build_of_perm same built
  cases ordered' : graph'.topologicalOrder with
  | ok order' => exact ⟨graph', order', built', ordered'⟩
  | error error =>
      have cyclic' := topologicalOrder_error_iff.mp ⟨error, ordered'⟩
      have cyclic := (cyclic_iff_of_perm same built built').mpr cyclic'
      exact absurd cyclic (isTopological_of_topologicalOrder ordered).not_cyclic

end Graph

namespace Engine

variable {engine : Engine} {base batch shuffled candidate out : Bindings}

theorem Solves.of_perm (same : batch.entries.Perm shuffled.entries)
    (solved : engine.Solves base batch candidate) : engine.Solves base shuffled candidate := by
  intro name raw found
  rw [← NameMap.get?_eq_of_perm same] at found
  exact solved name raw found

/-- What a batch is resolved to, it is resolved to however its entries are listed. -/
theorem exists_resolve_of_perm (same : batch.entries.Perm shuffled.entries)
    (resolved : (engine.resolve .ignored base batch).outcome = .ok out) :
    ∃ out', (engine.resolve .ignored base shuffled).outcome = .ok out' ∧
      ∀ name, out'.get? name = out.get? name := by
  obtain ⟨graph, order, built, ordered⟩ := exists_order_of_resolve resolved
  obtain ⟨names, solved⟩ := solves_of_resolve resolved
  obtain ⟨graph', order', built', ordered'⟩ := Graph.exists_order_of_perm same built ordered
  refine resolve_of_solves built' ordered' (solved.of_perm same) ?_
  intro name member
  rw [names] at member
  exact (NameMap.mem_names_iff_of_perm same name).mp member

/-- A batch that fails with a cycle does so however its entries are listed. -/
theorem circular_of_perm (same : batch.entries.Perm shuffled.entries)
    (circular : ∃ error, (engine.resolve .ignored base batch).outcome = .error error ∧
      error.isCircularDependency = true) :
    ∃ error, (engine.resolve .ignored base shuffled).outcome = .error error ∧
      error.isCircularDependency = true := by
  obtain ⟨graph, built, cyclic⟩ := resolve_circular_iff.mp circular
  obtain ⟨graph', built'⟩ := Graph.exists_build_of_perm same built
  have cyclic' := (Graph.cyclic_iff_of_perm same built built').mp cyclic
  exact resolve_circular_iff.mpr ⟨graph', built', cyclic'⟩

/-- The order in which a batch lists its entries decides neither whether it is resolved, nor the
value of any name, nor whether it fails with a cycle. -/
theorem resolve_perm (same : batch.entries.Perm shuffled.entries) :
    ((∃ out, (engine.resolve .ignored base batch).outcome = .ok out) ↔
      ∃ out, (engine.resolve .ignored base shuffled).outcome = .ok out) ∧
    (∀ out out', (engine.resolve .ignored base batch).outcome = .ok out →
      (engine.resolve .ignored base shuffled).outcome = .ok out' →
        out.names = batch.names ∧ out'.names = shuffled.names ∧
          ∀ name, out.get? name = out'.get? name) ∧
    ((∃ error, (engine.resolve .ignored base batch).outcome = .error error ∧
        error.isCircularDependency = true) ↔
      ∃ error, (engine.resolve .ignored base shuffled).outcome = .error error ∧
        error.isCircularDependency = true) := by
  refine ⟨⟨?_, ?_⟩, ?_, ⟨circular_of_perm same, circular_of_perm same.symm⟩⟩
  · rintro ⟨out, resolved⟩
    obtain ⟨out', resolved', -⟩ := exists_resolve_of_perm same resolved
    exact ⟨out', resolved'⟩
  · rintro ⟨out', resolved'⟩
    obtain ⟨out, resolved, -⟩ := exists_resolve_of_perm same.symm resolved'
    exact ⟨out, resolved⟩
  · intro out out' resolved resolved'
    refine ⟨(solves_of_resolve resolved).1, (solves_of_resolve resolved').1, ?_⟩
    intro name
    obtain ⟨result, found, values⟩ := exists_resolve_of_perm same resolved
    have equal : result = out' := Except.ok.inj (found.symm.trans resolved')
    rw [← values name, equal]

/-- An entry that is listed before the one that it needs, or after it. -/
theorem resolve_perm_swap :
    let engine : Engine := ⟨.empty, {}, .epoch⟩
    let batch : Bindings := .ofPairs [("address", .string "\x7b\x7b host \x7d\x7d:80"),
      ("host", .string "eu")]
    let shuffled : Bindings := .ofPairs [("host", .string "eu"),
      ("address", .string "\x7b\x7b host \x7d\x7d:80")]
    (engine.resolve .ignored .empty batch).outcome =
      .ok (.ofPairs [("address", .string "eu:80"), ("host", .string "eu")]) ∧
    ∃ out, (engine.resolve .ignored .empty shuffled).outcome = .ok out ∧
      out.names = ["host", "address"] ∧ out.get? "address" = some (.string "eu:80") := by
  intro engine batch shuffled
  have same : batch.entries.Perm shuffled.entries := List.Perm.swap _ _ _
  have readAddress : engine.tokenizer.tokenize "\x7b\x7b host \x7d\x7d:80" =
      .ok [.plain "host", .text ":80"] :=
    Tokenizer.tokenize_around [] " host ".toList ":80".toList (by decide) (by decide) rfl rfl
  have readHost : engine.tokenizer.tokenize "eu" = .ok [.text "eu"] := rfl
  have address : batch.get? "address" = some (.string "\x7b\x7b host \x7d\x7d:80") := rfl
  have host : batch.get? "host" = some (.string "eu") := rfl
  have reads : Value.Reads engine.tokenizer batch.entries [["host"], []] :=
    .cons (Value.references_string readAddress) (.cons (Value.references_string readHost) .nil)
  have ordered : (Graph.ofReads batch [["host"], []]).topologicalOrder =
      .ok ["host", "address"] := rfl
  have resolved : (engine.resolve .ignored .empty batch).outcome =
      .ok (.ofPairs [("address", .string "eu:80"), ("host", .string "eu")]) := by
    rw [resolve_of_reads reads ordered]
    simp only [resolveInOrder, address, host, resolveValue, resolveTemplate, readAddress, readHost]
    rfl
  obtain ⟨out, resolved'⟩ := (resolve_perm same).1.mp ⟨_, resolved⟩
  obtain ⟨-, names, equal⟩ := (resolve_perm same).2.1 _ out resolved resolved'
  exact ⟨resolved, out, resolved', names, (equal "address").symm⟩

end Engine

end Templating
