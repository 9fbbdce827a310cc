import Templating.Proofs.Batch.Run
import Templating.Proofs.Template.Scan

/-!
# Batches as equations

The entries of a batch are equations between its names, and resolving the batch solves them: the
result is a solution, and there is no other.
-/

namespace Templating.Engine

variable {engine : Engine} {base batch out first second : Bindings} {graph : Graph}
  {order : List String} {cancellation : Cancellation}

/-- Two solutions on the names of a batch that has an order are the same. -/
theorem Solves.get?_eq (built : Graph.build engine.tokenizer batch = .ok graph)
    (ordered : graph.topologicalOrder = .ok order) (solvedFirst : engine.Solves base batch first)
    (withinFirst : ∀ name ∈ first.names, name ∈ batch.names)
    (solvedSecond : engine.Solves base batch second)
    (withinSecond : ∀ name ∈ second.names, name ∈ batch.names) (name : String) :
    first.get? name = second.get? name := by
  obtain ⟨result, resolved, same⟩ := resolve_of_solves built ordered solvedFirst withinFirst
  obtain ⟨result', resolved', same'⟩ := resolve_of_solves built ordered solvedSecond withinSecond
  have equal : result = result' := Except.ok.inj (resolved.symm.trans resolved')
  rw [← same name, equal, same' name]

/-- The result of a batch has the names of the batch in their order, gives each of them what its own
template comes to among the results, and is the only assignment to these names that does. -/
theorem resolve_unique_solution
    (resolved : (engine.resolve cancellation base batch).outcome = .ok out) :
    out.names = batch.names ∧
    (∀ name raw, batch.get? name = some raw → ∃ value, out.get? name = some value ∧
      (engine.resolveValue (base.extend out) raw).outcome = .ok value) ∧
    ∀ other : Bindings, (∀ name, name ∈ other.names ↔ name ∈ batch.names) →
      (∀ name raw, batch.get? name = some raw → ∃ value, other.get? name = some value ∧
        (engine.resolveValue (base.extend other) raw).outcome = .ok value) →
      (∀ name, other.get? name = out.get? name) ∧ (other.names = batch.names → other = out) := by
  obtain ⟨graph, order, built, ordered⟩ := exists_order_of_resolve resolved
  obtain ⟨names, solved⟩ := solves_of_resolve resolved
  refine ⟨names, solved, ?_⟩
  intro other keys solvedOther
  have within : ∀ name ∈ out.names, name ∈ batch.names := fun name member => names ▸ member
  have withinOther : ∀ name ∈ other.names, name ∈ batch.names :=
    fun name member => (keys name).mp member
  have same : ∀ name, other.get? name = out.get? name :=
    Solves.get?_eq built ordered solvedOther withinOther solved within
  refine ⟨same, ?_⟩
  intro inOrder
  exact NameMap.eq_of_get? (inOrder.trans names.symm) same

/-- An entry that needs a later one, which hides a variable of the base and reads another. -/
theorem resolve_unique_solution_chain :
    let engine : Engine := ⟨.empty, {}, .epoch⟩
    let base : Bindings := .ofPairs [("zone", .string "eu"), ("host", .string "stale")]
    let batch : Bindings := .ofPairs [("path", .string "/srv/\x7b\x7b host \x7d\x7d"),
      ("host", .string "\x7b\x7b zone \x7d\x7d.local")]
    let out : Bindings :=
      .ofPairs [("path", .string "/srv/eu.local"), ("host", .string "eu.local")]
    (engine.resolve .ignored base batch).outcome = .ok out ∧ engine.Solves base batch out ∧
      ∀ other : Bindings, other.names = ["path", "host"] → engine.Solves base batch other →
        other = out := by
  intro engine base batch out
  have readPath : engine.tokenizer.tokenize "/srv/\x7b\x7b host \x7d\x7d" =
      .ok [.text "/srv/", .plain "host"] :=
    Tokenizer.tokenize_around "/srv/".toList " host ".toList [] (by decide) (by decide) rfl rfl
  have readHost : engine.tokenizer.tokenize "\x7b\x7b zone \x7d\x7d.local" =
      .ok [.plain "zone", .text ".local"] :=
    Tokenizer.tokenize_around [] " zone ".toList ".local".toList (by decide) (by decide) rfl rfl
  have path : batch.get? "path" = some (.string "/srv/\x7b\x7b host \x7d\x7d") := rfl
  have host : batch.get? "host" = some (.string "\x7b\x7b zone \x7d\x7d.local") := rfl
  have reads : Value.Reads engine.tokenizer batch.entries [["host"], ["zone"]] :=
    .cons (Value.references_string readPath) (.cons (Value.references_string readHost) .nil)
  have ordered : (Graph.ofReads batch [["host"], ["zone"]]).topologicalOrder =
      .ok ["host", "path"] := rfl
  have resolved : (engine.resolve .ignored base batch).outcome = .ok out := by
    rw [resolve_of_reads reads ordered]
    simp only [resolveInOrder, path, host, resolveValue, resolveTemplate, readPath, readHost]
    rfl
  obtain ⟨names, solved, unique⟩ := resolve_unique_solution resolved
  refine ⟨resolved, solved, ?_⟩
  intro other inOrder solvedOther
  have keys : ∀ name, name ∈ other.names ↔ name ∈ batch.names := by
    intro name
    rw [inOrder]
    rfl
  exact (unique other keys solvedOther).2 inOrder

end Templating.Engine
