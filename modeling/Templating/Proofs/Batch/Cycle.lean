import Templating.Proofs.Batch.Run
import Templating.Proofs.Evaluation.Leaves

/-!
# Batches with cycles

A batch whose graph has a cycle fails with the names along one, before anything is evaluated. No
other batch fails with a cycle.
-/

namespace Templating

namespace Engine

variable {engine : Engine} {base batch scope : Bindings} {cancellation : Cancellation}

/-- The error is that of an entry of the batch in some scope, under its name. -/
def EntryFails (engine : Engine) (batch : Bindings) (error : TemplateError) : Prop :=
  ∃ name raw scope inside, batch.get? name = some raw ∧
    (engine.resolveValue scope raw).outcome = .error inside ∧ error = .inVariable name inside

theorem EntryFails.ofResolution {error : TemplateError} (fails : engine.EntryFails batch error) :
    error.OfResolution engine.settings.strictSyntax := by
  obtain ⟨name, raw, scope, inside, -, failed, rfl⟩ := fails
  exact (failsOnly_resolveValue raw inside failed).inVariable name

/-- A run fails where an entry cannot be evaluated, or because it looks at a flag that tells it to
stop. -/
theorem failsOnly_resolveInOrder (names : List String) :
    (engine.resolveInOrder batch cancellation scope names).FailsOnly fun error =>
      error = .cancelled ∧ cancellation ≠ .ignored ∨ engine.EntryFails batch error := by
  induction names generalizing scope cancellation with
  | nil => exact Traced.failsOnly_ok scope
  | cons name rest ih =>
      rw [resolveInOrder]
      split
      next stops =>
        refine Traced.failsOnly_fail (.inl ⟨rfl, ?_⟩)
        rintro rfl
        cases stops
      · split
        · exact ih
        next raw found =>
          refine Traced.FailsOnly.andThen ?_ fun value => ih.mono ?_
          · intro error failed
            obtain ⟨inside, own, rfl⟩ := Outcome.mapError_eq_error_iff.mp failed
            exact .inr ⟨name, raw, scope, inside, found, own, rfl⟩
          · rintro error (⟨stopped, polled⟩ | arises)
            · refine .inl ⟨stopped, ?_⟩
              rintro rfl
              exact polled rfl
            · exact .inr arises

/-- A batch fails with a cycle exactly when it has a graph and the graph has a cycle. -/
theorem resolve_circular_iff :
    (∃ error, (engine.resolve cancellation base batch).outcome = .error error ∧
      error.isCircularDependency = true) ↔
      ∃ graph, Graph.build engine.tokenizer batch = .ok graph ∧ graph.Cyclic := by
  constructor
  · rintro ⟨error, failed, circular⟩
    cases built : Graph.build engine.tokenizer batch with
    | error refused =>
        rw [resolve, built] at failed
        cases failed
        obtain ⟨-, name, -, place, reason, rfl⟩ := Graph.malformed_of_build built
        cases circular
    | ok graph =>
        refine ⟨graph, rfl, ?_⟩
        cases ordered : graph.topologicalOrder with
        | error cycle => exact Graph.topologicalOrder_error_iff.mp ⟨cycle, ordered⟩
        | ok order =>
            rw [resolve_eq_of_order built ordered] at failed
            have inside := Outcome.map_eq_error_iff.mp failed
            rcases failsOnly_resolveInOrder order error inside with ⟨rfl, -⟩ | fails
            · cases circular
            · rw [fails.ofResolution.not_isCircularDependency] at circular
              cases circular
  · rintro ⟨graph, built, cyclic⟩
    obtain ⟨error, unordered⟩ := Graph.topologicalOrder_error_iff.mpr cyclic
    obtain ⟨chain, rfl, -⟩ := Graph.isCycle_of_topologicalOrder unordered
    refine ⟨.circularDependency chain, ?_, rfl⟩
    rw [resolve_eq_fail_of_order built unordered]
    rfl

end Engine

namespace Graph

/-- Ordering a graph gives a topological order, or the names along a cycle when there is one. Every
batch with that graph then fails with these names, and no filter is called. -/
theorem topologicalOrder_sound_complete (graph : Graph) :
    (∀ order, graph.topologicalOrder = .ok order → graph.IsTopological order) ∧
    (∀ error, graph.topologicalOrder = .error error →
      ∃ chain, error = .circularDependency chain ∧ graph.IsCycle chain) ∧
    ((∃ error, graph.topologicalOrder = .error error) ↔ graph.Cyclic) ∧
    ∀ (engine : Engine) (batch : Bindings), build engine.tokenizer batch = .ok graph →
      ∀ error, graph.topologicalOrder = .error error →
        ∀ cancellation base, engine.resolve cancellation base batch = .fail error := by
  refine ⟨?_, ?_, topologicalOrder_error_iff, ?_⟩
  · intro order sorted
    exact isTopological_of_topologicalOrder sorted
  · intro error failed
    exact isCycle_of_topologicalOrder failed
  · intro engine batch built error failed cancellation base
    exact Engine.resolve_eq_fail_of_order built failed

/-- Two entries that need one another, and a node that three others need. -/
theorem topologicalOrder_sound_complete_pair :
    let engine : Engine := ⟨.empty, {}, .epoch⟩
    let batch : Bindings := .ofPairs [("left", .string "\x7b\x7b right \x7d\x7d"),
      ("right", .string "\x7b\x7b left \x7d\x7d")]
    let pair : Graph := ⟨.ofPairs [("left", ["right"]), ("right", ["left"])], []⟩
    let shared : Graph :=
      ⟨.ofPairs [("top", ["left", "right"]), ("left", ["low"]), ("right", ["low", "out"]),
        ("low", [])], []⟩
    (pair.IsCycle ["left", "right", "left"] ∧ ∀ cancellation base,
      engine.resolve cancellation base batch =
        .fail (.circularDependency ["left", "right", "left"])) ∧
    shared.IsTopological ["low", "left", "right", "top"] := by
  intro engine batch pair shared
  have readLeft : engine.tokenizer.tokenize "\x7b\x7b right \x7d\x7d" = .ok [.plain "right"] :=
    Tokenizer.tokenize_single " right ".toList (by decide) (by decide) rfl rfl
  have readRight : engine.tokenizer.tokenize "\x7b\x7b left \x7d\x7d" = .ok [.plain "left"] :=
    Tokenizer.tokenize_single " left ".toList (by decide) (by decide) rfl rfl
  have reads : Value.Reads engine.tokenizer batch.entries [["right"], ["left"]] :=
    .cons (Value.references_string readLeft) (.cons (Value.references_string readRight) .nil)
  have built : build engine.tokenizer batch = .ok pair := build_of_reads reads
  have failed : pair.topologicalOrder =
      .error (.circularDependency ["left", "right", "left"]) := rfl
  obtain ⟨-, cycle, -, stops⟩ := topologicalOrder_sound_complete pair
  obtain ⟨sorted, -, -, -⟩ := topologicalOrder_sound_complete shared
  obtain ⟨chain, same, isCycle⟩ := cycle _ failed
  cases same
  refine ⟨⟨isCycle, ?_⟩, sorted _ rfl⟩
  intro cancellation base
  exact stops engine batch built _ failed cancellation base

end Graph

end Templating
