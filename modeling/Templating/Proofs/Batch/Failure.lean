import Templating.Layers
import Templating.Proofs.Batch.Cycle
import Templating.Proofs.Evaluation.Origin

/-!
# The errors of an engine

What an engine is asked for can fail in few ways, and the kind of the request says how the error is
wrapped: the output of a template once, its value not at all, and a batch with the name of an entry
or not at all. The error inside has one of the causes of `Cause`, in a template of the request.
-/

namespace Templating

/-- The error has no error inside it that it wraps. -/
def TemplateError.isBare : TemplateError → Bool
  | inVariable _ _ => false
  | parseFailed _ => false
  | renderFailed _ => false
  | _ => true

theorem TemplateError.isBare_root (error : TemplateError) : error.root.isBare = true := by
  induction error with
  | inVariable name source ih => exact ih
  | parseFailed source ih => exact ih
  | renderFailed source ih => exact ih
  | _ => rfl

/-- The errors of a batch with these names: a cycle, the end of a run that was told to stop, and
what is wrapped in one of the names. -/
inductive TemplateError.OfBatch (names : List String) : TemplateError → Prop where
  | circular (chain : List String) : OfBatch names (.circularDependency chain)
  | cancelled : OfBatch names .cancelled
  | entry {name : String} (member : name ∈ names) (source : TemplateError) :
      OfBatch names (.inVariable name source)

theorem TemplateError.OfBatch.mono {names others : List String} {error : TemplateError}
    (arises : error.OfBatch names) (within : ∀ name ∈ names, name ∈ others) :
    error.OfBatch others := by
  cases arises with
  | circular chain => exact .circular chain
  | cancelled => exact .cancelled
  | entry member source => exact .entry (within _ member) source

/-- The texts that are read as templates when the batch is resolved. -/
def Bindings.templates (batch : Bindings) : List String :=
  batch.entries.flatMap fun entry => entry.2.templates

theorem Bindings.templates_of_get? {batch : Bindings} {name : String} {value : Value}
    (found : batch.get? name = some value) : ∀ template ∈ value.templates,
      template ∈ batch.templates := by
  intro template member
  exact List.mem_flatMap.mpr ⟨(name, value), NameMap.mem_entries_iff.mpr found, member⟩

namespace Engine

open Evaluation (isCovered pipelineValue)

variable {engine : Engine} {base batch scope : Bindings} {layers : Layers}
  {cancellation : Cancellation} {error : TemplateError}

/-! ## Requests -/

/-- What an engine can be asked for. -/
inductive Request where
  | render (scope : Bindings) (template : String)
  | value (scope : Bindings) (template : String)
  | batch (cancellation : Cancellation) (base batch : Bindings)
  | layers (cancellation : Cancellation) (layers : Layers)

namespace Request

def templates : Request → List String
  | .render _ template => [template]
  | .value _ template => [template]
  | .batch _ _ batch => batch.templates
  | .layers _ layers => layers.config.templates ++ layers.action.templates

/-- How an error of the request is wrapped. -/
def Wraps : Request → TemplateError → Prop
  | .render _ _, error =>
      ∃ inside, inside.isBare = true ∧ (error = .parseFailed inside ∨ error = .renderFailed inside)
  | .value _ _, error => error.isBare = true
  | .batch _ _ batch, error => error.OfBatch batch.names
  | .layers _ layers, error => error.OfBatch (layers.config.names ++ layers.action.names)

end Request

/-- The request ends with the error. -/
def Fails (engine : Engine) (error : TemplateError) : Request → Prop
  | .render scope template => (engine.render scope template).outcome = .error error
  | .value scope template => (engine.resolveTemplate scope template).outcome = .error error
  | .batch cancellation base batch =>
      (engine.resolve cancellation base batch).outcome = .error error
  | .layers cancellation layers =>
      (engine.resolveLayers cancellation layers).outcome = .error error

/-! ## One kind of request after the other -/

theorem cause_of_render {template : String}
    (failed : (engine.render scope template).outcome = .error error) :
    ∃ inside, inside.root = inside ∧ engine.Cause [template] inside ∧
      (error = .parseFailed inside ∨ error = .renderFailed inside) := by
  unfold render at failed
  split at failed
  next refusal refused =>
    obtain ⟨strict, place, reason, rfl⟩ := Tokenizer.strict_of_tokenize_error refused
    cases failed
    exact ⟨_, rfl, .malformed strict place reason, .inl rfl⟩
  next tokens read =>
    obtain ⟨inside, fails, rfl⟩ := Outcome.mapError_eq_error_iff.mp failed
    have place := Evaluation.failsAt_of_render tokens fails
    exact ⟨inside, place.ofEvaluation.root_eq, .placeholder List.mem_cons_self read place, .inr rfl⟩

theorem EntryFails.ofBatch (fails : engine.EntryFails batch error) :
    error.OfBatch batch.names := by
  obtain ⟨name, raw, scope, inside, found, -, rfl⟩ := fails
  exact .entry (NameMap.mem_names_iff.mpr ⟨raw, found⟩) inside

theorem EntryFails.cause (fails : engine.EntryFails batch error) :
    engine.Cause batch.templates error.root := by
  obtain ⟨name, raw, scope, inside, found, failed, rfl⟩ := fails
  exact (cause_of_resolveValue failed).mono (Bindings.templates_of_get? found)

theorem failsOnly_resolve (engine : Engine) (cancellation : Cancellation) (base batch : Bindings) :
    (engine.resolve cancellation base batch).FailsOnly fun error =>
      error.OfBatch batch.names ∧ engine.Cause batch.templates error.root := by
  intro error failed
  cases built : Graph.build engine.tokenizer batch with
  | error refusal =>
      obtain ⟨strict, name, member, place, reason, rfl⟩ := Graph.malformed_of_build built
      rw [resolve, built] at failed
      cases failed
      exact ⟨.entry member _, .malformed strict place reason⟩
  | ok graph =>
      cases ordered : graph.topologicalOrder with
      | error cycle =>
          obtain ⟨chain, rfl, -⟩ := Graph.isCycle_of_topologicalOrder ordered
          rw [resolve_eq_fail_of_order built ordered] at failed
          cases failed
          exact ⟨.circular chain, .circular chain⟩
      | ok order =>
          rw [resolve_eq_of_order built ordered] at failed
          have ran := Outcome.map_eq_error_iff.mp failed
          rcases failsOnly_resolveInOrder order error ran with ⟨rfl, -⟩ | fails
          · exact ⟨.cancelled, .cancelled⟩
          · exact ⟨fails.ofBatch, fails.cause⟩

theorem failsOnly_resolveLayers (engine : Engine) (cancellation : Cancellation) (layers : Layers) :
    (engine.resolveLayers cancellation layers).FailsOnly fun error =>
      error.OfBatch (layers.config.names ++ layers.action.names) ∧
      engine.Cause (layers.config.templates ++ layers.action.templates) error.root := by
  refine Traced.FailsOnly.andThen ?_ fun resolved => .map _ ?_
  · refine (engine.failsOnly_resolve _ _ layers.config).mono fun error arises => ?_
    exact ⟨arises.1.mono fun _ member => List.mem_append_left _ member,
      arises.2.mono fun _ member => List.mem_append_left _ member⟩
  · refine (engine.failsOnly_resolve _ _ layers.action).mono fun error arises => ?_
    exact ⟨arises.1.mono fun _ member => List.mem_append_right _ member,
      arises.2.mono fun _ member => List.mem_append_right _ member⟩

theorem Fails.wraps_and_cause {request : Request} (failed : engine.Fails error request) :
    request.Wraps error ∧ engine.Cause request.templates error.root := by
  cases request with
  | render scope template =>
      obtain ⟨inside, bare, cause, wrapped⟩ := cause_of_render failed
      have root : error.root = inside := by
        rcases wrapped with rfl | rfl <;> exact bare
      exact ⟨⟨inside, bare ▸ inside.isBare_root, wrapped⟩, root ▸ cause⟩
  | value scope template =>
      have bare : error.root = error := root_of_resolveTemplate failed
      exact ⟨bare ▸ error.isBare_root, bare.symm ▸ cause_of_resolveTemplate failed⟩
  | batch cancellation base batch =>
      exact engine.failsOnly_resolve cancellation base batch error failed
  | layers cancellation layers =>
      exact engine.failsOnly_resolveLayers cancellation layers error failed

/-- Whatever an engine is asked for, its error is wrapped as the request has it. No error is about a
token without a value, none is about a malformed template unless reading is strict, and an error
that allows a default comes from a pipeline of the request without a fallback filter. -/
theorem failure_taxonomy (engine : Engine) (request : Request) (error : TemplateError)
    (failed : engine.Fails error request) :
    request.Wraps error ∧
    (∀ raw, error.root ≠ .invalidToken raw) ∧
    (∀ place reason, error.root = .malformedTemplate place reason →
      engine.settings.strictSyntax = true) ∧
    ∀ name reason, error.root = .functionApplyFailed name (.allowsDefault reason) →
      ∃ template ∈ request.templates, ∃ tokens raw pipeline scope,
        engine.tokenizer.tokenize template = .ok tokens ∧ .filtered raw pipeline ∈ tokens ∧
        (pipelineValue engine.registry scope pipeline).outcome = .error error.root ∧
        name ∈ pipeline.calls.map FilterCall.name ∧
        isCovered engine.registry pipeline.calls = false := by
  obtain ⟨wraps, cause⟩ := failed.wraps_and_cause
  refine ⟨wraps, cause.ne_invalidToken, ?_, ?_⟩
  · intro place reason malformed
    rw [malformed] at cause
    exact cause.strict_of_malformed
  · intro name reason declined
    rw [declined] at cause ⊢
    exact cause.uncovered

/-- A filter declines two maps deep in the configuration. -/
theorem failure_taxonomy_nested :
    let decline : Filter := .transform fun _ _ => .error (.allowsDefault "declined")
    let engine : Engine := ⟨.ofPairs [("decline", decline)], {}, .epoch⟩
    let config : Bindings := .ofPairs
      [("limits", .map [("size", .string "\x7b\x7b zone | decline \x7d\x7d")])]
    let request : Request := .layers .ignored
      ⟨.ofPairs [("zone", .string "eu")], config, .empty, .empty⟩
    let error : TemplateError := .inVariable "limits"
      (.inVariable "size" (.functionApplyFailed "decline" (.allowsDefault "declined")))
    engine.Fails error request ∧ error.OfBatch ["limits"] ∧
      ∃ tokens raw pipeline,
        engine.tokenizer.tokenize "\x7b\x7b zone | decline \x7d\x7d" = .ok tokens ∧
        .filtered raw pipeline ∈ tokens ∧ "decline" ∈ pipeline.calls.map FilterCall.name ∧
        isCovered engine.registry pipeline.calls = false := by
  intro decline engine config request error
  have read : engine.tokenizer.tokenize "\x7b\x7b zone | decline \x7d\x7d" =
      .ok [.filtered "zone | decline" ⟨"zone", [⟨"decline", []⟩]⟩] :=
    Tokenizer.tokenize_single " zone | decline ".toList (by decide) (by decide) rfl rfl
  have size : Value.Reads engine.tokenizer
      [("size", .string "\x7b\x7b zone | decline \x7d\x7d")] [["zone"]] :=
    .cons (Value.references_string read) .nil
  have reads : Value.Reads engine.tokenizer config.entries [["zone"]] :=
    .cons (Value.references_map size) .nil
  have ordered : (Graph.ofReads config [["zone"]]).topologicalOrder = .ok ["limits"] := rfl
  have found : config.get? "limits" =
      some (.map [("size", .string "\x7b\x7b zone | decline \x7d\x7d")]) := rfl
  have fails : engine.Fails error request := by
    show (engine.resolveLayers _ _).outcome = _
    rw [resolveLayers, Traced.andThen_outcome, resolve_of_reads reads ordered]
    simp only [resolveInOrder, found, resolveValue, resolveEntries, resolveTemplate, read]
    rfl
  obtain ⟨wraps, -, -, declined⟩ := failure_taxonomy engine request error fails
  obtain ⟨template, member, tokens, raw, pipeline, scope, reads, inside, -, called, bare⟩ :=
    declined "decline" "declined" rfl
  have only : template = "\x7b\x7b zone | decline \x7d\x7d" := List.mem_singleton.mp member
  exact ⟨fails, wraps, tokens, raw, pipeline, only ▸ reads, inside, called, bare⟩

end Engine

end Templating
