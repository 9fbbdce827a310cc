import Templating.Proofs.Evaluation.Failure

/-!
# Variables that are not found

An evaluation that says that a variable was not found has looked for it: what is evaluated refers to
the variable, and the scope does not have it. For a pipeline the error may come late, since a
missing variable is nil to its filters, but it is still about the variable of the pipeline.
-/

namespace Templating

/-- If a variable was not found, it is one of the names and the scope does not have it. -/
def TemplateError.Unbound (names : List String) (scope : Bindings) (error : TemplateError) : Prop :=
  ∀ name, error.root = .variableNotFound name → name ∈ names ∧ scope.get? name = none

namespace TemplateError.Unbound

variable {names more : List String} {scope : Bindings} {error : TemplateError} {name : String}

theorem variableNotFound (member : name ∈ names) (absent : scope.get? name = none) :
    Unbound names scope (.variableNotFound name) := by
  rintro _ ⟨⟩
  exact ⟨member, absent⟩

theorem mono (unbound : Unbound names scope error) (subset : names ⊆ more) :
    Unbound more scope error :=
  fun name missing => (unbound name missing).imp_left fun member => subset member

theorem inVariable (key : String) (unbound : Unbound names scope error) :
    Unbound names scope (.inVariable key error) := unbound

end TemplateError.Unbound

namespace Evaluation

open TemplateError (Unbound)

variable {registry : Registry} {scope : Bindings} {name : String} {covered : Bool}

theorem unbound_argumentValues {error : TemplateError} (arguments : List Argument)
    (failed : argumentValues scope arguments = .error error) :
    Unbound (arguments.filterMap Argument.reference?) scope error := by
  obtain ⟨name, member, absent, rfl⟩ := argumentValues_error arguments failed
  exact .variableNotFound member absent

/-- Only a variable that the scope does not have counts as missing. -/
def Progress.Honest (progress : Progress) (scope : Bindings) (name : String) : Prop :=
  progress.missing = true → scope.get? name = none

theorem Progress.Honest.next {progress later : Progress} {call : FilterCall} {kind : FilterKind}
    {answer : Except FilterError Value} (honest : progress.Honest scope name)
    (done : progress.next name covered call kind answer = .ok later) :
    later.Honest scope name := by
  rcases next_ok_iff.mp done with ⟨value, -, rfl⟩ | ⟨-, -, -, rfl⟩
  · exact fun missing => honest ((Bool.and_eq_true _ _).mp missing).1
  · exact honest

theorem Progress.Honest.unbound_next {progress : Progress} {call : FilterCall}
    {kind : FilterKind} {answer : Except FilterError Value} {error : TemplateError}
    (honest : progress.Honest scope name)
    (failed : progress.next name covered call kind answer = .error error) :
    Unbound [name] scope error := by
  rcases next_error_iff.mp failed with ⟨-, -, -, missing, rfl⟩ | ⟨-, -, -, rfl⟩
  · exact .variableNotFound List.mem_cons_self (honest missing)
  · rintro _ ⟨⟩

theorem honest_applyCall {progress later : Progress} {call : FilterCall}
    (honest : progress.Honest scope name)
    (done : (applyCall registry scope name covered progress call).outcome = .ok later) :
    later.Honest scope name := by
  obtain ⟨filter, arguments, -, -, answered, -⟩ := applyCall_ok done
  exact honest.next answered

theorem honest_applyCalls {progress later : Progress} (calls : List FilterCall)
    (honest : progress.Honest scope name)
    (done : (applyCalls registry scope name covered progress calls).outcome = .ok later) :
    later.Honest scope name := by
  induction calls generalizing progress with
  | nil =>
      cases done
      exact honest
  | cons call rest ih =>
      rw [applyCalls, Traced.andThen_outcome] at done
      obtain ⟨next, first, done⟩ := Outcome.bind_eq_ok_iff.mp done
      exact ih (honest_applyCall honest first) done

theorem unbound_applyCall {progress : Progress} (call : FilterCall)
    (honest : progress.Honest scope name) :
    (applyCall registry scope name covered progress call).FailsOnly
      (Unbound (name :: call.references) scope) := by
  rcases applyCall_cases registry scope name covered progress call with
    ⟨-, fails⟩ | ⟨error, unbound, fails⟩ | ⟨filter, arguments, -, -, makes⟩
  · rw [fails]
    refine Traced.failsOnly_fail ?_
    rintro _ ⟨⟩
  · rw [fails]
    have own := unbound_argumentValues call.arguments unbound
    exact Traced.failsOnly_fail (own.mono (List.subset_cons_self _ _))
  · rw [makes]
    intro error failed
    exact (honest.unbound_next failed).mono (List.cons_subset_cons _ (List.nil_subset _))

theorem unbound_applyCalls {progress : Progress} (calls : List FilterCall)
    (honest : progress.Honest scope name) :
    (applyCalls registry scope name covered progress calls).FailsOnly
      (Unbound (name :: calls.flatMap FilterCall.references) scope) := by
  -- The calls to come start from what a call that went well leaves, and this is honest too.
  induction calls generalizing progress with
  | nil => exact Traced.failsOnly_ok progress
  | cons call rest ih =>
      rw [applyCalls, List.flatMap_cons]
      refine Traced.FailsOnly.andThen_of_ok ?_ fun later done => ?_
      · refine (unbound_applyCall call honest).mono fun error own => own.mono ?_
        exact List.cons_subset_cons _ (List.subset_append_left _ _)
      · refine (ih (honest_applyCall honest done)).mono fun error own => own.mono ?_
        exact List.cons_subset_cons _ (List.subset_append_right _ _)

theorem Progress.Honest.start : (Progress.start (scope.get? name)).Honest scope name :=
  fun missing => Option.isNone_iff_eq_none.mp missing

theorem unbound_pipelineValue (pipeline : Pipeline) :
    (pipelineValue registry scope pipeline).FailsOnly (Unbound pipeline.references scope) := by
  have honest : (Progress.start (scope.get? pipeline.name)).Honest scope pipeline.name := .start
  rw [pipelineValue_eq]
  refine (unbound_applyCalls pipeline.calls honest).andThen_of_ok fun progress done => ?_
  unfold Progress.finish
  split
  next missing =>
    have absent := honest_applyCalls pipeline.calls honest done missing
    exact Traced.failsOnly_fail (.variableNotFound List.mem_cons_self absent)
  next => exact Traced.failsOnly_ok progress.value

theorem unbound_tokenValue (token : Token) :
    (tokenValue registry scope token).FailsOnly (Unbound token.references scope) := by
  have invalid : ∀ raw, Unbound [] scope (.invalidToken raw) := by
    rintro raw _ ⟨⟩
  cases token with
  | text run => exact Traced.failsOnly_ok _
  | plain name =>
      rw [tokenValue]
      cases found : scope.get? name with
      | none => exact Traced.failsOnly_fail (.variableNotFound List.mem_cons_self found)
      | some value => exact Traced.failsOnly_ok (plainForm value)
  | filtered raw pipeline => exact unbound_pipelineValue pipeline
  | _ => exact Traced.failsOnly_fail (invalid _)

theorem unbound_renderValue (tokens : List Token) :
    (renderValue registry scope tokens).FailsOnly
      (Unbound (tokens.flatMap Token.references) scope) := by
  intro error failed
  obtain ⟨token, member, -, fails⟩ := failsAt_of_renderValue tokens failed
  refine (unbound_tokenValue token error fails).mono fun name refers => ?_
  exact List.mem_flatMap.mpr ⟨token, member, refers⟩

end Evaluation

namespace Engine

open TemplateError (Unbound)

variable {engine : Engine} {scope : Bindings}

theorem unbound_resolveTemplate (template : String) {names : List String}
    (read : templateReferences engine.tokenizer template = .ok names) :
    (engine.resolveTemplate scope template).FailsOnly (Unbound names scope) := by
  unfold resolveTemplate
  cases cut : engine.tokenizer.tokenize template with
  | error error =>
      rw [templateReferences, cut] at read
      cases read
  | ok tokens =>
      rw [templateReferences, cut] at read
      cases read
      have value : (Evaluation.renderValue engine.registry scope tokens).FailsOnly
          (Unbound (tokens.flatMap Token.references) scope) :=
        Evaluation.unbound_renderValue tokens
      split
      next failed => cases failed
      · exact Traced.failsOnly_ok _
      · exact Traced.failsOnly_ok _
      next whole =>
        cases whole
        exact value

mutual

/-- A value that cannot be resolved for want of a variable refers to it, and the scope does not have
it. -/
theorem unbound_resolveValue : (value : Value) → {names : List String} →
    value.references engine.tokenizer = .ok names →
      (engine.resolveValue scope value).FailsOnly (Unbound names scope)
  | .string template, _, read => by
      rw [Value.references] at read
      rw [resolveValue]
      exact unbound_resolveTemplate template read
  | .map entries, _, read => by
      rw [Value.references] at read
      rw [resolveValue]
      exact (unbound_resolveEntries entries read).map _
  | .nil, _, _ => Traced.failsOnly_ok _
  | .bool _, _, _ => Traced.failsOnly_ok _
  | .int _, _, _ => Traced.failsOnly_ok _
  | .float _, _, _ => Traced.failsOnly_ok _
  | .list _, _, _ => Traced.failsOnly_ok _
  | .timestamp _, _, _ => Traced.failsOnly_ok _

theorem unbound_resolveEntries : (entries : List (String × Value)) → {names : List String} →
    Value.entryReferences engine.tokenizer entries = .ok names →
      (engine.resolveEntries scope entries).FailsOnly (Unbound names scope)
  | [], _, _ => Traced.failsOnly_ok _
  | (key, value) :: rest, _, read => by
      rw [Value.entryReferences] at read
      cases own : value.references engine.tokenizer with
      | error error =>
          rw [own] at read
          cases read
      | ok front =>
          rw [own] at read
          obtain ⟨back, others, rfl⟩ := Outcome.map_eq_ok_iff.mp read
          rw [resolveEntries]
          refine Traced.FailsOnly.andThen ?_ fun resolved => Traced.FailsOnly.map _ ?_
          · exact (unbound_resolveValue value own).mapError fun error unbound =>
              (unbound.mono (List.subset_append_left _ _)).inVariable key
          · exact (unbound_resolveEntries rest others).mono fun error unbound =>
              unbound.mono (List.subset_append_right _ _)

end

end Engine

end Templating
