import Templating.Proofs.Evaluation.Leaves

/-!
# Where errors come from

The template of an error can be found: a value fails through one of its leaves, and a template
through one of its placeholders that have a value, unless strict reading refuses it. An error that
allows a default gets out of a pipeline only if the pipeline has no fallback filter.
-/

namespace Templating

/-- The texts that are read as templates when the value is resolved. -/
def Value.templates (value : Value) : List String := value.leaves.map Leaf.template

namespace Evaluation

variable {registry : Registry} {scope : Bindings} {subject name reason : String} {covered : Bool}
  {error : TemplateError}

theorem applyCall_declined {progress : Progress} {call : FilterCall}
    (failed : (applyCall registry scope subject covered progress call).outcome =
      .error (.functionApplyFailed name (.allowsDefault reason))) :
    covered = false ∧ call.name = name := by
  rcases applyCall_cases registry scope subject covered progress call with
    ⟨-, fails⟩ | ⟨unbound, missing, fails⟩ | ⟨filter, arguments, -, -, makes⟩
  · rw [fails] at failed
    cases failed
  · obtain ⟨absent, -, -, rfl⟩ := argumentValues_error call.arguments missing
    rw [fails] at failed
    cases failed
  · rw [makes] at failed
    rcases Progress.next_error_iff.mp failed with ⟨-, -, -, -, other⟩ | ⟨inside, -, uncovered, same⟩
    · cases other
    · cases same
      exact ⟨(uncovered rfl).1, rfl⟩

theorem applyCalls_declined {progress : Progress} (calls : List FilterCall)
    (failed : (applyCalls registry scope subject covered progress calls).outcome =
      .error (.functionApplyFailed name (.allowsDefault reason))) :
    covered = false ∧ name ∈ calls.map FilterCall.name := by
  induction calls generalizing progress with
  | nil => cases failed
  | cons call rest ih =>
      rw [applyCalls, Traced.andThen_outcome] at failed
      rcases Outcome.bind_eq_error_iff.mp failed with here | ⟨later, -, after⟩
      · obtain ⟨uncovered, named⟩ := applyCall_declined here
        exact ⟨uncovered, named ▸ List.mem_cons_self⟩
      · obtain ⟨uncovered, member⟩ := ih after
        exact ⟨uncovered, List.mem_cons_of_mem _ member⟩

/-- A pipeline that ends with an error of a filter which allows a default calls this filter and no
fallback filter. -/
theorem pipelineValue_declined {pipeline : Pipeline}
    (failed : (pipelineValue registry scope pipeline).outcome =
      .error (.functionApplyFailed name (.allowsDefault reason))) :
    isCovered registry pipeline.calls = false ∧ name ∈ pipeline.calls.map FilterCall.name := by
  rw [pipelineValue_eq, Traced.andThen_outcome] at failed
  rcases Outcome.bind_eq_error_iff.mp failed with inside | ⟨progress, -, after⟩
  · exact applyCalls_declined pipeline.calls inside
  · rw [Progress.finish] at after
    split at after <;> cases after

end Evaluation

namespace Engine

open Evaluation (FailsAt isCovered pipelineValue tokenValue)

variable {engine : Engine} {scope : Bindings} {error : TemplateError}
  {templates others : List String}

/-- Where an error that is not wrapped comes from, for something made of these templates. -/
inductive Cause (engine : Engine) (templates : List String) : TemplateError → Prop where
  | circular (chain : List String) : Cause engine templates (.circularDependency chain)
  | cancelled : Cause engine templates .cancelled
  | malformed (strict : engine.settings.strictSyntax = true) (place : Nat) (reason : Malformed) :
      Cause engine templates (.malformedTemplate place reason)
  | placeholder {template : String} {tokens : List Token} {scope : Bindings}
      {error : TemplateError} (member : template ∈ templates)
      (read : engine.tokenizer.tokenize template = .ok tokens)
      (fails : FailsAt engine.registry scope tokens error) : Cause engine templates error

namespace Cause

theorem mono (cause : engine.Cause templates error)
    (within : ∀ template ∈ templates, template ∈ others) : engine.Cause others error := by
  cases cause with
  | circular chain => exact .circular chain
  | cancelled => exact .cancelled
  | malformed strict place reason => exact .malformed strict place reason
  | placeholder member read fails => exact .placeholder (within _ member) read fails

theorem ne_invalidToken (cause : engine.Cause templates error) (raw : String) :
    error ≠ .invalidToken raw := by
  rintro rfl
  cases cause with
  | placeholder member read fails =>
      cases fails.ofEvaluation

theorem strict_of_malformed {place : Nat} {reason : Malformed}
    (cause : engine.Cause templates (.malformedTemplate place reason)) :
    engine.settings.strictSyntax = true := by
  cases cause with
  | malformed strict => exact strict
  | placeholder member read fails =>
      cases fails.ofEvaluation

/-- An error that allows a default comes from a pipeline in one of the templates. The pipeline calls
the filter that failed, and it has no fallback filter. -/
theorem uncovered {name reason : String}
    (cause : engine.Cause templates (.functionApplyFailed name (.allowsDefault reason))) :
    ∃ template ∈ templates, ∃ tokens raw pipeline scope,
      engine.tokenizer.tokenize template = .ok tokens ∧ .filtered raw pipeline ∈ tokens ∧
      (pipelineValue engine.registry scope pipeline).outcome =
        .error (.functionApplyFailed name (.allowsDefault reason)) ∧
      name ∈ pipeline.calls.map FilterCall.name ∧
      isCovered engine.registry pipeline.calls = false := by
  cases cause with
  | @placeholder template tokens scope _ member read fails =>
      obtain ⟨token, inside, isVariable, failed⟩ := fails
      cases token with
      | filtered raw pipeline =>
          obtain ⟨bare, called⟩ := Evaluation.pipelineValue_declined failed
          exact ⟨template, member, tokens, raw, pipeline, scope, read, inside, failed, called,
            bare⟩
      | plain subject =>
          rw [tokenValue] at failed
          split at failed <;> cases failed
      | _ => cases isVariable

end Cause

theorem cause_of_resolveTemplate {template : String}
    (failed : (engine.resolveTemplate scope template).outcome = .error error) :
    engine.Cause [template] error := by
  unfold resolveTemplate at failed
  split at failed
  next refusal refused =>
    obtain ⟨strict, place, reason, rfl⟩ := Tokenizer.strict_of_tokenize_error refused
    cases failed
    exact .malformed strict place reason
  next => cases failed
  next => cases failed
  next tokens _ _ read =>
    exact .placeholder List.mem_cons_self read (Evaluation.failsAt_of_renderValue tokens failed)

theorem cause_of_resolveValue {value : Value}
    (failed : (engine.resolveValue scope value).outcome = .error error) :
    engine.Cause value.templates error.root := by
  obtain ⟨leaf, member, inside, fails, rfl⟩ := exists_leaf_of_resolveValue failed
  rw [Leaf.root_wrap, root_of_resolveTemplate fails]
  refine (cause_of_resolveTemplate fails).mono fun template only => ?_
  rw [List.mem_singleton.mp only]
  exact List.mem_map_of_mem member

end Engine

end Templating
