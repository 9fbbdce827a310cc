import Templating.Engine
import Templating.Proofs.Evaluation.Pipeline
import Templating.Proofs.Template.Scan

/-!
# How an evaluation can fail

Evaluating tokens fails because a variable or a filter is not there, or because a filter fails.
Resolving a template can also fail because strict reading refuses it. No other error arises, and
none of these is a cycle.
-/

namespace Templating

universe u v

/-- The errors of evaluating tokens. -/
inductive TemplateError.OfEvaluation : TemplateError → Prop where
  | variableNotFound (name : String) : OfEvaluation (.variableNotFound name)
  | functionNotFound (name : String) : OfEvaluation (.functionNotFound name)
  | functionApplyFailed (name : String) (source : FilterError) :
      OfEvaluation (.functionApplyFailed name source)

/-- The errors of resolving a value, inside the names of the entries in which they arise. -/
def TemplateError.OfResolution (strict : Bool) (error : TemplateError) : Prop :=
  error.root.OfEvaluation ∨
    strict = true ∧ ∃ place reason, error.root = .malformedTemplate place reason

theorem TemplateError.OfEvaluation.root_eq {error : TemplateError} (arises : error.OfEvaluation) :
    error.root = error := by
  cases arises <;> rfl

theorem TemplateError.OfResolution.inVariable {strict : Bool} {error : TemplateError}
    (name : String) (arises : error.OfResolution strict) :
    (TemplateError.inVariable name error).OfResolution strict := arises

theorem TemplateError.OfResolution.not_isCircularDependency {strict : Bool} {error : TemplateError}
    (arises : error.OfResolution strict) : error.isCircularDependency = false := by
  unfold isCircularDependency
  rcases arises with inside | ⟨-, place, reason, inside⟩
  · generalize error.root = root at inside
    cases inside <;> rfl
  · rw [inside]

theorem TemplateError.OfResolution.not_isCancelled {strict : Bool} {error : TemplateError}
    (arises : error.OfResolution strict) : error.isCancelled = false := by
  unfold isCancelled
  rcases arises with inside | ⟨-, place, reason, inside⟩
  · generalize error.root = root at inside
    cases inside <;> rfl
  · rw [inside]

namespace Traced

variable {α : Type u} {β : Type v} {kind other : TemplateError → Prop}

/-- If the result is an error, it is one of this kind. -/
def FailsOnly (kind : TemplateError → Prop) (result : Traced α) : Prop :=
  ∀ error, result.outcome = .error error → kind error

theorem failsOnly_ok (value : α) : (ok value).FailsOnly kind := by
  intro error failed
  cases failed

theorem failsOnly_fail {error : TemplateError} (own : kind error) :
    (fail error : Traced α).FailsOnly kind := by
  intro error' failed
  cases failed
  exact own

theorem FailsOnly.andThen_of_ok {first : Traced α} {next : α → Traced β}
    (early : first.FailsOnly kind)
    (late : ∀ value, first.outcome = .ok value → (next value).FailsOnly kind) :
    (first.andThen next).FailsOnly kind := by
  intro error failed
  rw [andThen_outcome] at failed
  rcases Outcome.bind_eq_error_iff.mp failed with own | ⟨value, done, after⟩
  · exact early error own
  · exact late value done error after

theorem FailsOnly.andThen {first : Traced α} {next : α → Traced β} (early : first.FailsOnly kind)
    (late : ∀ value, (next value).FailsOnly kind) : (first.andThen next).FailsOnly kind :=
  early.andThen_of_ok fun value _ => late value

theorem FailsOnly.map {first : Traced α} (change : α → β) (early : first.FailsOnly kind) :
    (first.map change).FailsOnly kind :=
  fun error failed => early error (Outcome.map_eq_error_iff.mp failed)

theorem FailsOnly.mapError {first : Traced α} {change : TemplateError → TemplateError}
    (early : first.FailsOnly kind) (changed : ∀ error, kind error → other (change error)) :
    (first.mapError change).FailsOnly other := by
  intro error failed
  obtain ⟨inside, own, rfl⟩ := Outcome.mapError_eq_error_iff.mp failed
  exact changed inside (early inside own)

theorem FailsOnly.mono {result : Traced α} (early : result.FailsOnly kind)
    (weaker : ∀ error, kind error → other error) : result.FailsOnly other :=
  fun error failed => weaker error (early error failed)

end Traced

namespace Evaluation

open TemplateError (OfEvaluation)

variable {registry : Registry} {scope : Bindings}

/-- Arguments have no values for want of a variable that one of them refers to. -/
theorem argumentValues_error {error : TemplateError} (arguments : List Argument)
    (failed : argumentValues scope arguments = .error error) :
    ∃ name ∈ arguments.filterMap Argument.reference?,
      scope.get? name = none ∧ error = .variableNotFound name := by
  induction arguments with
  | nil => cases failed
  | cons argument rest ih =>
      cases argument with
      | literal literal => exact ih (Outcome.map_eq_error_iff.mp failed)
      | reference name =>
          rw [argumentValues] at failed
          cases found : scope.get? name with
          | none =>
              rw [found] at failed
              cases failed
              exact ⟨name, List.mem_cons_self, found, rfl⟩
          | some value =>
              rw [found] at failed
              obtain ⟨later, member, absent⟩ := ih (Outcome.map_eq_error_iff.mp failed)
              exact ⟨later, List.mem_cons_of_mem name member, absent⟩

theorem next_error {progress : Progress} {name : String} {covered : Bool} {call : FilterCall}
    {kind : FilterKind} {answer : Except FilterError Value} {error : TemplateError}
    (failed : progress.next name covered call kind answer = .error error) :
    OfEvaluation error := by
  rcases Progress.next_error_iff.mp failed with ⟨-, -, -, -, rfl⟩ | ⟨inside, -, -, rfl⟩
  · exact .variableNotFound name
  · exact .functionApplyFailed call.name inside

theorem failsOnly_applyCall (name : String) (covered : Bool) (progress : Progress)
    (call : FilterCall) :
    (applyCall registry scope name covered progress call).FailsOnly OfEvaluation := by
  rcases applyCall_cases registry scope name covered progress call with
    ⟨-, fails⟩ | ⟨error, unbound, fails⟩ | ⟨filter, arguments, -, -, makes⟩
  · rw [fails]
    exact Traced.failsOnly_fail (.functionNotFound call.name)
  · rw [fails]
    obtain ⟨missing, -, -, rfl⟩ := argumentValues_error call.arguments unbound
    exact Traced.failsOnly_fail (.variableNotFound missing)
  · rw [makes]
    exact fun error failed => next_error failed

theorem failsOnly_applyCalls (name : String) (covered : Bool) (progress : Progress)
    (calls : List FilterCall) :
    (applyCalls registry scope name covered progress calls).FailsOnly OfEvaluation := by
  induction calls generalizing progress with
  | nil => exact Traced.failsOnly_ok progress
  | cons call rest ih =>
      rw [applyCalls]
      exact (failsOnly_applyCall name covered progress call).andThen ih

theorem failsOnly_pipelineValue (pipeline : Pipeline) :
    (pipelineValue registry scope pipeline).FailsOnly OfEvaluation := by
  rw [pipelineValue_eq]
  refine (failsOnly_applyCalls pipeline.name _ _ pipeline.calls).andThen fun progress => ?_
  unfold Progress.finish
  split
  · exact Traced.failsOnly_fail (.variableNotFound pipeline.name)
  · exact Traced.failsOnly_ok progress.value

/-- A token that has a value fails for want of a variable or through a filter. -/
theorem failsOnly_tokenValue {token : Token} (isVariable : token.isVariable = true) :
    (tokenValue registry scope token).FailsOnly OfEvaluation := by
  cases token with
  | plain name =>
      rw [tokenValue]
      cases scope.get? name with
      | none => exact Traced.failsOnly_fail (.variableNotFound name)
      | some value => exact Traced.failsOnly_ok (plainForm value)
  | filtered raw pipeline => exact failsOnly_pipelineValue pipeline
  | _ => cases isVariable

/-- One of the tokens has a value and fails with this error. -/
def FailsAt (registry : Registry) (scope : Bindings) (tokens : List Token)
    (error : TemplateError) : Prop :=
  ∃ token ∈ tokens, token.isVariable = true ∧
    (tokenValue registry scope token).outcome = .error error

variable {error : TemplateError}

theorem FailsAt.ofEvaluation {tokens : List Token} (fails : FailsAt registry scope tokens error) :
    error.OfEvaluation := by
  obtain ⟨token, -, isVariable, failed⟩ := fails
  exact failsOnly_tokenValue isVariable error failed

theorem tokenText_error {token : Token}
    (failed : (tokenText registry scope token).outcome = .error error) :
    token.isVariable = true ∧ (tokenValue registry scope token).outcome = .error error := by
  cases token with
  | plain name => exact ⟨rfl, Outcome.map_eq_error_iff.mp failed⟩
  | filtered raw pipeline => exact ⟨rfl, Outcome.map_eq_error_iff.mp failed⟩
  | _ => cases failed

/-- Tokens fail through one of them. -/
theorem failsAt_of_render (tokens : List Token)
    (failed : (render registry scope tokens).outcome = .error error) :
    FailsAt registry scope tokens error := by
  induction tokens with
  | nil => cases failed
  | cons token rest ih =>
      rw [FailsAt, List.exists_mem_cons_iff]
      rw [render, Traced.andThen_outcome] at failed
      rcases Outcome.bind_eq_error_iff.mp failed with here | ⟨text, -, later⟩
      · exact .inl (tokenText_error here)
      · exact .inr (ih (Outcome.map_eq_error_iff.mp later))

theorem failsAt_of_renderValue (tokens : List Token)
    (failed : (renderValue registry scope tokens).outcome = .error error) :
    FailsAt registry scope tokens error := by
  unfold renderValue at failed
  split at failed
  next token =>
    split at failed
    next isVariable => exact ⟨token, List.mem_singleton_self token, isVariable, failed⟩
    next => exact failsAt_of_render [token] (Outcome.map_eq_error_iff.mp failed)
  next => exact failsAt_of_render tokens (Outcome.map_eq_error_iff.mp failed)

end Evaluation

namespace Engine

open TemplateError (OfResolution)

variable {engine : Engine} {scope : Bindings}

theorem failsOnly_resolveTemplate (template : String) :
    (engine.resolveTemplate scope template).FailsOnly
      (OfResolution engine.settings.strictSyntax) := by
  unfold resolveTemplate
  split
  next error refused =>
    obtain ⟨strict, place, reason, rfl⟩ := Tokenizer.strict_of_tokenize_error refused
    exact Traced.failsOnly_fail (.inr ⟨strict, place, reason, rfl⟩)
  · exact Traced.failsOnly_ok _
  · exact Traced.failsOnly_ok _
  · intro error failed
    have arises := (Evaluation.failsAt_of_renderValue _ failed).ofEvaluation
    refine .inl ?_
    rw [arises.root_eq]
    exact arises

end Engine

end Templating
