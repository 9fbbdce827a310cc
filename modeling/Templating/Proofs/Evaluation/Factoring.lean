import Templating.Proofs.Evaluation.Reads
import Templating.Proofs.NameMap.Lookup

/-!
# Pipelines in two parts

A variable that is there can go through a pipeline in two parts: a helper variable takes the value
that the first part gives, and goes through the second. For this the parts must agree on having a
fallback filter, since a pipeline is searched for one as a whole, and no argument of the second part
may be the helper. Between the parts nil is a value like any other.
-/

namespace Templating.Evaluation

variable {registry : Registry} {scope : Bindings} {name : String} {covered : Bool}
  {progress later : Progress} {call : FilterCall} {kind : FilterKind}
  {answer : Except FilterError Value}

/-! ## Variables that are there -/

theorem present_next (present : progress.missing = false)
    (done : progress.next name covered call kind answer = .ok later) : later.missing = false := by
  rcases Progress.next_ok_iff.mp done with ⟨value, -, rfl⟩ | ⟨-, -, -, rfl⟩
  · rw [present, Bool.false_and]
  · exact present

theorem present_applyCall (present : progress.missing = false)
    (done : (applyCall registry scope name covered progress call).outcome = .ok later) :
    later.missing = false := by
  obtain ⟨filter, arguments, -, -, answered, -⟩ := applyCall_ok done
  exact present_next present answered

/-- A variable that is there is not missing later on, whatever the filters give. -/
theorem present_applyCalls (calls : List FilterCall) (present : progress.missing = false)
    (done : (applyCalls registry scope name covered progress calls).outcome = .ok later) :
    later.missing = false := by
  induction calls generalizing progress with
  | nil =>
      cases done
      exact present
  | cons call rest ih =>
      rw [applyCalls, Traced.andThen_outcome] at done
      obtain ⟨next, first, done⟩ := Outcome.bind_eq_ok_iff.mp done
      exact ih (present_applyCall present first) done

theorem applyCall_of_present (present : progress.missing = false) (call : FilterCall)
    (name other : String) :
    applyCall registry scope name covered progress call =
      applyCall registry scope other covered progress call := by
  simp only [applyCall, Progress.next, present, Bool.and_false, Bool.false_eq_true, if_false]

/-- The name of a variable is asked for only when it is missing. -/
theorem applyCalls_of_present (present : progress.missing = false) (calls : List FilterCall)
    (name other : String) :
    applyCalls registry scope name covered progress calls =
      applyCalls registry scope other covered progress calls := by
  induction calls generalizing progress with
  | nil => rfl
  | cons call rest ih =>
      rw [applyCalls, applyCalls, applyCall_of_present present call name other]
      exact Traced.andThen_congr fun later done => ih (present_applyCall present done)

/-! ## Two parts -/

theorem isCovered_append {front back : List FilterCall}
    (alike : isCovered registry front = isCovered registry back) :
    isCovered registry (front ++ back) = isCovered registry front := by
  unfold isCovered at alike ⊢
  rw [List.any_append, ← alike, Bool.or_self]

/-- A variable that is there goes through a pipeline as it goes through the first part, and the
value then through the second part as the variable `helper`, if both parts or none of them have a
fallback filter and no argument of the second part is the helper. An error of the first part is the
error of the pipeline. -/
theorem pipelineValue_append (registry : Registry) (scope : Bindings) (name helper : String)
    (front back : List FilterCall) (bound : scope.contains name = true)
    (alike : isCovered registry front = isCovered registry back)
    (apart : helper ∉ back.flatMap FilterCall.references) :
    pipelineValue registry scope ⟨name, front ++ back⟩ =
      (pipelineValue registry scope ⟨name, front⟩).andThen fun value =>
        pipelineValue registry (scope.insert helper value) ⟨helper, back⟩ := by
  obtain ⟨start, found⟩ := Option.isSome_iff_exists.mp bound
  rw [pipelineValue_eq, pipelineValue_eq, isCovered_append alike, applyCalls_append,
    Traced.andThen_assoc, Traced.andThen_assoc]
  refine Traced.andThen_congr fun later done => ?_
  have present : later.missing = false := by
    rw [found] at done
    exact present_applyCalls front rfl done
  -- The helper is there whatever its value, as the variable was: both runs go on from `later`.
  have resumed : Progress.start ((scope.insert helper later.value).get? helper) = later := by
    rw [NameMap.get?_insert_self, Progress.start]
    exact congrArg (Progress.mk later.value) present.symm
  have sameScope : Bindings.AgreeOn (back.flatMap FilterCall.references)
      (scope.insert helper later.value) scope := by
    intro other reads
    apply NameMap.get?_insert_of_ne
    rintro rfl
    exact apart reads
  rw [Progress.finish_of_present present, Traced.andThen_ok, pipelineValue_eq, resumed, alike,
    applyCalls_agreeOn later back sameScope, applyCalls_of_present present back helper name]
  refine Traced.andThen_congr fun last done => ?_
  have present : last.missing = false := present_applyCalls back present done
  rw [Progress.finish_of_present present, Progress.finish_of_present present]

/-- The value between the parts is nil, the helper has the name of the variable itself, and the
second part fails at a filter that has no use for nil. -/
theorem pipelineValue_append_nil :
    let blank : Filter := .transform fun _ _ => .ok .nil
    let need : Filter := .transform fun value _ =>
      if value.isNil then .error (.allowsDefault "no value") else .ok value
    let registry : Registry := .ofPairs [("blank", blank), ("need", need)]
    let scope : Bindings := .ofPairs [("user", .string "ada"), ("zone", .string "eu")]
    let back : List FilterCall := [⟨"need", [.reference "zone"]⟩]
    scope.contains "user" = true ∧ "user" ∉ back.flatMap FilterCall.references ∧
      (pipelineValue registry scope ⟨"user", [⟨"blank", []⟩]⟩).outcome = .ok .nil ∧
      (pipelineValue registry (scope.insert "user" .nil) ⟨"user", back⟩).outcome =
        .error (.functionApplyFailed "need" (.allowsDefault "no value")) ∧
      pipelineValue registry scope ⟨"user", [⟨"blank", []⟩] ++ back⟩ =
        ((pipelineValue registry scope ⟨"user", [⟨"blank", []⟩]⟩).andThen fun value =>
          pipelineValue registry (scope.insert "user" value) ⟨"user", back⟩) := by
  intro blank need registry scope back
  have apart : "user" ∉ back.flatMap FilterCall.references := by decide
  refine ⟨rfl, apart, rfl, rfl, ?_⟩
  exact pipelineValue_append registry scope "user" "user" [⟨"blank", []⟩] back rfl rfl apart

end Templating.Evaluation
