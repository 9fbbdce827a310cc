import Templating.Proofs.Evaluation.Reads
import Templating.Proofs.Evaluation.Unbound
import Templating.Proofs.NameMap.Lookup

/-!
# Deferred errors

A pipeline whose variable is not there runs in step with one whose variable is nil: both have the
same value and make the same calls. They part only where the error about the variable is raised at
last, at a filter that has no use for nil or at the end, and there the run on nil reports this
filter or ends on nil. Up to there every answer was idle: nil, or an error that allows a default,
and nothing but such errors from fallback filters.
-/

namespace Templating.Evaluation

variable {registry : Registry} {scope : Bindings} {name : String} {covered : Bool}
  {progress later deferred onNil : Progress} {call : FilterCall} {kind : FilterKind}
  {answer : Except FilterError Value}

/-! ## Two runs in step -/

/-- A pipeline whose variable may be missing, beside one with the same value whose variable is not.
Only nil counts as missing. -/
structure Progress.Mirrors (deferred onNil : Progress) : Prop where
  value : deferred.value = onNil.value
  present : onNil.missing = false
  nil : deferred.missing = true → deferred.value = .nil

/-- Both runs go on, or they end with the same error, or only the first raises the error about its
variable, at a filter that allows a default. -/
inductive Parallel (name : String) :
    Except TemplateError Progress → Except TemplateError Progress → Prop where
  | running {deferred onNil : Progress} (mirrors : deferred.Mirrors onNil) :
      Parallel name (.ok deferred) (.ok onNil)
  | failed (error : TemplateError) : Parallel name (.error error) (.error error)
  | raised (function reason : String) :
      Parallel name (.error (.variableNotFound name))
        (.error (.functionApplyFailed function (.allowsDefault reason)))

/-- Both runs make the same calls on the way to parallel outcomes. -/
structure InStep (name : String) (deferred onNil : Traced Progress) : Prop where
  calls : deferred.calls = onNil.calls
  outcomes : Parallel name deferred.outcome onNil.outcome

theorem parallel_next (mirrors : deferred.Mirrors onNil) (call : FilterCall) (kind : FilterKind)
    (answer : Except FilterError Value) :
    Parallel name (deferred.next name covered call kind answer)
      (onNil.next name covered call kind answer) := by
  cases answer with
  | ok value =>
      refine .running ⟨rfl, by rw [mirrors.present, Bool.false_and], fun missing => ?_⟩
      simp only [Bool.and_eq_true, Bool.not_or, Bool.not_not, Value.isNil_iff] at missing
      exact missing.2.2
  | error error =>
      cases error with
      | allowsDefault reason =>
          simp only [Progress.next, FilterError.isAllowsDefault, mirrors.present]
          cases covered with
          | true => exact .running mirrors
          | false =>
              cases deferred.missing with
              | true => exact .raised call.name reason
              | false => exact .failed _
      | _ => exact .failed _

theorem inStep_applyCall (mirrors : deferred.Mirrors onNil) (call : FilterCall) :
    InStep name (applyCall registry scope name covered deferred call)
      (applyCall registry scope name covered onNil call) := by
  unfold applyCall
  cases registry.get? call.name with
  | none => exact ⟨rfl, .failed _⟩
  | some filter =>
      dsimp only
      cases argumentValues scope call.arguments with
      | error error => exact ⟨rfl, .failed error⟩
      | ok arguments =>
          rw [← mirrors.value]
          exact ⟨rfl, parallel_next mirrors call filter.kind _⟩

theorem InStep.andThen {first second : Traced Progress} {next : Progress → Traced Progress}
    (early : InStep name first second)
    (late : ∀ deferred onNil : Progress, deferred.Mirrors onNil →
      InStep name (next deferred) (next onNil)) :
    InStep name (first.andThen next) (second.andThen next) := by
  obtain ⟨outcome, calls⟩ := first
  obtain ⟨outcome', calls'⟩ := second
  obtain ⟨rfl : calls = calls', outcomes⟩ := early
  cases outcomes with
  | running mirrors =>
      have rest := late _ _ mirrors
      exact ⟨congrArg (calls ++ ·) rest.calls, rest.outcomes⟩
  | failed error => exact ⟨rfl, .failed error⟩
  | raised function reason => exact ⟨rfl, .raised function reason⟩

theorem inStep_applyCalls (mirrors : deferred.Mirrors onNil) (calls : List FilterCall) :
    InStep name (applyCalls registry scope name covered deferred calls)
      (applyCalls registry scope name covered onNil calls) := by
  induction calls generalizing deferred onNil with
  | nil => exact ⟨rfl, .running mirrors⟩
  | cons call rest ih =>
      rw [applyCalls, applyCalls]
      exact (inStep_applyCall mirrors call).andThen fun _ _ => ih

/-! ## Idle answers -/

/-- An answer that leaves a missing variable missing. -/
inductive Idle : FilterKind → Except FilterError Value → Prop where
  | nil : Idle .transform (.ok .nil)
  | declined (kind : FilterKind) (reason : String) : Idle kind (.error (.allowsDefault reason))

/-- The filter of a call that was made had an idle answer. -/
def IdleCall (registry : Registry) (made : Call) : Prop :=
  ∀ filter, registry.get? made.name = some filter →
    Idle filter.kind (filter.apply made.input made.arguments)

theorem idle_of_missing (done : progress.next name covered call kind answer = .ok later)
    (missing : later.missing = true) : progress.missing = true ∧ Idle kind answer := by
  rcases Progress.next_ok_iff.mp done with ⟨value, rfl, rfl⟩ | ⟨reason, rfl, -, rfl⟩
  · simp only [Bool.and_eq_true, Bool.not_or, Bool.not_not, Value.isNil_iff] at missing
    obtain ⟨before, isTransform, rfl⟩ := missing
    cases kind with
    | transform => exact ⟨before, .nil⟩
    | fallback => cases isTransform
  · exact ⟨missing, .declined kind reason⟩

theorem idle_of_notFound
    (failed : progress.next name covered call kind answer = .error (.variableNotFound name)) :
    progress.missing = true ∧ covered = false ∧ Idle kind answer := by
  rcases Progress.next_error_iff.mp failed with
    ⟨reason, rfl, uncovered, missing, -⟩ | ⟨inside, -, -, other⟩
  · exact ⟨missing, uncovered, .declined kind reason⟩
  · cases other

theorem idleCall_of_idle {filter : Filter} {input : Value} {arguments : List Value}
    {cancels : Bool} (found : registry.get? name = some filter)
    (idle : Idle filter.kind (filter.apply input arguments)) :
    ∀ made ∈ [Call.mk name input arguments cancels], IdleCall registry made := by
  intro made member other found'
  obtain rfl := List.mem_singleton.mp member
  cases found.symm.trans found'
  exact idle

theorem idle_of_applyCall_missing
    (done : (applyCall registry scope name covered progress call).outcome = .ok later)
    (missing : later.missing = true) :
    progress.missing = true ∧
      ∀ made ∈ (applyCall registry scope name covered progress call).calls,
        IdleCall registry made := by
  obtain ⟨filter, arguments, found, -, answered, made⟩ := applyCall_ok done
  obtain ⟨before, idle⟩ := idle_of_missing answered missing
  rw [made]
  exact ⟨before, idleCall_of_idle found idle⟩

theorem idle_of_applyCall_notFound (apart : name ∉ call.references)
    (failed : (applyCall registry scope name covered progress call).outcome =
      .error (.variableNotFound name)) :
    progress.missing = true ∧ covered = false ∧
      ∀ made ∈ (applyCall registry scope name covered progress call).calls,
        IdleCall registry made := by
  rcases applyCall_cases registry scope name covered progress call with
    ⟨-, fails⟩ | ⟨error, unbound, fails⟩ | ⟨filter, arguments, found, -, makes⟩
  · rw [fails] at failed
    cases failed
  · rw [fails] at failed
    cases failed
    exact absurd (unbound_argumentValues call.arguments unbound name rfl).1 apart
  · rw [makes] at failed ⊢
    obtain ⟨missing, uncovered, idle⟩ := idle_of_notFound failed
    exact ⟨missing, uncovered, idleCall_of_idle found idle⟩

/-- A pipeline that ends well while its variable is missing had nothing but idle answers. -/
theorem idle_of_applyCalls_missing (calls : List FilterCall)
    (done : (applyCalls registry scope name covered progress calls).outcome = .ok later)
    (missing : later.missing = true) :
    progress.missing = true ∧
      ∀ made ∈ (applyCalls registry scope name covered progress calls).calls,
        IdleCall registry made := by
  induction calls generalizing progress with
  | nil =>
      cases done
      exact ⟨missing, fun made member => absurd member List.not_mem_nil⟩
  | cons call rest ih =>
      rw [applyCalls] at done ⊢
      rw [Traced.andThen_outcome] at done
      obtain ⟨next, first, done⟩ := Outcome.bind_eq_ok_iff.mp done
      obtain ⟨between, idleRest⟩ := ih done
      obtain ⟨before, idleFirst⟩ := idle_of_applyCall_missing first between
      rw [Traced.andThen_of_ok first]
      exact ⟨before, List.forall_mem_append.mpr ⟨idleFirst, idleRest⟩⟩

/-- So had a pipeline in which the error about the variable is raised, and it has no fallback
filter. -/
theorem idle_of_applyCalls_notFound (calls : List FilterCall)
    (apart : name ∉ calls.flatMap FilterCall.references)
    (failed : (applyCalls registry scope name covered progress calls).outcome =
      .error (.variableNotFound name)) :
    progress.missing = true ∧ covered = false ∧
      ∀ made ∈ (applyCalls registry scope name covered progress calls).calls,
        IdleCall registry made := by
  induction calls generalizing progress with
  | nil => cases failed
  | cons call rest ih =>
      rw [List.flatMap_cons, List.mem_append, not_or] at apart
      rw [applyCalls] at failed ⊢
      rw [Traced.andThen_outcome] at failed
      rcases Outcome.bind_eq_error_iff.mp failed with first | ⟨next, first, failed⟩
      · rw [Traced.andThen_of_error first]
        exact idle_of_applyCall_notFound apart.1 first
      · obtain ⟨between, uncovered, idleRest⟩ := ih apart.2 failed
        obtain ⟨before, idleFirst⟩ := idle_of_applyCall_missing first between
        rw [Traced.andThen_of_ok first]
        exact ⟨before, uncovered, List.forall_mem_append.mpr ⟨idleFirst, idleRest⟩⟩

/-! ## The whole pipeline -/

theorem mirrors_start : (Progress.start none).Mirrors (.start (some .nil)) :=
  ⟨rfl, rfl, fun _ => rfl⟩

/-- Setting the variable to nil changes where a pipeline starts, and nothing that its arguments
read. -/
theorem pipelineValue_insert_nil (pipeline : Pipeline)
    (apart : pipeline.name ∉ pipeline.calls.flatMap FilterCall.references) :
    pipelineValue registry (scope.insert pipeline.name .nil) pipeline =
      (applyCalls registry scope pipeline.name (isCovered registry pipeline.calls)
        (.start (some .nil)) pipeline.calls).andThen (Progress.finish pipeline.name) := by
  rw [pipelineValue_eq, NameMap.get?_insert_self]
  rw [applyCalls_agreeOn]
  intro other reads
  apply NameMap.get?_insert_of_ne
  rintro rfl
  exact apart reads

/-- Runs in step finish with the same result, or the first raises the error about its variable and
the second ends on nil or at a filter that allows a default. -/
theorem InStep.finish {first second : Traced Progress} (run : InStep name first second) :
    let deferred := first.andThen (Progress.finish name)
    let onNil := second.andThen (Progress.finish name)
    deferred.calls = onNil.calls ∧
      (deferred.outcome = onNil.outcome ∨
        deferred.outcome = .error (.variableNotFound name) ∧
          (onNil.outcome = .ok .nil ∨ ∃ function reason,
            onNil.outcome = .error (.functionApplyFailed function (.allowsDefault reason)))) := by
  obtain ⟨outcome, calls⟩ := first
  obtain ⟨outcome', calls'⟩ := second
  obtain ⟨rfl : calls = calls', outcomes⟩ := run
  cases outcomes with
  | failed error => exact ⟨rfl, .inl rfl⟩
  | raised function reason => exact ⟨rfl, .inr ⟨rfl, .inr ⟨function, reason, rfl⟩⟩⟩
  | @running deferred onNil mirrors =>
      have second : onNil.finish name = .ok onNil.value :=
        Progress.finish_of_present mirrors.present
      cases missing : deferred.missing with
      | true =>
          have first : deferred.finish name = .fail (.variableNotFound name) :=
            Progress.finish_of_missing missing
          have isNil : onNil.value = .nil := mirrors.value.symm.trans (mirrors.nil missing)
          simp [Traced.andThen, first, second, isNil, Traced.ok, Traced.fail]
      | false =>
          have first : deferred.finish name = .ok deferred.value :=
            Progress.finish_of_present missing
          simp [Traced.andThen, first, second, mirrors.value]

/-- Where the error about a missing variable is raised, all answers were idle; and unless it is
raised at a filter of a pipeline without fallback filters, each filter was called. -/
theorem idle_of_pipelineValue_notFound (pipeline : Pipeline)
    (apart : pipeline.name ∉ pipeline.calls.flatMap FilterCall.references)
    (failed : (pipelineValue registry scope pipeline).outcome =
      .error (.variableNotFound pipeline.name)) :
    (∀ made ∈ (pipelineValue registry scope pipeline).calls, IdleCall registry made) ∧
      (isCovered registry pipeline.calls = true →
        (pipelineValue registry scope pipeline).calls.map Call.name =
          pipeline.calls.map FilterCall.name) := by
  rw [calls_pipelineValue]
  rw [pipelineValue_eq, Traced.andThen_outcome] at failed
  rcases Outcome.bind_eq_error_iff.mp failed with early | ⟨progress, done, late⟩
  · obtain ⟨-, uncovered, idle⟩ := idle_of_applyCalls_notFound pipeline.calls apart early
    refine ⟨idle, fun covered => ?_⟩
    cases uncovered.symm.trans covered
  · have missing : progress.missing = true := by
      by_contra present
      rw [Progress.finish, if_neg present] at late
      cases late
    obtain ⟨-, idle⟩ := idle_of_applyCalls_missing pipeline.calls done missing
    exact ⟨idle, fun _ => names_applyCalls pipeline.calls done⟩

/-- A fallback filter that always gives a value, or an error of another kind, is called and has no
idle answer to give. -/
theorem pipelineValue_ne_notFound {filter : Filter} (pipeline : Pipeline)
    (apart : pipeline.name ∉ pipeline.calls.flatMap FilterCall.references)
    (member : call ∈ pipeline.calls) (found : registry.get? call.name = some filter)
    (isFallback : filter.kind = .fallback)
    (never : ∀ input arguments reason,
      filter.apply input arguments ≠ .error (.allowsDefault reason)) :
    (pipelineValue registry scope pipeline).outcome ≠
      .error (.variableNotFound pipeline.name) := by
  intro failed
  obtain ⟨idle, all⟩ := idle_of_pipelineValue_notFound pipeline apart failed
  have called : call.name ∈ (pipelineValue registry scope pipeline).calls.map Call.name := by
    rw [all (isCovered_of_mem member found isFallback)]
    exact List.mem_map_of_mem member
  obtain ⟨made, memberMade, name⟩ := List.mem_map.mp called
  have answered := idle made memberMade filter (name ▸ found)
  rw [isFallback] at answered
  generalize given : filter.apply made.input made.arguments = answer at answered
  cases answered with
  | declined _ reason => exact never _ _ reason given

/-- A pipeline whose variable is missing, and is no argument either, makes the calls that it makes
when the variable is nil. It has the same result, or it raises the error about the variable where
the other ends on nil or at a filter that allows a default; then no filter gave a value but nil, and
no fallback filter gave any. With a fallback filter that always gives a value or an error of another
kind, the results are the same. -/
theorem pipelineValue_missing_eq_nil (registry : Registry) (scope : Bindings) (pipeline : Pipeline)
    (absent : scope.get? pipeline.name = none)
    (apart : pipeline.name ∉ pipeline.calls.flatMap FilterCall.references) :
    let deferred := pipelineValue registry scope pipeline
    let onNil := pipelineValue registry (scope.insert pipeline.name .nil) pipeline
    deferred.calls = onNil.calls ∧
    (deferred.outcome = onNil.outcome ∨
      deferred.outcome = .error (.variableNotFound pipeline.name) ∧
        (onNil.outcome = .ok .nil ∨ ∃ function reason,
          onNil.outcome = .error (.functionApplyFailed function (.allowsDefault reason)))) ∧
    (deferred.outcome = .error (.variableNotFound pipeline.name) →
      ∀ made ∈ deferred.calls, ∀ filter, registry.get? made.name = some filter →
        ∀ value, filter.apply made.input made.arguments = .ok value →
          value = .nil ∧ filter.kind ≠ .fallback) ∧
    ((∃ call ∈ pipeline.calls, ∃ filter, registry.get? call.name = some filter ∧
      filter.kind = .fallback ∧ ∀ input arguments reason,
        filter.apply input arguments ≠ .error (.allowsDefault reason)) → deferred = onNil) := by
  intro deferred onNil
  have starts : InStep pipeline.name
      (applyCalls registry scope pipeline.name (isCovered registry pipeline.calls) (.start none)
        pipeline.calls)
      (applyCalls registry scope pipeline.name (isCovered registry pipeline.calls)
        (.start (some .nil)) pipeline.calls) := inStep_applyCalls mirrors_start pipeline.calls
  have first : deferred = _ := pipelineValue_eq registry scope pipeline
  have second : onNil = _ := pipelineValue_insert_nil pipeline apart
  rw [absent] at first
  obtain ⟨calls, outcomes⟩ := starts.finish
  rw [← first, ← second] at calls outcomes
  refine ⟨calls, outcomes, fun failed => ?_, ?_⟩
  · intro made member filter found value gives
    have idle := (idle_of_pipelineValue_notFound pipeline apart failed).1 made member filter found
    rw [gives] at idle
    generalize filter.kind = kind at idle
    cases idle
    exact ⟨rfl, by rintro ⟨⟩⟩
  · rintro ⟨call, member, filter, found, isFallback, never⟩
    rcases outcomes with same | ⟨failed, -⟩
    · exact Traced.ext same calls
    · exact absurd failed (pipelineValue_ne_notFound pipeline apart member found isFallback never)

/-- A filter that has no use for nil parts the two pipelines, and a fallback filter after it keeps
them together. -/
theorem pipelineValue_missing_eq_nil_needed :
    let need : Filter := .transform fun value _ =>
      if value.isNil then .error (.allowsDefault "no value") else .ok value
    let other : Filter := .fallback fun _ arguments => .ok (arguments.headD .nil)
    let registry : Registry := .ofPairs [("need", need), ("other", other)]
    let scope : Bindings := .ofPairs [("zone", .string "eu")]
    let bare : Pipeline := ⟨"user", [⟨"need", []⟩]⟩
    let mended : Pipeline := ⟨"user", [⟨"need", []⟩, ⟨"other", [.reference "zone"]⟩]⟩
    (pipelineValue registry scope bare).outcome = .error (.variableNotFound "user") ∧
      (pipelineValue registry (scope.insert "user" .nil) bare).outcome =
        .error (.functionApplyFailed "need" (.allowsDefault "no value")) ∧
      (pipelineValue registry scope bare).calls = [⟨"need", .nil, [], false⟩] ∧
      (pipelineValue registry (scope.insert "user" .nil) bare).calls =
        [⟨"need", .nil, [], false⟩] ∧
      pipelineValue registry scope mended =
        pipelineValue registry (scope.insert "user" .nil) mended ∧
      (pipelineValue registry scope mended).outcome = .ok (.string "eu") := by
  intro need other registry scope bare mended
  obtain ⟨calls, -, -, -⟩ := pipelineValue_missing_eq_nil registry scope bare rfl (by decide)
  obtain ⟨-, -, -, same⟩ := pipelineValue_missing_eq_nil registry scope mended rfl (by decide)
  have made : (pipelineValue registry scope bare).calls = [⟨"need", .nil, [], false⟩] := rfl
  refine ⟨rfl, rfl, made, calls ▸ made, same ?_, rfl⟩
  refine ⟨⟨"other", [.reference "zone"]⟩, List.mem_cons_of_mem _ List.mem_cons_self, other, rfl,
    rfl, ?_⟩
  rintro input arguments reason ⟨⟩

end Templating.Evaluation
