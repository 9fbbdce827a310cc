import Templating.Evaluation
import Templating.Proofs.Outcome

/-!
# Steps of a pipeline

What a filter's answer can do to a pipeline, what one call can come to, and what a pipeline is made
of: its start, its calls one after the other, and its end. Whatever holds of pipelines is shown for
these, and not for the definitions behind them.
-/

namespace Templating

namespace Evaluation

variable {registry : Registry} {scope : Bindings} {name : String} {covered : Bool}
  {progress later : Progress} {call : FilterCall} {kind : FilterKind}
  {answer : Except FilterError Value} {error : TemplateError}

namespace Progress

/-- A pipeline goes on with the value that a filter gives, and it goes on as it was past an error
that allows a default if it has a fallback filter. -/
theorem next_ok_iff : progress.next name covered call kind answer = .ok later ↔
    (∃ value, answer = .ok value ∧
      later = ⟨value, progress.missing && !(kind = .fallback || !value.isNil)⟩) ∨
    ∃ reason, answer = .error (.allowsDefault reason) ∧ covered = true ∧ later = progress := by
  cases answer with
  | ok value => simp [next, @eq_comm _ later]
  | error inside =>
      cases inside with
      | allowsDefault reason =>
          cases covered with
          | true => simp [next, FilterError.isAllowsDefault, @eq_comm _ later]
          | false =>
              cases missing : progress.missing <;> simp [next, FilterError.isAllowsDefault, missing]
      | _ => simp [next, FilterError.isAllowsDefault]

/-- Otherwise it ends with an error: for a missing variable the error about that variable if the
filter allows a default, and else the error of the filter. -/
theorem next_error_iff : progress.next name covered call kind answer = .error error ↔
    (∃ reason, answer = .error (.allowsDefault reason) ∧ covered = false ∧
      progress.missing = true ∧ error = .variableNotFound name) ∨
    ∃ inside, answer = .error inside ∧
      (inside.isAllowsDefault = true → covered = false ∧ progress.missing = false) ∧
      error = .functionApplyFailed call.name inside := by
  cases answer with
  | ok value => simp [next]
  | error inside =>
      cases inside with
      | allowsDefault reason =>
          cases covered with
          | true => simp [next, FilterError.isAllowsDefault]
          | false =>
              cases missing : progress.missing <;>
                simp [next, FilterError.isAllowsDefault, missing, @eq_comm _ error]
      | _ => simp [next, FilterError.isAllowsDefault, @eq_comm _ error]

/-- A pipeline starts with the value of its variable, or with nil for a variable that the scope does
not have. -/
def start (found : Option Value) : Progress := ⟨found.getD .nil, found.isNone⟩

/-- A pipeline that ends while its variable is still missing has no value. -/
def finish (name : String) (progress : Progress) : Traced Value :=
  if progress.missing then .fail (.variableNotFound name) else .ok progress.value

theorem finish_of_missing (missing : progress.missing = true) :
    progress.finish name = .fail (.variableNotFound name) := by
  rw [finish, if_pos missing]

theorem finish_of_present (present : progress.missing = false) :
    progress.finish name = .ok progress.value := by
  rw [finish, present, if_neg Bool.false_ne_true]

end Progress

theorem isCovered_of_mem {calls : List FilterCall} {filter : Filter} (member : call ∈ calls)
    (found : registry.get? call.name = some filter) (isFallback : filter.kind = .fallback) :
    isCovered registry calls = true := by
  refine List.any_eq_true.mpr ⟨call, member, ?_⟩
  rw [Registry.isFallback, found]
  exact decide_eq_true isFallback

/-- A call fails since its filter is unknown or one of its arguments has no value, and else the
filter is called and its answer counts. -/
theorem applyCall_cases (registry : Registry) (scope : Bindings) (name : String) (covered : Bool)
    (progress : Progress) (call : FilterCall) :
    (registry.get? call.name = none ∧
      applyCall registry scope name covered progress call = .fail (.functionNotFound call.name)) ∨
    (∃ error, argumentValues scope call.arguments = .error error ∧
      applyCall registry scope name covered progress call = .fail error) ∨
    ∃ filter arguments, registry.get? call.name = some filter ∧
      argumentValues scope call.arguments = .ok arguments ∧
      applyCall registry scope name covered progress call =
        ⟨progress.next name covered call filter.kind (filter.apply progress.value arguments),
          [⟨call.name, progress.value, arguments, filter.cancels progress.value arguments⟩]⟩ := by
  unfold applyCall
  cases found : registry.get? call.name with
  | none => exact .inl ⟨rfl, rfl⟩
  | some filter =>
      cases values : argumentValues scope call.arguments with
      | error error => exact .inr (.inl ⟨error, rfl, rfl⟩)
      | ok arguments => exact .inr (.inr ⟨filter, arguments, rfl, rfl, rfl⟩)

/-- So a call after which the pipeline goes on has called its filter. -/
theorem applyCall_ok
    (done : (applyCall registry scope name covered progress call).outcome = .ok later) :
    ∃ filter arguments, registry.get? call.name = some filter ∧
      argumentValues scope call.arguments = .ok arguments ∧
      progress.next name covered call filter.kind (filter.apply progress.value arguments) =
        .ok later ∧
      (applyCall registry scope name covered progress call).calls =
        [⟨call.name, progress.value, arguments, filter.cancels progress.value arguments⟩] := by
  rcases applyCall_cases registry scope name covered progress call with
    ⟨-, fails⟩ | ⟨error, -, fails⟩ | ⟨filter, arguments, found, values, makes⟩
  · rw [fails] at done
    cases done
  · rw [fails] at done
    cases done
  · rw [makes] at done ⊢
    exact ⟨filter, arguments, found, values, done, rfl⟩

/-- A call that is not made ends the pipeline, and one that is made calls the filter of its name. -/
theorem applyCall_fail_or_made (registry : Registry) (scope : Bindings) (name : String)
    (covered : Bool) (progress : Progress) (call : FilterCall) :
    (∃ error, applyCall registry scope name covered progress call = .fail error) ∨
    ∃ made outcome, made.name = call.name ∧
      applyCall registry scope name covered progress call = ⟨outcome, [made]⟩ := by
  rcases applyCall_cases registry scope name covered progress call with
    ⟨-, fails⟩ | ⟨error, -, fails⟩ | ⟨filter, arguments, -, -, makes⟩
  · exact .inl ⟨_, fails⟩
  · exact .inl ⟨error, fails⟩
  · exact .inr ⟨_, _, rfl, makes⟩

/-- The calls of a pipeline are made in two runs, the second from where the first ends. -/
theorem applyCalls_append (registry : Registry) (scope : Bindings) (name : String)
    (covered : Bool) (progress : Progress) (front back : List FilterCall) :
    applyCalls registry scope name covered progress (front ++ back) =
      (applyCalls registry scope name covered progress front).andThen fun later =>
        applyCalls registry scope name covered later back := by
  induction front generalizing progress with
  | nil => rw [List.nil_append, applyCalls, Traced.andThen_ok]
  | cons call rest ih =>
      rw [List.cons_append, applyCalls, applyCalls, Traced.andThen_assoc]
      exact congrArg _ (funext ih)

theorem applyCalls_of_fail
    (fails : applyCall registry scope name covered progress call = .fail error)
    (rest : List FilterCall) :
    applyCalls registry scope name covered progress (call :: rest) = .fail error := by
  rw [applyCalls, fails]
  rfl

theorem applyCalls_of_made_error {made : Call}
    (makes : applyCall registry scope name covered progress call = ⟨.error error, [made]⟩)
    (rest : List FilterCall) :
    applyCalls registry scope name covered progress (call :: rest) = ⟨.error error, [made]⟩ := by
  rw [applyCalls, makes]
  rfl

theorem applyCalls_of_made_ok {made : Call}
    (makes : applyCall registry scope name covered progress call = ⟨.ok later, [made]⟩)
    (rest : List FilterCall) :
    applyCalls registry scope name covered progress (call :: rest) =
      ⟨(applyCalls registry scope name covered later rest).outcome,
        made :: (applyCalls registry scope name covered later rest).calls⟩ := by
  rw [applyCalls, makes]
  rfl

/-- The filters that a pipeline calls are its first ones, in order. -/
theorem names_prefix_applyCalls (calls : List FilterCall) :
    (applyCalls registry scope name covered progress calls).calls.map Call.name <+:
      calls.map FilterCall.name := by
  induction calls generalizing progress with
  | nil => exact List.prefix_rfl
  | cons call rest ih =>
      rcases applyCall_fail_or_made registry scope name covered progress call with
        ⟨error, fails⟩ | ⟨made, outcome, named, makes⟩
      · rw [applyCalls_of_fail fails]
        exact List.nil_prefix
      · cases outcome with
        | error error =>
            rw [applyCalls_of_made_error makes]
            exact List.cons_prefix_cons.mpr ⟨named, List.nil_prefix⟩
        | ok later =>
            rw [applyCalls_of_made_ok makes]
            exact List.cons_prefix_cons.mpr ⟨named, ih⟩

/-- A pipeline that ends well has called each of its filters, in order. -/
theorem names_applyCalls (calls : List FilterCall)
    (done : (applyCalls registry scope name covered progress calls).outcome = .ok later) :
    (applyCalls registry scope name covered progress calls).calls.map Call.name =
      calls.map FilterCall.name := by
  induction calls generalizing progress with
  | nil => rfl
  | cons call rest ih =>
      rw [applyCalls] at done ⊢
      rw [Traced.andThen_outcome] at done
      obtain ⟨next, first, done⟩ := Outcome.bind_eq_ok_iff.mp done
      obtain ⟨filter, arguments, -, -, -, made⟩ := applyCall_ok first
      rw [Traced.andThen_of_ok first, List.map_append, ih done, made]
      rfl

theorem length_applyCalls (calls : List FilterCall)
    (done : (applyCalls registry scope name covered progress calls).outcome = .ok later) :
    (applyCalls registry scope name covered progress calls).calls.length = calls.length := by
  simpa using congrArg List.length (names_applyCalls calls done)

theorem pipelineValue_eq (registry : Registry) (scope : Bindings) (pipeline : Pipeline) :
    pipelineValue registry scope pipeline =
      (applyCalls registry scope pipeline.name (isCovered registry pipeline.calls)
        (.start (scope.get? pipeline.name)) pipeline.calls).andThen
          (Progress.finish pipeline.name) := by
  unfold pipelineValue
  cases scope.get? pipeline.name <;> rfl

/-- The end of a pipeline makes no calls. -/
theorem calls_finish (name : String) (run : Traced Progress) :
    (run.andThen (Progress.finish name)).calls = run.calls := by
  cases done : run.outcome with
  | error error => rw [Traced.andThen_of_error done]
  | ok progress =>
      rw [Traced.andThen_of_ok done, Progress.finish]
      split <;> exact List.append_nil _

theorem calls_pipelineValue (pipeline : Pipeline) :
    (pipelineValue registry scope pipeline).calls =
      (applyCalls registry scope pipeline.name (isCovered registry pipeline.calls)
        (.start (scope.get? pipeline.name)) pipeline.calls).calls := by
  rw [pipelineValue_eq, calls_finish]

end Evaluation

end Templating
