import Templating.Proofs.Evaluation.Pipeline

/-!
# Swallowed errors

A pipeline with a fallback filter passes over a transform that fails with an error that allows a
default: it goes on as if the transform had not been written. So each of these calls can be deleted,
wherever the fallback filter stands, and so can all of them. The result stays, and the other calls
are made as before.
-/

namespace Templating

/-- The filter of the call is a transform, and it fails with an error that allows a default. -/
def Call.isSwallowed (registry : Registry) (made : Call) : Bool :=
  match registry.get? made.name with
  | none => false
  | some filter =>
      match filter.kind, filter.apply made.input made.arguments with
      | .transform, .error (.allowsDefault _) => true
      | _, _ => false

theorem Call.isSwallowed_iff {registry : Registry} {made : Call} :
    made.isSwallowed registry = true ↔
      ∃ filter reason, registry.get? made.name = some filter ∧ filter.kind = .transform ∧
        filter.apply made.input made.arguments = .error (.allowsDefault reason) := by
  rw [isSwallowed]
  cases registry.get? made.name with
  | none => simp
  | some filter => dsimp only; split <;> simp_all

theorem Call.not_isFallback_of_isSwallowed {registry : Registry} {made : Call}
    (swallowed : made.isSwallowed registry = true) : registry.isFallback made.name = false := by
  obtain ⟨filter, reason, found, isTransform, -⟩ := isSwallowed_iff.mp swallowed
  rw [Registry.isFallback, found]
  simp [isTransform]

namespace Evaluation

variable {registry : Registry} {scope : Bindings} {name : String} {progress : Progress}
  {call : FilterCall} {made : Call}

/-- What is left of a pipeline without its swallowed calls. Calls that were not made are left. -/
def unswallowed (registry : Registry) : List FilterCall → List Call → List FilterCall
  | [], _ => []
  | calls, [] => calls
  | call :: rest, made :: later =>
      if made.isSwallowed registry then unswallowed registry rest later
      else call :: unswallowed registry rest later

theorem unswallowed_of_swallowed (swallowed : made.isSwallowed registry = true)
    (rest : List FilterCall) (later : List Call) :
    unswallowed registry (call :: rest) (made :: later) = unswallowed registry rest later := by
  rw [unswallowed, if_pos swallowed]

theorem unswallowed_of_kept (kept : made.isSwallowed registry = false)
    (rest : List FilterCall) (later : List Call) :
    unswallowed registry (call :: rest) (made :: later) =
      call :: unswallowed registry rest later := by
  rw [unswallowed, kept, if_neg Bool.false_ne_true]

/-- A swallowed call leaves a pipeline as it was. -/
theorem applyCall_of_swallowed {outcome : Except TemplateError Progress}
    (makes : applyCall registry scope name true progress call = ⟨outcome, [made]⟩)
    (swallowed : made.isSwallowed registry = true) : outcome = .ok progress := by
  rcases applyCall_cases registry scope name true progress call with
    ⟨-, fails⟩ | ⟨error, -, fails⟩ | ⟨filter, arguments, found, -, applies⟩
  · cases fails.symm.trans makes
  · cases fails.symm.trans makes
  · cases applies.symm.trans makes
    obtain ⟨other, reason, found', -, declined⟩ := Call.isSwallowed_iff.mp swallowed
    cases found.symm.trans found'
    exact Progress.next_ok_iff.mpr (.inr ⟨reason, declined, rfl, rfl⟩)

/-! ## All swallowed calls -/

/-- Without the swallowed calls the outcome is the same, and only these calls are missing. -/
theorem applyCalls_unswallowed (progress : Progress) (calls : List FilterCall) :
    let run := applyCalls registry scope name true progress calls
    applyCalls registry scope name true progress (unswallowed registry calls run.calls) =
      ⟨run.outcome, run.calls.filter fun made => !made.isSwallowed registry⟩ := by
  dsimp only
  induction calls generalizing progress with
  | nil => rfl
  | cons call rest ih =>
      rcases applyCall_fail_or_made registry scope name true progress call with
        ⟨error, fails⟩ | ⟨made, outcome, -, makes⟩
      · rw [applyCalls_of_fail fails rest]
        exact applyCalls_of_fail fails rest
      · cases swallowed : made.isSwallowed registry with
        | true =>
            cases applyCall_of_swallowed makes swallowed
            rw [applyCalls_of_made_ok makes, unswallowed_of_swallowed swallowed, ih,
              List.filter_cons_of_neg (by simp [swallowed])]
        | false =>
            cases outcome with
            | error error =>
                rw [applyCalls_of_made_error makes, unswallowed_of_kept swallowed,
                  applyCalls_of_made_error makes, List.filter_cons_of_pos (by simp [swallowed])]
                rfl
            | ok later =>
                rw [applyCalls_of_made_ok makes, unswallowed_of_kept swallowed,
                  applyCalls_of_made_ok makes, ih, List.filter_cons_of_pos (by simp [swallowed])]

/-- The filter of a swallowed call is a transform, so a pipeline keeps its fallback filters. -/
theorem isCovered_unswallowed {calls : List FilterCall} {trace : List Call}
    (named : trace.map Call.name <+: calls.map FilterCall.name) :
    isCovered registry (unswallowed registry calls trace) = isCovered registry calls := by
  induction calls generalizing trace with
  | nil => cases trace <;> rfl
  | cons call rest ih =>
      cases trace with
      | nil => rfl
      | cons made later =>
          obtain ⟨same, named⟩ := List.cons_prefix_cons.mp named
          cases swallowed : made.isSwallowed registry with
          | true =>
              have transform := Call.not_isFallback_of_isSwallowed swallowed
              rw [unswallowed_of_swallowed swallowed, ih named, isCovered, isCovered,
                List.any_cons, ← same, transform, Bool.false_or]
          | false =>
              rw [unswallowed_of_kept swallowed, isCovered, List.any_cons]
              exact congrArg _ (ih named)

/-! ## One swallowed call -/

/-- If a call was made in its place, the calls before it went well and it was reached. -/
theorem reached_of_getElem? {before after : List FilterCall}
    (here : (applyCalls registry scope name true progress (before ++ call :: after)).calls[
      before.length]? = some made) :
    ∃ later outcome, made.name = call.name ∧
      (applyCalls registry scope name true progress before).outcome = .ok later ∧
      applyCall registry scope name true later call = ⟨outcome, [made]⟩ := by
  rw [applyCalls_append] at here
  -- If `before` stops early, its trace is too short for an entry in the place of `call`.
  cases ran : (applyCalls registry scope name true progress before).outcome with
  | error error =>
      have bound : (applyCalls registry scope name true progress before).calls.length ≤
          before.length := by
        simpa using (names_prefix_applyCalls before).length_le
      rw [Traced.andThen_of_error ran, List.getElem?_eq_none bound] at here
      cases here
  | ok later =>
      have length := length_applyCalls before ran
      rw [Traced.andThen_of_ok ran, List.getElem?_append_right (Nat.le_of_eq length), length,
        Nat.sub_self] at here
      rcases applyCall_fail_or_made registry scope name true later call with
        ⟨error, fails⟩ | ⟨other, outcome, named, makes⟩
      · rw [applyCalls_of_fail fails] at here
        cases here
      · cases outcome with
        | error error =>
            rw [applyCalls_of_made_error makes] at here
            cases here
            exact ⟨later, _, named, rfl, makes⟩
        | ok next =>
            rw [applyCalls_of_made_ok makes] at here
            cases here
            exact ⟨later, _, named, rfl, makes⟩

/-- Without one swallowed call a pipeline has the same outcome, and only this call is missing. -/
theorem applyCalls_delete {before after : List FilterCall}
    (here : (applyCalls registry scope name true progress (before ++ call :: after)).calls[
      before.length]? = some made) (swallowed : made.isSwallowed registry = true) :
    let run := applyCalls registry scope name true progress (before ++ call :: after)
    applyCalls registry scope name true progress (before ++ after) =
      ⟨run.outcome, run.calls.eraseIdx before.length⟩ := by
  obtain ⟨later, outcome, -, ran, makes⟩ := reached_of_getElem? here
  cases applyCall_of_swallowed makes swallowed
  have length := length_applyCalls before ran
  dsimp only
  rw [applyCalls_append, applyCalls_append, Traced.andThen_of_ok ran, Traced.andThen_of_ok ran,
    applyCalls_of_made_ok makes, List.eraseIdx_append_of_length_le (Nat.le_of_eq length), length,
    Nat.sub_self]
  rfl

/-! ## The whole pipeline -/

/-- Other calls under which a pipeline runs alike give it the same result. -/
theorem pipelineValue_of_applyCalls {calls others : List FilterCall} {trace : List Call}
    (covers : isCovered registry calls = true) (alsoCovers : isCovered registry others = true)
    (runs : applyCalls registry scope name true (.start (scope.get? name)) others =
      ⟨(applyCalls registry scope name true (.start (scope.get? name)) calls).outcome, trace⟩) :
    pipelineValue registry scope ⟨name, others⟩ =
      ⟨(pipelineValue registry scope ⟨name, calls⟩).outcome, trace⟩ := by
  rw [pipelineValue_eq, pipelineValue_eq, covers, alsoCovers]
  refine Traced.ext ?_ ?_
  · rw [Traced.andThen_outcome, Traced.andThen_outcome, runs]
  · rw [calls_finish, runs]

/-- In a pipeline with a fallback filter, a call of a transform that fails with an error that allows
a default can be deleted, and so can all such calls: the result is the same, and all the other calls
are made, with the same values. -/
theorem pipelineValue_swallowed (registry : Registry) (scope : Bindings) (pipeline : Pipeline)
    (covers : isCovered registry pipeline.calls = true) :
    let run := pipelineValue registry scope pipeline
    (∀ before call after made, pipeline.calls = before ++ call :: after →
      run.calls[before.length]? = some made → made.isSwallowed registry = true →
        pipelineValue registry scope ⟨pipeline.name, before ++ after⟩ =
          ⟨run.outcome, run.calls.eraseIdx before.length⟩) ∧
    pipelineValue registry scope
        ⟨pipeline.name, unswallowed registry pipeline.calls run.calls⟩ =
      ⟨run.outcome, run.calls.filter fun made => !made.isSwallowed registry⟩ := by
  obtain ⟨name, calls⟩ := pipeline
  intro run
  have traced : run.calls =
      (applyCalls registry scope name true (.start (scope.get? name)) calls).calls := by
    rw [calls_pipelineValue, covers]
  rw [traced]
  refine ⟨?_, ?_⟩
  · rintro before call after made rfl here swallowed
    obtain ⟨later, outcome, named, -, -⟩ := reached_of_getElem? here
    have transform := Call.not_isFallback_of_isSwallowed swallowed
    refine pipelineValue_of_applyCalls covers ?_ (applyCalls_delete here swallowed)
    rw [named] at transform
    simpa [isCovered, transform] using covers
  · refine pipelineValue_of_applyCalls covers ?_ (applyCalls_unswallowed _ calls)
    rw [isCovered_unswallowed (names_prefix_applyCalls calls), covers]

/-- The variable is missing, and one transform declines before the fallback filter, another after
it. -/
theorem pipelineValue_swallowed_around :
    let need : Filter := .transform fun value _ =>
      if value.isNil then .error (.allowsDefault "no value") else .ok value
    let other : Filter := .fallback fun _ arguments => .ok (arguments.headD .nil)
    let decline : Filter := .transform fun _ _ => .error (.allowsDefault "declined")
    let registry : Registry := .ofPairs [("need", need), ("other", other), ("decline", decline)]
    let scope : Bindings := .ofPairs [("zone", .string "eu")]
    let calls : List FilterCall :=
      [⟨"need", []⟩, ⟨"other", [.reference "zone"]⟩, ⟨"decline", []⟩]
    let made : List Call :=
      [⟨"need", .nil, [], false⟩, ⟨"other", .nil, [.string "eu"], false⟩,
        ⟨"decline", .string "eu", [], false⟩]
    isCovered registry calls = true ∧
      pipelineValue registry scope ⟨"user", calls⟩ = ⟨.ok (.string "eu"), made⟩ ∧
      pipelineValue registry scope ⟨"user", calls.drop 1⟩ =
        ⟨.ok (.string "eu"), made.drop 1⟩ ∧
      unswallowed registry calls made = [⟨"other", [.reference "zone"]⟩] ∧
      pipelineValue registry scope ⟨"user", [⟨"other", [.reference "zone"]⟩]⟩ =
        ⟨.ok (.string "eu"), [⟨"other", .nil, [.string "eu"], false⟩]⟩ := by
  intro need other decline registry scope calls made
  have covers : isCovered registry calls = true := by decide
  have ran : pipelineValue registry scope ⟨"user", calls⟩ = ⟨.ok (.string "eu"), made⟩ := rfl
  have left : unswallowed registry calls made = [⟨"other", [.reference "zone"]⟩] := rfl
  obtain ⟨one, all⟩ := pipelineValue_swallowed registry scope ⟨"user", calls⟩ covers
  rw [ran] at one all
  refine ⟨covers, ran, ?_, left, ?_⟩
  · exact one [] ⟨"need", []⟩ (calls.drop 1) ⟨"need", .nil, [], false⟩ rfl rfl rfl
  · rw [left] at all
    exact all

end Evaluation

end Templating
