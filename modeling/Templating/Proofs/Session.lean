import Templating.Proofs.Batch.Cancellation
import Templating.Session

/-!
# Running sessions

A step changes a session in two ways: its calls may set the flag, and if it goes well it may write
to the scope. A flag that is set stays set, and from then on a run evaluates no batch any more. A
step that fails leaves the scope as it is, so it can be left out of a run unless it sets the flag.
-/

namespace Templating

def SessionAnswer.failed : SessionAnswer → Bool
  | replaced _ => false
  | removed _ => false
  | text outcome => !outcome.isOk
  | value outcome => !outcome.isOk
  | bindings outcome => !outcome.isOk

/-- The step failed, and none of its calls asks the run to stop. -/
def SessionResult.isIdle (result : SessionResult) : Bool :=
  result.answer.failed && !result.calls.any Call.cancels

namespace SessionStep

/-- The names that a step can add to the scope. -/
def targets : SessionStep → List String
  | set name _ => [name]
  | evaluate _ store? => store?.toList
  | resolve batch => batch.names
  | _ => []

/-- No batch is evaluated in this step: it makes no calls, and it goes well only for a batch in
which no template can stand. -/
def Stopped : SessionStep → SessionResult → Prop
  | resolve batch, result => result.calls = [] ∧ (result.answer.failed = false →
      ∀ name raw, batch.get? name = some raw → raw.isTemplated = false)
  | resolveScope, result => result.calls = []
  | _, _ => True

end SessionStep

namespace Session

variable {session first middle last : Session} {step : SessionStep} {front : List SessionStep}

/-! ## One step -/

/-- What is kept of a session over these calls, by steps that may add these names and that all fail
or not. -/
structure Follows (first last : Session) (calls : List Call) (added : List String)
    (failed : Bool) : Prop where
  engine : last.engine = first.engine
  cancellation : last.cancellation = first.cancellation.after calls
  names : ∀ name ∈ last.scope.names, name ∈ first.scope.names ∨ name ∈ added
  scope : failed = true → last.scope = first.scope

namespace Follows

variable {calls later : List Call} {added others : List String} {failed failing : Bool}

theorem refl (session : Session) : session.Follows session [] [] true where
  engine := rfl
  cancellation := (Cancellation.after_nil _).symm
  names := fun _ member => .inl member
  scope := fun _ => rfl

theorem trans (front : first.Follows middle calls added failed)
    (back : middle.Follows last later others failing) :
    first.Follows last (calls ++ later) (added ++ others) (failed && failing) where
  engine := back.engine.trans front.engine
  cancellation := by rw [back.cancellation, front.cancellation, Cancellation.after_append]
  names := by
    intro name member
    rw [List.mem_append, ← or_assoc]
    exact (back.names name member).imp_left (front.names name)
  scope := by
    intro both
    obtain ⟨early, late⟩ := (Bool.and_eq_true _ _).mp both
    exact (back.scope late).trans (front.scope early)

/-- A flag that is set stays set. -/
theorem stops (follows : first.Follows last calls added failed)
    (set : first.cancellation.stops = true) : last.cancellation.stops = true := by
  rw [follows.cancellation]
  exact Cancellation.stops_after set calls

/-- Nothing changes where all steps fail and no call asks to stop. -/
theorem eq_of_failed (follows : first.Follows last calls added true)
    (quiet : calls.any Call.cancels = false) : last = first := by
  obtain ⟨engine, cancellation, -, scope⟩ := follows
  rw [Cancellation.after_of_not_cancels _ quiet] at cancellation
  cases first
  cases last
  cases engine
  cases cancellation
  cases scope rfl
  rfl

end Follows

/-- The scope is written only by an outcome that is no error. -/
theorem follows_after {α : Type} {result : Traced α} {store : α → Bindings} {added : List String}
    (within : ∀ value, result.outcome = .ok value → ∀ name ∈ (store value).names,
      name ∈ session.scope.names ∨ name ∈ added) :
    session.Follows (session.after result store) result.calls added (!result.outcome.isOk) := by
  obtain ⟨outcome, calls⟩ := result
  cases outcome with
  | error error => exact ⟨rfl, rfl, fun _ member => .inl member, fun _ => rfl⟩
  | ok value => exact ⟨rfl, rfl, within value rfl, fun failed => by cases failed⟩

/-- A step keeps the engine, hands the flag on as its calls leave it, and adds no names but its
targets. If it fails it keeps the scope. -/
theorem step_follows (session : Session) (step : SessionStep) :
    session.Follows (session.step step).session (session.step step).calls step.targets
      (session.step step).answer.failed := by
  cases step with
  | set name value =>
      refine ⟨rfl, (Cancellation.after_nil _).symm, fun other member => ?_, fun failed => ?_⟩
      · exact (NameMap.mem_names_insert.mp member).symm.imp_right List.mem_singleton.mpr
      · cases failed
  | unset name =>
      refine ⟨rfl, (Cancellation.after_nil _).symm, fun other member => .inl ?_, fun failed => ?_⟩
      · exact (Entries.names_erase_sublist name session.scope.entries).subset member
      · cases failed
  | render template => exact follows_after fun _ _ _ member => .inl member
  | evaluate template store? =>
      refine follows_after fun value _ other member => ?_
      cases store? with
      | none => exact .inl member
      | some name =>
          exact (NameMap.mem_names_insert.mp member).symm.imp_right List.mem_singleton.mpr
  | resolve batch =>
      refine follows_after fun out resolved name member => ?_
      rw [SessionStep.targets, ← (Engine.solves_of_resolve resolved).1]
      exact NameMap.mem_names_extend.mp member
  | resolveScope =>
      refine follows_after fun out resolved name member => .inl ?_
      rw [← (Engine.solves_of_resolve resolved).1]
      exact member

/-! ## A whole run -/

theorem run_cons (session : Session) (step : SessionStep) (rest : List SessionStep) :
    session.run (step :: rest) = (session.step step :: ((session.step step).session.run rest).1,
      ((session.step step).session.run rest).2) := rfl

theorem run_append (session : Session) (front back : List SessionStep) :
    session.run (front ++ back) =
      ((session.run front).1 ++ ((session.run front).2.run back).1,
        ((session.run front).2.run back).2) := by
  induction front generalizing session with
  | nil => rfl
  | cons step rest ih => rw [List.cons_append, run_cons, run_cons, ih, List.cons_append]

theorem length_run (session : Session) (steps : List SessionStep) :
    (session.run steps).1.length = steps.length := by
  induction steps generalizing session with
  | nil => rfl
  | cons step rest ih => rw [run_cons, List.length_cons, List.length_cons, ih]

/-- A run keeps the engine, its flag is the one that all calls together leave, and its names come
from the steps. If all steps fail it keeps the scope. -/
theorem run_follows (session : Session) (steps : List SessionStep) :
    session.Follows (session.run steps).2 ((session.run steps).1.flatMap SessionResult.calls)
      (steps.flatMap SessionStep.targets) ((session.run steps).1.all fun result =>
        result.answer.failed) := by
  induction steps generalizing session with
  | nil => exact .refl session
  | cons step rest ih => exact (session.step_follows step).trans (ih _)

theorem step_of_isIdle (idle : (session.step step).isIdle = true) :
    (session.step step).session = session := by
  rw [SessionResult.isIdle, Bool.and_eq_true, Bool.not_eq_true'] at idle
  have follows := session.step_follows step
  rw [idle.1] at follows
  exact follows.eq_of_failed idle.2

/-- Idle steps can be left out: the others have the same results without them, and the run ends in
the same session. -/
theorem run_without_idle (session : Session) (steps : List SessionStep) :
    let active := (steps.zip (session.run steps).1).filter fun done => !done.2.isIdle
    session.run (active.map Prod.fst) = (active.map Prod.snd, (session.run steps).2) := by
  induction steps generalizing session with
  | nil => rfl
  | cons step rest ih =>
      simp only [run_cons, List.zip_cons_cons]
      -- An idle step leaves the session as it was, so the rest runs from the same session.
      by_cases idle : (session.step step).isIdle = true
      · rw [List.filter_cons_of_neg (by simp [idle]), step_of_isIdle idle]
        exact ih session
      · rw [List.filter_cons_of_pos (by simp [idle]), List.map_cons, List.map_cons, run_cons, ih]

/-! ## Runs with the flag set -/

theorem step_stopped (checked : session.engine.settings.checkCancellation = true)
    (stops : session.cancellation.stops = true) (step : SessionStep) :
    step.Stopped (session.step step) := by
  cases step with
  | resolve batch =>
      obtain ⟨calls, plain⟩ := Engine.resolve_of_stops session.scope batch checked stops
      refine ⟨calls, fun accepted => ?_⟩
      change (!(session.engine.resolve session.cancellation session.scope batch).outcome.isOk) =
        false at accepted
      cases resolved : (session.engine.resolve session.cancellation session.scope batch).outcome
      case error =>
        rw [resolved] at accepted
        cases accepted
      case ok out => exact plain out resolved
  | resolveScope => exact (Engine.resolve_of_stops .empty session.scope checked stops).1
  | _ => trivial

/-- With the flag set, all batches of a run are stopped. -/
theorem run_stopped (checked : session.engine.settings.checkCancellation = true)
    (stops : session.cancellation.stops = true) (steps : List SessionStep) :
    List.Forall₂ SessionStep.Stopped steps (session.run steps).1 := by
  induction steps generalizing session with
  | nil => exact .nil
  | cons step rest ih =>
      have follows := session.step_follows step
      exact .cons (step_stopped checked stops step)
        (ih (follows.engine ▸ checked) (follows.stops stops))

example :
    let session : Session := ⟨⟨.empty, {}, .epoch⟩, .polled true, .empty⟩
    let number : Bindings := .ofPairs [("zone", .int 1)]
    let text : Bindings := .ofPairs [("zone", .string "eu")]
    (session.run [.resolve number, .resolve text]).1.map (fun result => result.answer.failed) =
      [false, true] := rfl

/-- After a call that sets the flag, all batches of a run are stopped. -/
theorem run_stopped_of_cancels {isSet : Bool}
    (checked : session.engine.settings.checkCancellation = true)
    (polled : session.cancellation = .polled isSet)
    (set : ∃ result ∈ (session.run front).1, ∃ call ∈ result.calls, call.cancels = true)
    (back : List SessionStep) :
    List.Forall₂ SessionStep.Stopped back ((session.run (front ++ back)).1.drop front.length) := by
  have follows := session.run_follows front
  obtain ⟨result, member, call, made, cancels⟩ := set
  have stops : (session.run front).2.cancellation.stops = true := by
    rw [follows.cancellation, polled]
    exact Bool.or_eq_true_iff.mpr (.inr
      (List.any_eq_true.mpr ⟨call, List.mem_flatMap.mpr ⟨result, member, made⟩, cancels⟩))
  rw [run_append, List.drop_left' (length_run session front)]
  exact run_stopped (follows.engine ▸ checked) stops back

end Session

end Templating
