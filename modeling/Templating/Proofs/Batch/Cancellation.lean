import Templating.Proofs.Batch.Cycle

/-!
# Stopping a batch

A run that looks at a cancellation flag goes along with the run that does not, up to the first entry
before which the flag is set. There it ends, with the calls made so far and without a result. If the
flag is not set before any entry, both runs are the same.
-/

namespace Templating.Engine

variable {engine : Engine} {base batch scope : Bindings} {graph : Graph}
  {order before pending rest : List String} {isSet : Bool} {name other : String}
  {raw value : Value}

/-- A run that does not look at the flag gets through the entries `before` without an error. The
flag is set by then, at the start or by a filter, and there is an entry still to come. -/
structure StopsAfter (engine : Engine) (batch scope : Bindings) (isSet : Bool)
    (pending before : List String) : Prop where
  pending : ∃ name after, pending = before ++ name :: after
  through : ∃ final, (engine.resolveInOrder batch .ignored scope before).outcome = .ok final
  set : (isSet || (engine.resolveInOrder batch .ignored scope before).cancels) = true

/-! ## One entry after the other -/

section Steps

variable {cancellation : Cancellation}

/-- An entry that has a value hands the scope and the flag on, and its calls come first. -/
theorem resolveInOrder_of_ok (rest : List String) (running : cancellation.stops = false)
    (found : batch.get? name = some raw)
    (comes : (engine.resolveValue scope raw).outcome = .ok value) :
    engine.resolveInOrder batch cancellation scope (name :: rest) =
      let later := engine.resolveInOrder batch
        (cancellation.after (engine.resolveValue scope raw).calls) (scope.insert name value) rest
      ⟨later.outcome, (engine.resolveValue scope raw).calls ++ later.calls⟩ := by
  rw [resolveInOrder_cons rest running found]
  exact Traced.andThen_of_ok (Outcome.mapError_eq_ok_iff.mpr comes) _

/-- An entry that has none ends the run. -/
theorem resolveInOrder_of_error {error : TemplateError} (rest : List String)
    (running : cancellation.stops = false) (found : batch.get? name = some raw)
    (fails : (engine.resolveValue scope raw).outcome = .error error) :
    engine.resolveInOrder batch cancellation scope (name :: rest) =
      ⟨.error (.inVariable name error), (engine.resolveValue scope raw).calls⟩ := by
  rw [resolveInOrder_cons rest running found]
  exact Traced.andThen_of_error (Outcome.mapError_eq_error_iff.mpr ⟨error, fails, rfl⟩) _

theorem resolveInOrder_stopped (stops : cancellation.stops = true) (name : String)
    (rest : List String) :
    engine.resolveInOrder batch cancellation scope (name :: rest) = .fail .cancelled := by
  rw [resolveInOrder, stops, if_pos rfl]

end Steps

theorem resolveInOrder_ignored_append (before after : List String) :
    engine.resolveInOrder batch .ignored scope (before ++ after) =
      (engine.resolveInOrder batch .ignored scope before).andThen fun scope =>
        engine.resolveInOrder batch .ignored scope after := by
  induction before generalizing scope with
  | nil => exact (Traced.andThen_ok _ _).symm
  | cons name rest ih =>
      cases found : batch.get? name with
      | none => simpa [resolveInOrder, found, Cancellation.stops] using ih
      | some raw =>
          rw [List.cons_append, resolveInOrder_cons _ rfl found, resolveInOrder_cons _ rfl found]
          simp only [Traced.andThen_assoc]
          exact congrArg _ (funext fun value => ih)

theorem not_stopsAfter_nil : ¬ engine.StopsAfter batch scope isSet [] before := by
  rintro ⟨⟨name, after, split⟩, -, -⟩
  cases before <;> cases split

/-- Nothing is evaluated if the flag is set at the start. -/
theorem stopsAfter_cons_nil_iff :
    engine.StopsAfter batch scope isSet (name :: rest) [] ↔ isSet = true := by
  constructor
  · rintro ⟨-, -, set⟩
    simpa [resolveInOrder, Traced.cancels, Traced.ok] using set
  · rintro rfl
    exact ⟨⟨name, rest, rfl⟩, ⟨scope, rfl⟩, rfl⟩

/-- A run stops later on if its first entry has a value, in the scope and with the flag that this
entry leaves. -/
theorem stopsAfter_cons_cons_iff (found : batch.get? name = some raw) :
    engine.StopsAfter batch scope isSet (name :: rest) (other :: before) ↔
      other = name ∧ ∃ value, (engine.resolveValue scope raw).outcome = .ok value ∧
        engine.StopsAfter batch (scope.insert name value)
          (isSet || (engine.resolveValue scope raw).cancels) rest before := by
  constructor
  · rintro ⟨⟨next, after, split⟩, ⟨final, ran⟩, set⟩
    obtain ⟨rfl, later⟩ := List.cons.inj split
    cases comes : (engine.resolveValue scope raw).outcome with
    | error error =>
        rw [resolveInOrder_of_error before rfl found comes] at ran
        cases ran
    | ok value =>
        rw [resolveInOrder_of_ok before rfl found comes] at ran set
        rw [Traced.cancels, List.any_append, ← Bool.or_assoc] at set
        exact ⟨rfl, value, rfl, ⟨next, after, later⟩, ⟨final, ran⟩, set⟩
  · rintro ⟨rfl, value, comes, ⟨next, after, later⟩, ⟨final, ran⟩, set⟩
    have run := resolveInOrder_of_ok before (rfl : Cancellation.stops .ignored = false) found comes
    refine ⟨⟨next, after, congrArg (other :: ·) later⟩, ⟨final, ?_⟩, ?_⟩
    · rw [run]
      exact ran
    · rw [run, Traced.cancels, List.any_append, ← Bool.or_assoc]
      exact set

/-! ## The whole run -/

/-- A run that looks at the flag stops at the first place where it is set, with the calls made so
far, or it is the run that does not look at it. -/
inductive Polled (engine : Engine) (batch scope : Bindings) (isSet : Bool)
    (pending : List String) : Prop where
  | stopped (before : List String) (stops : engine.StopsAfter batch scope isSet pending before)
      (first : ∀ earlier, engine.StopsAfter batch scope isSet pending earlier → before <+: earlier)
      (run : engine.resolveInOrder batch (.polled isSet) scope pending =
        ⟨.error .cancelled, (engine.resolveInOrder batch .ignored scope before).calls⟩)
  | free (never : ∀ before, ¬ engine.StopsAfter batch scope isSet pending before)
      (run : engine.resolveInOrder batch (.polled isSet) scope pending =
        engine.resolveInOrder batch .ignored scope pending)

namespace Polled

theorem of_set (name : String) (rest : List String) :
    engine.Polled batch scope true (name :: rest) := by
  refine .stopped [] (stopsAfter_cons_nil_iff.mpr rfl) (fun earlier _ => List.nil_prefix) ?_
  exact resolveInOrder_stopped rfl name rest

theorem of_error {error : TemplateError} (found : batch.get? name = some raw)
    (fails : (engine.resolveValue scope raw).outcome = .error error) (rest : List String) :
    engine.Polled batch scope false (name :: rest) := by
  refine .free (fun before stops => ?_) ?_
  · cases before with
    | nil => exact Bool.false_ne_true (stopsAfter_cons_nil_iff.mp stops)
    | cons other before =>
        obtain ⟨-, value, comes, -⟩ := (stopsAfter_cons_cons_iff found).mp stops
        cases fails.symm.trans comes
  · rw [resolveInOrder_of_error rest rfl found fails, resolveInOrder_of_error rest rfl found fails]

/-- An entry that has a value leaves it to those after it whether the run stops. -/
theorem of_ok (found : batch.get? name = some raw)
    (comes : (engine.resolveValue scope raw).outcome = .ok value)
    (later : engine.Polled batch (scope.insert name value) (engine.resolveValue scope raw).cancels
      rest) : engine.Polled batch scope false (name :: rest) := by
  have stops_iff : ∀ before, engine.StopsAfter batch scope false (name :: rest) before ↔
      ∃ tail, before = name :: tail ∧ engine.StopsAfter batch (scope.insert name value)
        (engine.resolveValue scope raw).cancels rest tail := by
    intro before
    cases before with
    | nil => simp [stopsAfter_cons_nil_iff]
    | cons other tail => simp [stopsAfter_cons_cons_iff found, comes]
  have polled := resolveInOrder_of_ok rest
    (rfl : Cancellation.stops (.polled false) = false) found comes
  have ignored := fun names => resolveInOrder_of_ok names
    (rfl : Cancellation.stops .ignored = false) found comes
  cases later with
  | stopped before stops first run =>
      refine .stopped (name :: before) ((stops_iff _).mpr ⟨before, rfl, stops⟩) ?_ ?_
      · intro earlier stopsEarlier
        obtain ⟨tail, rfl, stopsTail⟩ := (stops_iff earlier).mp stopsEarlier
        exact List.cons_prefix_cons.mpr ⟨rfl, first tail stopsTail⟩
      · rw [polled, ignored before]
        exact congrArg (fun later : Traced Bindings => Traced.mk later.outcome
          ((engine.resolveValue scope raw).calls ++ later.calls)) run
  | free never run =>
      refine .free ?_ ?_
      · intro before stops
        obtain ⟨tail, -, stopsTail⟩ := (stops_iff before).mp stops
        exact never tail stopsTail
      · rw [polled, ignored rest]
        exact congrArg (fun later : Traced Bindings => Traced.mk later.outcome
          ((engine.resolveValue scope raw).calls ++ later.calls)) run

end Polled

theorem polled_resolveInOrder (known : ∀ name ∈ pending, ∃ raw, batch.get? name = some raw)
    (scope : Bindings) (isSet : Bool) : engine.Polled batch scope isSet pending := by
  -- An entry changes the scope and may set the flag, so the induction is for all of both.
  induction pending generalizing scope isSet with
  | nil => exact .free (fun before => not_stopsAfter_nil) rfl
  | cons name rest ih =>
      obtain ⟨raw, found⟩ := known name List.mem_cons_self
      cases isSet with
      | true => exact .of_set name rest
      | false =>
          cases comes : (engine.resolveValue scope raw).outcome with
          | error error => exact .of_error found comes rest
          | ok value =>
              have later := ih fun other member => known other (List.mem_cons_of_mem _ member)
              exact .of_ok found comes (later _ _)

/-! ## The whole batch -/

theorem resolve_of_unchecked (unchecked : engine.settings.checkCancellation = false)
    (cancellation : Cancellation) :
    engine.resolve cancellation base batch = engine.resolve .ignored base batch := by
  rw [resolve, resolve, polling, polling, unchecked]
  rfl

/-- With the flag set no batch is evaluated, and only one in which no template can stand has a
result. -/
theorem resolve_of_stops {cancellation : Cancellation} (base batch : Bindings)
    (checked : engine.settings.checkCancellation = true) (stops : cancellation.stops = true) :
    (engine.resolve cancellation base batch).calls = [] ∧
      ∀ out, (engine.resolve cancellation base batch).outcome = .ok out →
        ∀ name raw, batch.get? name = some raw → raw.isTemplated = false := by
  rcases resolve_eq_fail_or_order engine batch with
    ⟨error, -, fails, -⟩ | ⟨graph, order, built, ordered⟩
  · rw [fails]
    exact ⟨rfl, fun out resolved => by cases resolved⟩
  · have sorted := Graph.isTopological_of_topologicalOrder ordered
    rw [resolve_eq_of_order built ordered, polling, if_pos checked]
    cases order with
    | nil =>
        refine ⟨rfl, fun out _ name raw found => ?_⟩
        exact sorted.not_isTemplated built found List.not_mem_nil
    | cons name rest =>
        rw [resolveInOrder_stopped stops]
        exact ⟨rfl, fun out resolved => by cases resolved⟩

/-- A batch that ends because of the flag has looked at it, and says so without naming an entry. -/
theorem cancelled_or_of_resolve {cancellation : Cancellation} {error : TemplateError}
    (failed : (engine.resolve cancellation base batch).outcome = .error error) :
    error = .cancelled ∧ engine.polling cancellation ≠ .ignored ∨ error.isCancelled = false := by
  rcases resolve_eq_fail_or_order engine batch with
    ⟨refusal, early, fails, -⟩ | ⟨graph, order, built, ordered⟩
  · rw [fails] at failed
    cases failed
    cases early <;> exact .inr rfl
  · rw [resolve_eq_of_order built ordered] at failed
    have inside := Outcome.map_eq_error_iff.mp failed
    exact (failsOnly_resolveInOrder order error inside).imp_right fun fails =>
      fails.ofResolution.not_isCancelled

theorem resolve_ignored_ne_cancelled :
    (engine.resolve .ignored base batch).outcome ≠ .error .cancelled := by
  intro failed
  rcases cancelled_or_of_resolve failed with ⟨-, looked⟩ | other
  · exact looked (ite_self _)
  · cases other

/-- The engine looks at flags, the batch has an order, and its run stops after the entries `before`
and their calls. -/
structure InterruptedAfter (engine : Engine) (isSet : Bool) (base batch : Bindings)
    (before : List String) (calls : List Call) : Prop where
  checked : engine.settings.checkCancellation = true
  stops : ∃ graph order, Graph.build engine.tokenizer batch = .ok graph ∧
    graph.topologicalOrder = .ok order ∧
    engine.StopsAfter batch (startScope base batch graph) isSet order before ∧
    (engine.resolveInOrder batch .ignored (startScope base batch graph) before).calls = calls

namespace InterruptedAfter

variable {calls : List Call}

theorem stopsAfter (interrupted : engine.InterruptedAfter isSet base batch before calls)
    (built : Graph.build engine.tokenizer batch = .ok graph)
    (ordered : graph.topologicalOrder = .ok order) :
    engine.StopsAfter batch (startScope base batch graph) isSet order before := by
  obtain ⟨graph', order', built', ordered', stops, -⟩ := interrupted.stops
  cases built.symm.trans built'
  cases ordered.symm.trans ordered'
  exact stops

/-- The calls of an interrupted batch begin those of the batch that runs on. -/
theorem calls_prefix (interrupted : engine.InterruptedAfter isSet base batch before calls) :
    calls <+: (engine.resolve .ignored base batch).calls := by
  obtain ⟨graph, order, built, ordered, ⟨⟨name, after, split⟩, -, -⟩, rfl⟩ := interrupted.stops
  have ignored : engine.polling .ignored = .ignored := ite_self _
  rw [resolve_eq_of_order built ordered, ignored, split, resolveInOrder_ignored_append]
  exact Traced.calls_prefix_andThen _ _

end InterruptedAfter

/-- A batch ends at the first place where the flag is set, or there is no such place and the batch
is resolved as if there were no flag. -/
theorem resolve_polled_cases (engine : Engine) (isSet : Bool) (base batch : Bindings) :
    (∃ before calls, engine.InterruptedAfter isSet base batch before calls ∧
      (∀ earlier others, engine.InterruptedAfter isSet base batch earlier others →
        before <+: earlier) ∧
      engine.resolve (.polled isSet) base batch = ⟨.error .cancelled, calls⟩) ∨
    (∀ before calls, ¬ engine.InterruptedAfter isSet base batch before calls) ∧
      engine.resolve (.polled isSet) base batch = engine.resolve .ignored base batch := by
  cases checked : engine.settings.checkCancellation with
  | false =>
      refine .inr ⟨fun before calls interrupted => ?_, resolve_of_unchecked checked _⟩
      cases checked.symm.trans interrupted.checked
  | true =>
      rcases resolve_eq_fail_or_order engine batch with
        ⟨refusal, -, fails, unordered⟩ | ⟨graph, order, built, ordered⟩
      · refine .inr ⟨fun before calls interrupted => ?_, by rw [fails, fails]⟩
        obtain ⟨graph, order, built, ordered, -⟩ := interrupted.stops
        exact unordered graph order built ordered
      · have sorted := Graph.isTopological_of_topologicalOrder ordered
        have looks : ∀ cancellation, engine.polling cancellation = cancellation :=
          fun cancellation => if_pos checked
        have ran : engine.Polled batch (startScope base batch graph) isSet order :=
          polled_resolveInOrder (fun name member => sorted.get?_of_mem built member) _ _
        rw [resolve_eq_of_order built ordered, resolve_eq_of_order built ordered, looks, looks]
        cases ran with
        | stopped before stops first run =>
            refine .inl ⟨before, _, ⟨checked, graph, order, built, ordered, stops, rfl⟩, ?_, ?_⟩
            · exact fun earlier others interrupted =>
                first earlier (interrupted.stopsAfter built ordered)
            · rw [run]
              rfl
        | free never run =>
            refine .inr ⟨fun before calls interrupted => ?_, by rw [run]⟩
            exact never before (interrupted.stopsAfter built ordered)

/-- A batch ends because of its flag exactly when the engine looks at flags, the batch has an order,
and there is an entry before which the flag is set and all earlier entries have values. It then
makes the calls of the entries before the first such entry, and these begin the calls of the batch
that does not look at the flag. In all other cases it is resolved as if there were no flag. -/
theorem resolve_polled (engine : Engine) (isSet : Bool) (base batch : Bindings) :
    let polled := engine.resolve (.polled isSet) base batch
    let ignored := engine.resolve .ignored base batch
    (polled.outcome = .error .cancelled ↔
      ∃ before calls, engine.InterruptedAfter isSet base batch before calls) ∧
    (∀ error, polled.outcome = .error error → error.isCancelled = true → error = .cancelled) ∧
    (polled.outcome = .error .cancelled → polled.calls <+: ignored.calls ∧
      ∃ before, engine.InterruptedAfter isSet base batch before polled.calls ∧
        ∀ earlier others, engine.InterruptedAfter isSet base batch earlier others →
          before <+: earlier) ∧
    (polled.outcome ≠ .error .cancelled → polled = ignored) ∧
    ∀ out, polled.outcome = .ok out → ignored.outcome = .ok out ∧ out.names = batch.names := by
  intro polled ignored
  have unwrapped : ∀ error, polled.outcome = .error error → error.isCancelled = true →
      error = .cancelled := by
    intro error failed isCancelled
    rcases cancelled_or_of_resolve failed with ⟨same, -⟩ | other
    · exact same
    · cases isCancelled.symm.trans other
  rcases resolve_polled_cases engine isSet base batch with
    ⟨before, calls, interrupted, first, stopped⟩ | ⟨never, same⟩
  · have ends : polled.outcome = .error .cancelled := congrArg Traced.outcome stopped
    have made : polled.calls = calls := congrArg Traced.calls stopped
    refine ⟨⟨fun _ => ⟨before, calls, interrupted⟩, fun _ => ends⟩, unwrapped, fun _ => ?_,
      fun runs => absurd ends runs, fun out resolved => ?_⟩
    · rw [made]
      exact ⟨interrupted.calls_prefix, before, interrupted, first⟩
    · cases ends.symm.trans resolved
  · have outcome : polled.outcome = ignored.outcome := congrArg Traced.outcome same
    have runs : polled.outcome ≠ .error .cancelled := fun failed =>
      resolve_ignored_ne_cancelled (outcome.symm.trans failed)
    refine ⟨⟨fun failed => absurd failed runs, ?_⟩, unwrapped, fun failed => absurd failed runs,
      fun _ => same, fun out resolved => ?_⟩
    · rintro ⟨before, calls, interrupted⟩
      exact absurd interrupted (never before calls)
    · have unpolled : ignored.outcome = .ok out := outcome.symm.trans resolved
      exact ⟨unpolled, (solves_of_resolve unpolled).1⟩

/-- A filter that sets the flag ends a batch before the second entry, and does nothing in the last
one. -/
theorem resolve_polled_halfway :
    let halt : Filter := ⟨.transform, fun value _ => .ok value, fun _ _ => true⟩
    let engine : Engine := ⟨.ofPairs [("halt", halt)], {}, .epoch⟩
    let base : Bindings := .ofPairs [("zone", .string "eu")]
    let halted : Bindings := .ofPairs [("host", .string "\x7b\x7b zone | halt \x7d\x7d"),
      ("note", .string "\x7b\x7b host \x7d\x7d")]
    let finished : Bindings := .ofPairs [("host", .string "\x7b\x7b zone | halt \x7d\x7d")]
    let call : Call := ⟨"halt", .string "eu", [], true⟩
    engine.InterruptedAfter false base halted ["host"] [call] ∧
      (engine.resolve (.polled false) base halted).outcome = .error .cancelled ∧
      engine.resolve (.polled false) base finished =
        ⟨.ok (.ofPairs [("host", .string "eu")]), [call]⟩ ∧
      ∀ before calls, ¬ engine.InterruptedAfter false base finished before calls := by
  intro halt engine base halted finished call
  have readHost : engine.tokenizer.tokenize "\x7b\x7b zone | halt \x7d\x7d" =
      .ok [.filtered "zone | halt" ⟨"zone", [⟨"halt", []⟩]⟩] :=
    Tokenizer.tokenize_single " zone | halt ".toList (by decide) (by decide) rfl rfl
  have readNote : engine.tokenizer.tokenize "\x7b\x7b host \x7d\x7d" = .ok [.plain "host"] :=
    Tokenizer.tokenize_single " host ".toList (by decide) (by decide) rfl rfl
  have readsHalted : Value.Reads engine.tokenizer halted.entries [["zone"], ["host"]] :=
    .cons (Value.references_string readHost) (.cons (Value.references_string readNote) .nil)
  have readsFinished : Value.Reads engine.tokenizer finished.entries [["zone"]] :=
    .cons (Value.references_string readHost) .nil
  have orderedHalted : (Graph.ofReads halted [["zone"], ["host"]]).topologicalOrder =
      .ok ["host", "note"] := rfl
  have orderedFinished : (Graph.ofReads finished [["zone"]]).topologicalOrder = .ok ["host"] := rfl
  have hostHalted : halted.get? "host" = some (.string "\x7b\x7b zone | halt \x7d\x7d") := rfl
  have hostFinished : finished.get? "host" =
      some (.string "\x7b\x7b zone | halt \x7d\x7d") := rfl
  have ran : engine.resolveInOrder halted .ignored
      (startScope base halted (Graph.ofReads halted [["zone"], ["host"]])) ["host"] =
        ⟨.ok (.ofPairs [("zone", .string "eu"), ("host", .string "eu")]), [call]⟩ := by
    simp only [resolveInOrder, hostHalted, resolveValue, resolveTemplate, readHost]
    rfl
  have interrupted : engine.InterruptedAfter false base halted ["host"] [call] := by
    have through := congrArg Traced.outcome ran
    refine ⟨rfl, _, _, Graph.build_of_reads readsHalted, orderedHalted,
      ⟨⟨"note", [], rfl⟩, ⟨_, through⟩, ?_⟩, ?_⟩
    · rw [ran]
      rfl
    · rw [ran]
  have ended : engine.resolve (.polled false) base finished =
      ⟨.ok (.ofPairs [("host", .string "eu")]), [call]⟩ := by
    rw [resolve_of_reads readsFinished orderedFinished]
    simp only [resolveInOrder, hostFinished, resolveValue, resolveTemplate, readHost]
    rfl
  obtain ⟨halted_iff, -, -, -, -⟩ := resolve_polled engine false base halted
  obtain ⟨finished_iff, -, -, -, -⟩ := resolve_polled engine false base finished
  refine ⟨interrupted, halted_iff.mpr ⟨_, _, interrupted⟩, ended, ?_⟩
  intro before calls interrupted
  have failed := finished_iff.mpr ⟨before, calls, interrupted⟩
  rw [ended] at failed
  cases failed

end Templating.Engine
