import Templating.Evaluation
import Templating.Graph.Order
import Templating.Settings

/-!
# The engine

An engine has filters, settings and a clock. It renders templates, and it resolves batches of
variables that refer to one another: each entry is evaluated once, after the entries that it names,
against the base variables and the entries resolved so far.
-/

namespace Templating

open Calendar (Timestamp)

structure Engine where
  registry : Registry
  settings : Settings
  /-- The instant of the clock. -/
  now : Timestamp

/-- Whether a run looks at a cancellation flag, and whether that flag is set. -/
inductive Cancellation where
  | ignored
  | polled (isSet : Bool)
  deriving DecidableEq

namespace Cancellation

/-- The flag after calls, some of which may have set it. -/
def after (cancellation : Cancellation) (calls : List Call) : Cancellation :=
  match cancellation with
  | ignored => ignored
  | polled isSet => polled (isSet || calls.any Call.cancels)

def stops : Cancellation → Bool
  | ignored => false
  | polled isSet => isSet

theorem after_nil (cancellation : Cancellation) : cancellation.after [] = cancellation := by
  cases cancellation with
  | ignored => rfl
  | polled isSet => exact congrArg polled (Bool.or_false isSet)

theorem after_append (cancellation : Cancellation) (first later : List Call) :
    cancellation.after (first ++ later) = (cancellation.after first).after later := by
  cases cancellation with
  | ignored => rfl
  | polled isSet => rw [after, after, after, List.any_append, Bool.or_assoc]

theorem after_of_not_cancels (cancellation : Cancellation) {calls : List Call}
    (quiet : calls.any Call.cancels = false) : cancellation.after calls = cancellation := by
  cases cancellation with
  | ignored => rfl
  | polled isSet => rw [after, quiet, Bool.or_false]

/-- No call takes a flag back. -/
theorem stops_after {cancellation : Cancellation} (stops : cancellation.stops = true)
    (calls : List Call) : (cancellation.after calls).stops = true := by
  cases cancellation with
  | ignored => cases stops
  | polled isSet => exact Bool.or_eq_true_iff.mpr (.inl stops)

end Cancellation

namespace Engine

def tokenizer (engine : Engine) : Tokenizer := engine.settings.tokenizer

/-- The output of a template. -/
def render (engine : Engine) (scope : Bindings) (template : String) : Traced String :=
  match engine.tokenizer.tokenize template with
  | .error error => .fail (.parseFailed error)
  | .ok tokens =>
      (Evaluation.render engine.registry scope tokens).mapError TemplateError.renderFailed

/-- The value of a template. Text without placeholders needs no evaluation. -/
def resolveTemplate (engine : Engine) (scope : Bindings) (template : String) : Traced Value :=
  match engine.tokenizer.tokenize template with
  | .error error => .fail error
  | .ok [] => .ok (.string "")
  | .ok [.text run] => .ok (.string run)
  | .ok tokens => Evaluation.renderValue engine.registry scope tokens

mutual

/-- Evaluates the templates in a value, down into nested maps; lists are left alone. -/
def resolveValue (engine : Engine) (scope : Bindings) : Value → Traced Value
  | .string template => engine.resolveTemplate scope template
  | .map entries => (engine.resolveEntries scope entries).map Value.map
  | value => .ok value

def resolveEntries (engine : Engine) (scope : Bindings) :
    List (String × Value) → Traced (List (String × Value))
  | [] => .ok []
  | (name, value) :: rest =>
      ((engine.resolveValue scope value).mapError (.inVariable name)).andThen fun value =>
        (engine.resolveEntries scope rest).map ((name, value) :: ·)

end

/-- How a run of this engine treats a flag. -/
def polling (engine : Engine) (cancellation : Cancellation) : Cancellation :=
  if engine.settings.checkCancellation then cancellation else .ignored

/-- Evaluates the named entries of a batch one after the other and adds each to the scope. The flag
is looked at before each of them. -/
def resolveInOrder (engine : Engine) (batch : Bindings) (cancellation : Cancellation)
    (scope : Bindings) : List String → Traced Bindings
  | [] => .ok scope
  | name :: rest =>
      if cancellation.stops then .fail .cancelled
      else
        match batch.get? name with
        | none => engine.resolveInOrder batch cancellation scope rest
        | some raw =>
            let entry := (engine.resolveValue scope raw).mapError (.inVariable name)
            entry.andThen fun value =>
              engine.resolveInOrder batch (cancellation.after entry.calls)
                (scope.insert name value) rest

/-- The scope in which a batch starts: the base, and over it the entries without templates. -/
def startScope (base batch : Bindings) (graph : Graph) : Bindings :=
  batch.entries.foldl
    (fun scope entry => if graph.contains entry.1 then scope else scope.insert entry.1 entry.2) base

/-- Resolves a batch that may name the variables of `base`. The result has the names of the batch in
their order. -/
def resolve (engine : Engine) (cancellation : Cancellation) (base batch : Bindings) :
    Traced Bindings :=
  match Graph.build engine.tokenizer batch with
  | .error error => .fail error
  | .ok graph =>
      match graph.topologicalOrder with
      | .error error => .fail error
      | .ok order =>
          (engine.resolveInOrder batch (engine.polling cancellation)
            (startScope base batch graph) order).map fun scope => batch.restrictTo scope

end Engine

end Templating
