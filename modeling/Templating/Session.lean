import Templating.Engine

/-!
# Sessions

A session keeps a scope of variables that its steps read and change. A cancellation flag that is set
in one step stays set in those after it.
-/

namespace Templating

inductive SessionStep where
  | set (name : String) (value : Value)
  | unset (name : String)
  | render (template : String)
  /-- Evaluates a template and may store its value under a name. -/
  | evaluate (template : String) (store? : Option String)
  /-- Resolves a batch against the scope and stores its entries. -/
  | resolve (batch : Bindings)
  /-- Resolves the scope itself as a batch. -/
  | resolveScope

inductive SessionAnswer where
  /-- The value that the name had before. -/
  | replaced (old? : Option Value)
  | removed (found : Bool)
  | text (outcome : Except TemplateError String)
  | value (outcome : Except TemplateError Value)
  | bindings (outcome : Except TemplateError Bindings)

structure Session where
  engine : Engine
  cancellation : Cancellation
  scope : Bindings

/-- The answer of a step, the filter calls that it made, and the session after it. -/
structure SessionResult where
  answer : SessionAnswer
  calls : List Call
  session : Session

namespace Session

/-- The session after calls, with the scope that an outcome leaves. -/
def after {α : Type} (session : Session) (result : Traced α) (store : α → Bindings) : Session :=
  { session with
    cancellation := session.cancellation.after result.calls
    scope := match result.outcome with
      | .ok value => store value
      | .error _ => session.scope }

def step (session : Session) : SessionStep → SessionResult
  | .set name value =>
      ⟨.replaced (session.scope.get? name), [],
        { session with scope := session.scope.insert name value }⟩
  | .unset name =>
      ⟨.removed (session.scope.contains name), [],
        { session with scope := session.scope.erase name }⟩
  | .render template =>
      let result := session.engine.render session.scope template
      ⟨.text result.outcome, result.calls, session.after result fun _ => session.scope⟩
  | .evaluate template store? =>
      let result := session.engine.resolveTemplate session.scope template
      let store := fun value =>
        match store? with
        | some name => session.scope.insert name value
        | none => session.scope
      ⟨.value result.outcome, result.calls, session.after result store⟩
  | .resolve batch =>
      let result := session.engine.resolve session.cancellation session.scope batch
      ⟨.bindings result.outcome, result.calls, session.after result session.scope.extend⟩
  | .resolveScope =>
      let result := session.engine.resolve session.cancellation NameMap.empty session.scope
      ⟨.bindings result.outcome, result.calls, session.after result id⟩

/-- The steps one after the other. -/
def run (session : Session) : List SessionStep → List SessionResult × Session
  | [] => ([], session)
  | step :: rest =>
      let result := session.step step
      let (results, last) := result.session.run rest
      (result :: results, last)

end Session

end Templating
