import Templating.Filter
import Templating.Template.Token
import Templating.Traced
import Templating.Value.Text

/-!
# Evaluating tokens

A token is evaluated against a scope of variables and a registry of filters. A variable that is not
there is nil for the filters of its pipeline, and the error waits: it is raised when a filter has no
use for nil and no fallback filter is in the pipeline, or when the pipeline ends without a value.
-/

namespace Templating.Evaluation

/-- The values of arguments, or the error of the first variable that is not there. -/
def argumentValues (scope : Bindings) : List Argument → Except TemplateError (List Value)
  | [] => .ok []
  | .literal literal :: rest => (argumentValues scope rest).map (literal.value :: ·)
  | .reference name :: rest =>
      match scope.get? name with
      | some value => (argumentValues scope rest).map (value :: ·)
      | none => .error (.variableNotFound name)

/-- Where a pipeline stands: the value so far, and whether its variable is still missing. -/
structure Progress where
  value : Value
  missing : Bool

/-- What a filter's answer means for the pipeline of the variable `name`. -/
def Progress.next (progress : Progress) (name : String) (covered : Bool) (call : FilterCall)
    (kind : FilterKind) : Except FilterError Value → Except TemplateError Progress
  | .ok value =>
      .ok ⟨value, progress.missing && !(kind = .fallback || !value.isNil)⟩
  | .error error =>
      if error.isAllowsDefault && covered then .ok progress
      else if error.isAllowsDefault && progress.missing then .error (.variableNotFound name)
      else .error (.functionApplyFailed call.name error)

/-- One filter of a pipeline. `covered` says that the pipeline has a fallback filter. -/
def applyCall (registry : Registry) (scope : Bindings) (name : String) (covered : Bool)
    (progress : Progress) (call : FilterCall) : Traced Progress :=
  match registry.get? call.name with
  | none => .fail (.functionNotFound call.name)
  | some filter =>
      match argumentValues scope call.arguments with
      | .error error => .fail error
      | .ok arguments =>
          ⟨progress.next name covered call filter.kind (filter.apply progress.value arguments),
            [⟨call.name, progress.value, arguments, filter.cancels progress.value arguments⟩]⟩

def applyCalls (registry : Registry) (scope : Bindings) (name : String) (covered : Bool)
    (progress : Progress) : List FilterCall → Traced Progress
  | [] => .ok progress
  | call :: rest =>
      (applyCall registry scope name covered progress call).andThen fun progress =>
        applyCalls registry scope name covered progress rest

/-- Whether a pipeline has a fallback filter. -/
def isCovered (registry : Registry) (calls : List FilterCall) : Bool :=
  calls.any fun call => registry.isFallback call.name

/-- The value of a pipeline. Without filters a missing variable is an error at once. -/
def pipelineValue (registry : Registry) (scope : Bindings) (pipeline : Pipeline) : Traced Value :=
  let covered := isCovered registry pipeline.calls
  let finish := fun (progress : Progress) =>
    if progress.missing then Traced.fail (.variableNotFound pipeline.name)
    else Traced.ok progress.value
  let start := match scope.get? pipeline.name with
    | some value => Progress.mk value false
    | none => Progress.mk .nil true
  (applyCalls registry scope pipeline.name covered start pipeline.calls).andThen finish

/-- A variable on its own: booleans and integers become text. -/
def plainForm : Value → Value
  | .bool value => .string (Value.bool value).toText
  | .int value => .string (Value.int value).toText
  | value => value

/-- The value of one token; conditional and undefined tokens have none. -/
def tokenValue (registry : Registry) (scope : Bindings) : Token → Traced Value
  | .text run => .ok (.string run)
  | .plain name =>
      match scope.get? name with
      | some value => .ok (plainForm value)
      | none => .fail (.variableNotFound name)
  | .filtered _ pipeline => pipelineValue registry scope pipeline
  | token => .fail (.invalidToken token.raw)

/-- What a token leaves in the output. Conditional tokens leave nothing, undefined ones their raw
text. -/
def tokenText (registry : Registry) (scope : Bindings) : Token → Traced String
  | .text run => .ok run
  | .undefined raw => .ok raw
  | token =>
      if token.isVariable then (tokenValue registry scope token).map Value.toText else .ok ""

/-- The output of a template, or the first error. -/
def render (registry : Registry) (scope : Bindings) : List Token → Traced String
  | [] => .ok ""
  | token :: rest =>
      (tokenText registry scope token).andThen fun text =>
        (render registry scope rest).map (text ++ ·)

/-- The value of a template: that of its placeholder if there is nothing else, and its output
otherwise. -/
def renderValue (registry : Registry) (scope : Bindings) (tokens : List Token) : Traced Value :=
  match tokens with
  | [token] =>
      if token.isVariable then tokenValue registry scope token
      else (render registry scope tokens).map Value.string
  | _ => (render registry scope tokens).map Value.string

end Templating.Evaluation
