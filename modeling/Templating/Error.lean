/-!
# Errors

What can go wrong in a filter and in a template, with the message of each. Wrapping errors carry the
error inside; its root is the innermost one.
-/

namespace Templating

inductive FilterError where
  | invalidValue (expected actual : String)
  | missingArgument (position : Nat)
  | invalidArgument (position : Nat) (reason : String)
  /-- The filter has no value to give, which a fallback filter may mend. -/
  | allowsDefault (reason : String)
  | failed (reason : String)
  deriving DecidableEq

namespace FilterError

def message : FilterError → String
  | invalidValue expected actual => "expected " ++ expected ++ ", got " ++ actual
  | missingArgument position => "missing argument at position " ++ toString position
  | invalidArgument position reason =>
      "invalid argument at position " ++ toString position ++ ": " ++ reason
  | allowsDefault reason => "no value, fallback allowed: " ++ reason
  | failed reason => reason

def isAllowsDefault : FilterError → Bool
  | allowsDefault _ => true
  | _ => false

end FilterError

/-- Why strict reading refuses a placeholder. -/
inductive Malformed where
  | unclosed
  | unreadable (raw : String)
  deriving DecidableEq

def Malformed.message : Malformed → String
  | unclosed => "placeholder is never closed"
  | unreadable raw => "'" ++ raw ++ "' is not a variable or filter pipeline"

inductive TemplateError where
  | variableNotFound (name : String)
  | functionNotFound (name : String)
  | functionApplyFailed (name : String) (source : FilterError)
  | circularDependency (chain : List String)
  | invalidToken (raw : String)
  | malformedTemplate (offset : Nat) (reason : Malformed)
  | cancelled
  /-- The entry of a batch, or of a map inside one, in which the error arose. -/
  | inVariable (name : String) (source : TemplateError)
  | parseFailed (source : TemplateError)
  | renderFailed (source : TemplateError)
  deriving DecidableEq

namespace TemplateError

def message : TemplateError → String
  | variableNotFound name => "variable not found: " ++ name
  | functionNotFound name => "function not found: " ++ name
  | functionApplyFailed name source =>
      "function '" ++ name ++ "' failed to apply: " ++ source.message
  | circularDependency chain =>
      "circular dependency detected: " ++ String.intercalate " -> " chain
  | invalidToken raw => "invalid token: " ++ raw
  | malformedTemplate offset reason =>
      "malformed template at byte " ++ toString offset ++ ": " ++ reason.message
  | cancelled => "operation cancelled"
  | inVariable name source => "failed to render variable '" ++ name ++ "': " ++ source.message
  | parseFailed source => "failed to parse template: " ++ source.message
  | renderFailed source => "failed to render template: " ++ source.message

/-- The error inside all wrappings. -/
def root : TemplateError → TemplateError
  | inVariable _ source => source.root
  | parseFailed source => source.root
  | renderFailed source => source.root
  | error => error

/-- The messages of the error and of those inside it, from the outermost. -/
def messages : TemplateError → List String
  | inVariable name source => (inVariable name source).message :: source.messages
  | parseFailed source => (parseFailed source).message :: source.messages
  | renderFailed source => (renderFailed source).message :: source.messages
  | functionApplyFailed name source =>
      [(functionApplyFailed name source).message, source.message]
  | error => [error.message]

def isVariableNotFound (error : TemplateError) : Bool :=
  match error.root with
  | variableNotFound _ => true
  | _ => false

def isFunctionNotFound (error : TemplateError) : Bool :=
  match error.root with
  | functionNotFound _ => true
  | _ => false

def isFunctionApplyFailed (error : TemplateError) : Bool :=
  match error.root with
  | functionApplyFailed _ _ => true
  | _ => false

def isCircularDependency (error : TemplateError) : Bool :=
  match error.root with
  | circularDependency _ => true
  | _ => false

def isCancelled (error : TemplateError) : Bool :=
  match error.root with
  | cancelled => true
  | _ => false

end TemplateError

end Templating
