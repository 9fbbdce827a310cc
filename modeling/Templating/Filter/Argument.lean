import Templating.Decimal.Integer
import Templating.Error
import Templating.Text.Blank
import Templating.Value

/-!
# Arguments of filters

What filters ask of their arguments and of their input, and the errors when it is not there.
-/

namespace Templating.Filter

def argument (arguments : List Value) (position : Nat) : Except FilterError Value :=
  match arguments[position]? with
  | some value => .ok value
  | none => .error (.missingArgument position)

/-- The argument as text. -/
def textArgument (arguments : List Value) (position : Nat) : Except FilterError String :=
  (argument arguments position).bind fun value =>
    match value with
    | .string text => .ok text
    | other => .error (.invalidArgument position ("expected string, got " ++ other.kindName))

/-- The argument as an integer; text is read as one, without the blanks around it. -/
def integerArgument (arguments : List Value) (position : Nat) : Except FilterError Int64 :=
  (argument arguments position).bind fun value =>
    match value with
    | .int value => .ok value
    | .string text =>
        match Decimal.readInt64? (Text.trim text.toList) with
        | some value => .ok value
        | none => .error (.invalidArgument position ("'" ++ text ++ "' is not an integer"))
    | other => .error (.invalidArgument position ("expected integer, got " ++ other.kindName))

/-- The error for nil where a value is needed; a fallback may mend it. -/
def nilInput : FilterError := .allowsDefault "value is nil"

/-- The error for an input of the wrong kind; nil may be mended. -/
def wrongInput (expected : String) (value : Value) : FilterError :=
  if value.isNil then nilInput else .invalidValue expected value.kindName

def textInput : Value → Except FilterError String
  | .string text => .ok text
  | other => .error (wrongInput "string" other)

end Templating.Filter
