import Templating.Calendar.Pattern
import Templating.Filter.Argument

/-!
# Formatting instants

An instant becomes text under a pattern. Text is left alone, so that a date may be formatted twice.
-/

namespace Templating.Filter

def format (value : Value) (arguments : List Value) : Except FilterError Value := do
  let pattern ←
    if arguments.isEmpty then pure Calendar.defaultPattern else textArgument arguments 0
  match value with
  | .timestamp time =>
      match Calendar.format time pattern.toList with
      | .ok text => return .string (String.ofList text)
      | .error letter =>
          throw (.invalidArgument 0
            ("'" ++ String.ofList [letter] ++ "' is not a date format character"))
  | .string text => return .string text
  | other => throw (wrongInput "timestamp or string" other)

end Templating.Filter
