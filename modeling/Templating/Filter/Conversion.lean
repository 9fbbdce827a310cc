import Templating.Filter.Argument
import Templating.Value.Json
import Templating.Yaml.Reading
import Templating.Yaml.Writing

/-!
# Filters between values and formats

JSON and YAML texts of values, and values of such texts.
-/

namespace Templating.Filter

/-- JSON text, indented when the first argument is the text `pretty`. -/
def json (value : Value) (arguments : List Value) : Except FilterError Value :=
  if arguments.head?.bind Value.string? = some "pretty" then .ok (.string value.toIndentedJson)
  else .ok (.string value.toJson)

def yaml (value : Value) (_ : List Value) : Except FilterError Value :=
  .ok (.string value.toYaml)

/-- The value of a text in the format that the first argument names. The message for a text that is
refused stops at its colon: the parser's own words, which follow there, are left out. -/
def parse (value : Value) (arguments : List Value) : Except FilterError Value := do
  let format ← textArgument arguments 0
  let text ← textInput value
  if format = "json" then
    match Value.ofJson? text with
    | some value => return value
    | none => throw (.failed "failed to parse JSON: ")
  else if format = "yaml" then
    match Value.ofYaml? text with
    | some value => return value
    | none => throw (.failed "failed to parse YAML: ")
  else
    throw (.invalidArgument 0
      ("unsupported format '" ++ format ++ "', expected 'json' or 'yaml'"))

end Templating.Filter
