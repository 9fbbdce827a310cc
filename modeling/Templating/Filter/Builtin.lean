import Templating.Filter
import Templating.Filter.Collection
import Templating.Filter.Conversion
import Templating.Filter.Date
import Templating.Filter.Logic
import Templating.Filter.Text

/-!
# The built-in filters

Twenty-three filters that transform their input, and the one that supplies a default.
-/

namespace Templating

namespace Filter

/-- Puts the first argument in place of nil and of empty text. -/
def default (value : Value) (arguments : List Value) : Except FilterError Value := do
  let other ← argument arguments 0
  match value with
  | .nil => return other
  | .string text => return if text = "" then other else .string text
  | value => return value

end Filter

namespace Registry

def builtin : Registry :=
  ofPairs [
    ("trim", .transform Filter.trim),
    ("shorten", .transform Filter.shorten),
    ("length", .transform Filter.length),
    ("lines", .transform Filter.lines),
    ("join", .transform Filter.join),
    ("split", .transform Filter.split),
    ("concat", .transform Filter.concat),
    ("slug", .transform Filter.slug),
    ("title", .transform Filter.title),
    ("upper", .transform Filter.upper),
    ("lower", .transform Filter.lower),
    ("first", .transform Filter.first),
    ("key", .transform Filter.key),
    ("find", .transform Filter.find),
    ("wrap", .transform Filter.wrap),
    ("map", .transform Filter.index),
    ("json", .transform Filter.json),
    ("yaml", .transform Filter.yaml),
    ("from", .transform Filter.parse),
    ("eq", .transform Filter.equal),
    ("gt", .transform Filter.greater),
    ("not", .transform Filter.negate),
    ("format", .transform Filter.format),
    ("default", .fallback Filter.default)]

end Registry

end Templating
