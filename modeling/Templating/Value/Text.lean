import Templating.Value.Json

/-!
# Values as text

The text that a value leaves in the output of a template.
-/

namespace Templating.Value

/-- The fewest digits that read back, never with an exponent; whole numbers have no point, and of
two equally near digit strings the larger is written. -/
def floatLayout : Decimal.Layout where
  tie := .up
  window := none
  pointZero := false
  plusSign := false
  notANumber := "NaN"
  infinite := "inf"

/-- Nil leaves nothing, a timestamp whole seconds, lists and maps compact JSON. -/
def toText : Value → String
  | nil => ""
  | bool true => "true"
  | bool false => "false"
  | int value => String.ofList (Decimal.writeInteger value.toInt)
  | float value => String.ofList (floatLayout.write value)
  | string text => text
  | timestamp time => String.ofList (Calendar.wholeText time)
  | value => value.toJson

end Templating.Value
