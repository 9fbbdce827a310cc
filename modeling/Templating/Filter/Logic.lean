import Templating.Decimal.Reading
import Templating.Filter.Argument
import Templating.Value.Equality

/-!
# Comparing and negating

Numbers are compared as floats, and text that reads as a number counts as one.
-/

namespace Templating.Filter

/-- The distance from one to the next larger float. -/
def tolerance : Float := Float.ofBits 0x3cb0000000000000

/-- The numeric view of a value; text is read without the blanks around it. -/
def numeric? : Value → Option Float
  | .string text => Decimal.readFloat? (Text.trim text.toList)
  | value => value.number?

/-- Numbers are equal when they differ by less than the tolerance. -/
def equal (value : Value) (arguments : List Value) : Except FilterError Value := do
  let other ← argument arguments 0
  match numeric? value, numeric? other with
  | some first, some second => return .bool ((first - second).abs < tolerance)
  | _, _ => return .bool (value.same other)

/-- Whether the value is greater than the argument. -/
def greater (value : Value) (arguments : List Value) : Except FilterError Value := do
  match numeric? value with
  | none => throw (.invalidValue "number" value.kindName)
  | some first =>
      let other ← argument arguments 0
      match numeric? other with
      | none => throw (.invalidArgument 0 ("expected number, got " ++ other.kindName))
      | some second => return .bool (second < first)

def negate (value : Value) (_ : List Value) : Except FilterError Value :=
  .ok (.bool (!value.isTruthy))

end Templating.Filter
