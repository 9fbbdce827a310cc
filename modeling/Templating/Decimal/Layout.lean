import Templating.Decimal.Shortest

/-!
# Layouts of float text

A layout says which powers of ten are written positionally, how the exponent looks and what stands
for the values without digits. The digits themselves are always the shortest.
-/

namespace Templating.Decimal

structure Layout where
  /-- Of two equally near digit strings, the one that is written. -/
  tie : Tie
  /-- The powers of the leading digit, first and past the last, that are written positionally;
  without bounds no exponent is ever written. -/
  window : Option (Int × Int)
  /-- Whether a whole number ends in a point and a zero. -/
  pointZero : Bool
  /-- Whether an exponent that is not negative has a plus sign. -/
  plusSign : Bool
  notANumber : String
  infinite : String

namespace Layout

/-- Digits with the point after the digit of power zero. -/
def positional (layout : Layout) (digits : List Char) (leading : Int) : List Char :=
  let whole := leading.toNat + 1
  if leading < 0 then
    '0' :: '.' :: List.replicate ((-leading).toNat - 1) '0' ++ digits
  else if digits.length ≤ whole then
    digits ++ List.replicate (whole - digits.length) '0' ++
      (if layout.pointZero then ['.', '0'] else [])
  else digits.take whole ++ '.' :: digits.drop whole

/-- One digit before the point, and the power of ten. -/
def exponential (layout : Layout) (digits : List Char) (leading : Int) : List Char :=
  let sign := if 0 ≤ leading && layout.plusSign then ['+'] else []
  let fraction := match digits.drop 1 with
    | [] => []
    | rest => '.' :: rest
  digits.take 1 ++ fraction ++ 'e' :: sign ++ writeInteger leading

def magnitude (layout : Layout) (value : Float) : List Char :=
  match kindOf value with
  | .notANumber => layout.notANumber.toList
  | .infinite => layout.infinite.toList
  | .zero => layout.positional ['0'] 0
  | .finite binary =>
      let number := shortest layout.tie binary
      let digits := writeNat number.significand
      let leading := number.power + digits.length - 1
      match layout.window with
      | none => layout.positional digits leading
      | some (first, past) =>
          if first ≤ leading && leading < past then layout.positional digits leading
          else layout.exponential digits leading

/-- The text of a float; a value that is not a number has no sign. -/
def write (layout : Layout) (value : Float) : List Char :=
  match kindOf value with
  | .notANumber => layout.magnitude value
  | _ => if isNegative value then '-' :: layout.magnitude value else layout.magnitude value

end Layout

end Templating.Decimal
