import Templating.Toml.Reading
import Templating.Value.Overlay

/-!
# Key paths

A key of the settings may be a path: a name, then names after dots and positions in square brackets.
Names have the characters of bare TOML keys, and a negative position counts from the end. A key of
any other form is one name.
-/

namespace Templating.Settings

inductive KeyStep where
  | name (name : String)
  | position (position : Int)
  deriving DecidableEq

/-- A position after its opening bracket. -/
def position? (text : List Char) : Option (Int × List Char) := do
  let text := Toml.skipBlanks text
  let (negative, text) := match text with
    | '-' :: rest => (true, rest)
    | rest => (false, rest)
  let size ← Decimal.readDigits? (text.takeWhile Char.isDigit)
  let value ← Decimal.int64? (if negative then -(size : Int) else size)
  match Toml.skipBlanks (text.dropWhile Char.isDigit) with
  | ']' :: rest => some (value.toInt, rest)
  | _ => none

/-- The steps up to the end of a text, each with its dot or bracket. -/
def keySteps? : Nat → List Char → Option (List KeyStep)
  | _, [] => some []
  | 0, _ => none
  | fuel + 1, '.' :: rest => do
      let name := rest.takeWhile Toml.isBareKeyChar
      if name.isEmpty then none
      else
        let steps ← keySteps? fuel (rest.dropWhile Toml.isBareKeyChar)
        return .name (String.ofList name) :: steps
  | fuel + 1, '[' :: rest => do
      let (position, rest) ← position? rest
      return .position position :: (← keySteps? fuel rest)
  | _, _ => none

/-- The path that a key stands for. Each step takes a character at least. -/
def keyPath (key : String) : List KeyStep :=
  (keySteps? (key.length + 1) ('.' :: key.toList)).getD [.name key]

/-- The list with nothing in the places up to a position, and that position from the start. -/
def reach (position : Int) (items : List Value) : List Value × Nat :=
  let count := position.natAbs
  if 0 ≤ position then (items ++ List.replicate (count + 1 - items.length) .nil, count)
  else (List.replicate (count - items.length) .nil ++ items, items.length - count)

/-- Changes the value at the end of a path. What is no map on the way to a name becomes one, and
what is no list on the way to a position becomes one. -/
def changeAt (change : Value → Value) : List KeyStep → Value → Value
  | [], value => change value
  | .name name :: path, value =>
      let inner := (Entries.get? name value.entries).getD .nil
      .map (Entries.insert name (changeAt change path inner) value.entries)
  | .position position :: path, value =>
      let (items, index) := reach position value.items
      .list (items.modify index (changeAt change path))

/-- Lays the entries over a value one by one, each at the path of its key. -/
def layOver (value : Value) (entries : Entries Value) : Value :=
  entries.foldl (fun value entry => changeAt (·.overlay entry.2) (keyPath entry.1) value) value

end Templating.Settings
