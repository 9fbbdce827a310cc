import Templating.Calendar.Timestamp
import Templating.NameMap

/-!
# Values

Every variable, every filter argument and every filter result is a value of one of eight kinds. A
map inside a value keeps its entries in order; `WellFormed` says that its names are distinct.
-/

namespace Templating

open Calendar (Timestamp)

inductive Value where
  | nil
  | bool (value : Bool)
  | int (value : Int64)
  | float (value : Float)
  | string (text : String)
  | list (items : List Value)
  | map (entries : List (String × Value))
  | timestamp (time : Timestamp)

/-- Variables by name. A dotted name is one name. -/
abbrev Bindings := NameMap Value

namespace Value

instance : Inhabited Value := ⟨nil⟩

/-- The word for the kind of a value in messages. -/
def kindName : Value → String
  | nil => "nil"
  | bool _ => "bool"
  | int _ => "int"
  | float _ => "float"
  | string _ => "string"
  | list _ => "list"
  | map _ => "map"
  | timestamp _ => "timestamp"

def isNil : Value → Bool
  | nil => true
  | _ => false

theorem isNil_iff {value : Value} : value.isNil = true ↔ value = .nil := by
  cases value <;> simp [isNil]

def string? : Value → Option String
  | string text => some text
  | _ => none

def bool? : Value → Option Bool
  | bool value => some value
  | _ => none

def int? : Value → Option Int64
  | int value => some value
  | _ => none

/-- Integers and floats as a float; large integers are rounded to the nearest float. -/
def number? : Value → Option Float
  | int value => some (.ofModel (.ofInt64 value))
  | float value => some value
  | _ => none

def list? : Value → Option (List Value)
  | list items => some items
  | _ => none

def map? : Value → Option (List (String × Value))
  | map entries => some entries
  | _ => none

mutual

/-- No map inside the value has a name twice. -/
def WellFormed : Value → Prop
  | list items => WellFormedItems items
  | map entries => (Entries.names entries).Nodup ∧ WellFormedEntries entries
  | _ => True

def WellFormedItems : List Value → Prop
  | [] => True
  | item :: rest => item.WellFormed ∧ WellFormedItems rest

def WellFormedEntries : List (String × Value) → Prop
  | [] => True
  | (_, value) :: rest => value.WellFormed ∧ WellFormedEntries rest

end

/-- Whether the value counts as set. Numbers must be positive, and the text `false` does not
count. -/
def isTruthy : Value → Bool
  | nil => false
  | bool value => value
  | int value => 0 < value
  | float value => 0.0 < value
  | string text => text ≠ "" && text ≠ "false"
  | list items => !items.isEmpty
  | map entries => !entries.isEmpty
  | timestamp _ => true

end Value

namespace Bindings

/-- The variables as one value. -/
def toValue (bindings : Bindings) : Value := .map bindings.entries

end Bindings

end Templating
