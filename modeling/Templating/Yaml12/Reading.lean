import Templating.Value
import Templating.Yaml12.Node

/-!
# Reading YAML 1.2

The entries of a text that is one map. Keys are scalars and count by their spelling; a null key is
refused, and so is a number that has no finite value.
-/

namespace Templating.Yaml12

/-- The name that a key stands for. -/
def Node.name? : Node → Option String
  | .text value => some value
  | .int value => some (String.ofList (Decimal.writeInteger value.toInt))
  | .bool value => some (if value then "true" else "false")
  | .real spelling => some spelling
  | _ => none

mutual

def Node.value? : Node → Option Value
  | .bool value => some (.bool value)
  | .int value => some (.int value)
  | .real spelling => (Decimal.readFloat? spelling.toList).map Value.float
  | .text value => some (.string value)
  | .list items => (itemValues? items).map Value.list
  | .map entries => (entryValues? entries).map fun entries => .map (Entries.ofPairs entries)
  | .null => some .nil
  | .unusable => some .nil

def itemValues? : List Node → Option (List Value)
  | [] => some []
  | item :: rest => do
      let value ← item.value?
      return value :: (← itemValues? rest)

def entryValues? : List (Node × Node) → Option (Entries Value)
  | [] => some []
  | (key, item) :: rest => do
      let name ← key.name?
      let value ← item.value?
      return (name, value) :: (← entryValues? rest)

end

/-- The entries of a text; one without a document has none. -/
def entries? (text : String) : Option (Entries Value) :=
  match readNode? text.toList with
  | none => none
  | some none => some []
  | some (some (.map entries)) => entryValues? entries
  | some (some _) => none

end Templating.Yaml12
