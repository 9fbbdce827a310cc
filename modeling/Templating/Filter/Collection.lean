import Templating.Filter.Argument
import Templating.Text.Search
import Templating.Value.Path
import Templating.Value.Text

/-!
# Filters on lists and maps

Looking up, searching and indexing. An entry that is not there allows a default.
-/

namespace Templating.Filter

/-- The first character or the first item. -/
def first (value : Value) (_ : List Value) : Except FilterError Value :=
  match value with
  | .string text =>
      match text.toList with
      | c :: _ => .ok (.string (String.ofList [c]))
      | [] => .error (.allowsDefault "string is empty")
  | .list (item :: _) => .ok item
  | .list [] => .error (.allowsDefault "list is empty")
  | other => .error (wrongInput "string or list" other)

/-- The segments between the dots of a path. -/
def pathSegments (path : String) : List String :=
  (Text.splitAtChar '.' path.toList).map String.ofList

/-- Follows a dotted path. -/
def key (value : Value) (arguments : List Value) : Except FilterError Value :=
  if value.isNil then .error nilInput
  else do
    let path := (← argument arguments 0).toText
    match value.follow (pathSegments path) with
    | .ok found => return found
    | .error error => throw (.allowsDefault ("key '" ++ path ++ "': " ++ error.message))

/-- Whether a map has an entry `field` with the text `wanted`. -/
def hasField (field wanted : String) (entries : List (String × Value)) : Bool :=
  match Entries.get? field entries with
  | some value => value.toText == wanted
  | none => false

/-- The first map of a list that has a field with a text; a single map stands for itself. -/
def find (value : Value) (arguments : List Value) : Except FilterError Value := do
  let field := (← argument arguments 0).toText
  let wanted := (← argument arguments 1).toText
  let matching := fun (item : Value) => (item.map?.map (hasField field wanted)).getD false
  let found ← match value with
    | .list items => pure (items.find? matching)
    | .map _ => pure (if matching value then some value else none)
    | other => throw (wrongInput "list or map" other)
  match found with
  | some item => return item
  | none => throw (.allowsDefault ("no entry with " ++ field ++ " = '" ++ wanted ++ "'"))

/-- A map whose only entry is the value. -/
def wrap (value : Value) (arguments : List Value) : Except FilterError Value := do
  let name := (← argument arguments 0).toText
  return .map [(name, value)]

/-- One item of an index: the entries so far, with the item under the text of its field. -/
def indexItem (field : String) (entries : List (String × Value)) (item : Value) :
    Except FilterError (List (String × Value)) :=
  match item with
  | .map members =>
      match Entries.get? field members with
      | some (.string name) => .ok (Entries.insert name item entries)
      | some other => .error (.invalidValue "string key" other.kindName)
      | none => .ok entries
  | other => .error (.invalidValue "list of maps" other.kindName)

/-- The maps of a list by the text of one field. Items without the field are left out, and a later
item replaces an earlier one. -/
def index (value : Value) (arguments : List Value) : Except FilterError Value := do
  let field := (← argument arguments 0).toText
  match value with
  | .list items => return .map (← items.foldlM (indexItem field) [])
  | other => throw (wrongInput "list of maps" other)

end Templating.Filter
