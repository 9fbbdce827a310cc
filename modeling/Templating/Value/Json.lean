import Templating.Json.Reading
import Templating.Json.Writing
import Templating.Value

/-!
# Values as JSON

A value is written as the tree of its shape: timestamps become text, floats without digits become
null. Reading goes from a tree to a value by two routes, which agree: `ofTree?` tries the kinds of
values in a fixed order, `ofDocument` goes by the shape of a document that was made of the tree.
-/

namespace Templating.Value

open Json (Tree Number)

/-- Floats that are infinite or no number have no JSON form. -/
def numberTree (value : Float) : Tree :=
  if value.isFinite then .number (.float value) else .null

def integerTree (value : Int64) : Tree :=
  if value < 0 then .number (.negative value)
  else .number (.natural value.toUInt64)

mutual

def toTree : Value → Tree
  | nil => .null
  | bool value => .bool value
  | int value => integerTree value
  | float value => numberTree value
  | string text => .string text
  | list items => .array (toTrees items)
  | map entries => .object (toMembers entries)
  | timestamp time => .string (String.ofList (Calendar.preciseText time))

def toTrees : List Value → List Tree
  | [] => []
  | item :: rest => toTree item :: toTrees rest

def toMembers : List (String × Value) → List (String × Tree)
  | [] => []
  | (name, value) :: rest => (name, toTree value) :: toMembers rest

end

/-- The compact JSON text. -/
def toJson (value : Value) : String := String.ofList value.toTree.compact

/-- The indented JSON text. -/
def toIndentedJson (value : Value) : String := String.ofList (value.toTree.indented 0)

/-- A whole number that a signed word holds. -/
def wholeNumber? : Number → Option Int64
  | .natural value => Decimal.int64? value.toNat
  | .negative value => some value
  | .float _ => none

/-- Any number, rounded to a float. -/
def floatNumber : Number → Float
  | .natural value => Float.ofNat value.toNat
  | .negative value => Float.ofInt value.toInt
  | .float value => value

/-- Scalars, by the first kind that takes them. -/
def scalar? (tree : Tree) : Option Value :=
  let asNil := match tree with
    | .null => some nil
    | _ => none
  let asBool := match tree with
    | .bool value => some (bool value)
    | _ => none
  let asInt := match tree with
    | .number number => (wholeNumber? number).map int
    | _ => none
  let asFloat := match tree with
    | .number number => some (float (floatNumber number))
    | _ => none
  let asString := match tree with
    | .string text => some (string text)
    | _ => none
  asNil <|> asBool <|> asInt <|> asFloat <|> asString

mutual

/-- Scalars first, then lists, then maps; in a map the last value of a name wins. -/
def ofTree? : Tree → Option Value
  | .array items => (ofTrees? items).map list
  | .object members => (ofMembers? members).map fun pairs => map (Entries.ofPairs pairs)
  | scalar => scalar? scalar

def ofTrees? : List Tree → Option (List Value)
  | [] => some []
  | item :: rest =>
      match ofTree? item, ofTrees? rest with
      | some value, some values => some (value :: values)
      | _, _ => none

def ofMembers? : List (String × Tree) → Option (List (String × Value))
  | [] => some []
  | (name, item) :: rest =>
      match ofTree? item, ofMembers? rest with
      | some value, some values => some ((name, value) :: values)
      | _, _ => none

end

/-- Whole numbers in range are integers, all others floats. -/
def ofNumber (number : Number) : Value :=
  match wholeNumber? number with
  | some value => int value
  | none => float (floatNumber number)

mutual

/-- The value of a document. -/
def ofDocument : Tree → Value
  | .null => nil
  | .bool value => bool value
  | .number number => ofNumber number
  | .string text => string text
  | .array items => list (ofDocuments items)
  | .object members => map (Entries.ofPairs (ofDocumentMembers members))

def ofDocuments : List Tree → List Value
  | [] => []
  | item :: rest => ofDocument item :: ofDocuments rest

def ofDocumentMembers : List (String × Tree) → List (String × Value)
  | [] => []
  | (name, item) :: rest => (name, ofDocument item) :: ofDocumentMembers rest

end

/-- The value of a JSON text. -/
def ofJson? (text : String) : Option Value := (Json.read? text).bind ofTree?

/-- The value of a JSON text by way of a document. -/
def ofJsonDocument? (text : String) : Option Value :=
  (Json.read? text).map fun tree => ofDocument tree.document

end Templating.Value

namespace Templating.Bindings

open Json (Tree)

/-- The variables of a JSON text, which must be an object. -/
def ofJson? (text : String) : Option Bindings :=
  match Json.read? text with
  | some (.object members) => (Value.ofMembers? members).map NameMap.ofPairs
  | _ => none

/-- Indented JSON with a line break at the end. -/
def toJsonLines (bindings : Bindings) : String := bindings.toValue.toIndentedJson ++ "\n"

end Templating.Bindings
