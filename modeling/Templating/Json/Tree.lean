import Templating.NameMap

/-!
# JSON trees

A tree keeps what a text says: the members of an object in order, with repeated names, and numbers
apart by sign and by whether they are whole.
-/

namespace Templating.Json

/-- A whole number in the range of words, or a float. -/
inductive Number where
  | natural (value : UInt64)
  | negative (value : Int64)
  | float (value : Float)

inductive Tree where
  | null
  | bool (value : Bool)
  | number (value : Number)
  | string (text : String)
  | array (items : List Tree)
  | object (members : List (String × Tree))

namespace Tree

instance : Inhabited Tree := ⟨null⟩

mutual

/-- How many arrays and objects stand inside one another. -/
def depth : Tree → Nat
  | array items => depthItems items + 1
  | object members => depthMembers members + 1
  | _ => 0

def depthItems : List Tree → Nat
  | [] => 0
  | item :: rest => max (depth item) (depthItems rest)

def depthMembers : List (String × Tree) → Nat
  | [] => 0
  | (_, item) :: rest => max (depth item) (depthMembers rest)

end

mutual

/-- The tree as a document keeps it: a repeated name has its first place and its last value, and a
float that is infinite or no number is dropped for null. -/
def document : Tree → Tree
  | number (.float value) => if value.isFinite then number (.float value) else null
  | array items => array (documentItems items)
  | object members => object (Entries.ofPairs (documentMembers members))
  | other => other

def documentItems : List Tree → List Tree
  | [] => []
  | item :: rest => document item :: documentItems rest

def documentMembers : List (String × Tree) → List (String × Tree)
  | [] => []
  | (name, item) :: rest => (name, document item) :: documentMembers rest

end

end Tree

end Templating.Json
