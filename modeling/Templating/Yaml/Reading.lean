import Templating.Value
import Templating.Yaml.Node
import Templating.Yaml.Plain

/-!
# Reading YAML

The node of a text becomes a value. Plain scalars are read by what they mean, other scalars are
text; a tag of the core set can ask for one kind, and tags of other sets are refused. Names in maps
must be text, a repeated name keeps its first place and its last value.
-/

namespace Templating.Yaml

/-- Anchors met so far: the number that a name stands for now, and the nodes with a number, each
with its place in the text. -/
structure Anchors where
  numbers : List (String × Nat) := []
  nodes : List (Nat × Nat × Node Nat) := []
  place : Nat := 0

/-- Gives the anchor of a node a number: how many names are known before it. -/
def Anchors.open (anchors : Anchors) (marks : Marks) : Option (Nat × Nat) × Anchors :=
  let place := anchors.place
  match marks.anchor with
  | none => (none, { anchors with place := place + 1 })
  | some name =>
      let number := anchors.numbers.length
      (some (number, place),
        { anchors with
          numbers := Entries.insert name number anchors.numbers
          place := place + 1 })

def Anchors.close (anchors : Anchors) (key : Option (Nat × Nat)) (node : Node Nat) : Anchors :=
  match key with
  | none => anchors
  | some (number, place) => { anchors with nodes := (number, place, node) :: anchors.nodes }

/-- The last node in the text that has the number. -/
def Anchors.node? (anchors : Anchors) (number : Nat) : Option (Node Nat) :=
  let named := (anchors.nodes.filter fun entry => entry.1 == number).map Prod.snd
  let last := named.foldl (fun best entry =>
    match best with
    | none => some entry
    | some other => if other.1 < entry.1 then some entry else best) none
  last.map Prod.snd

mutual

/-- Replaces the names in aliases by numbers; an alias needs an anchor before it. -/
def link? (anchors : Anchors) : Node String → Option (Node Nat × Anchors)
  | .alias name => (anchors.numbers.lookup name).map fun number => (.alias number, anchors)
  | .scalar marks isPlain text =>
      let (key, anchors) := anchors.open marks
      let node := .scalar marks isPlain text
      some (node, anchors.close key node)
  | .sequence marks items =>
      let (key, anchors) := anchors.open marks
      match linkItems? anchors items with
      | none => none
      | some (items, anchors) =>
          let node := .sequence marks items
          some (node, anchors.close key node)
  | .mapping marks entries =>
      let (key, anchors) := anchors.open marks
      match linkEntries? anchors entries with
      | none => none
      | some (entries, anchors) =>
          let node := .mapping marks entries
          some (node, anchors.close key node)

def linkItems? (anchors : Anchors) : List (Node String) → Option (List (Node Nat) × Anchors)
  | [] => some ([], anchors)
  | item :: rest =>
      match link? anchors item with
      | none => none
      | some (item, anchors) =>
          (linkItems? anchors rest).map fun parts => (item :: parts.1, parts.2)

def linkEntries? (anchors : Anchors) :
    List (Node String × Node String) → Option (List (Node Nat × Node Nat) × Anchors)
  | [] => some ([], anchors)
  | (key, value) :: rest =>
      match link? anchors key with
      | none => none
      | some (key, anchors) =>
          match link? anchors value with
          | none => none
          | some (value, anchors) =>
              (linkEntries? anchors rest).map fun parts => ((key, value) :: parts.1, parts.2)

end

mutual

/-- How many marks of a text a node takes: one for a scalar or an alias, two around a collection. -/
def weight : Node Nat → Nat
  | .sequence _ items => weightItems items + 2
  | .mapping _ entries => weightEntries entries + 2
  | _ => 1

def weightItems : List (Node Nat) → Nat
  | [] => 0
  | item :: rest => weight item + weightItems rest

def weightEntries : List (Node Nat × Node Nat) → Nat
  | [] => 0
  | (key, value) :: rest => weight key + weight value + weightEntries rest

end

/-- Whether a tag belongs to a set of its own. -/
def isLocalTag (tag : List Nat) : Bool := tag.head? == some 0x21

/-- Whether no value can have a tag: it is of a set of its own, and it is text. -/
def isForeignTag (tag : List Nat) : Bool := isLocalTag tag && (Text.decodeStrictly? tag).isSome

/-- Integers beyond the range of signed words become floats up to the largest unsigned word; others
are refused. -/
def wholeValue? (value : Int) : Option Value :=
  match Decimal.int64? value with
  | some word => some (.int word)
  | none => if 0 ≤ value && value < UInt64.size then some (.float (Float.ofInt value)) else none

def plainValue? (text : String) : Option Value :=
  match plain text with
  | .null => some .nil
  | .bool value => some (.bool value)
  | .whole value => wholeValue? value
  | .float value => some (.float value)
  | .text => some (.string text)

/-- The value of a scalar. A local tag that is no text tags nothing where the scalar is plain. -/
def scalarValue? (tag : Option (List Nat)) (isPlain : Bool) (text : String) : Option Value :=
  match tag with
  | none => if isPlain then plainValue? text else some (.string text)
  | some tag =>
      if isForeignTag tag then none
      else if tag = coreTag "bool" then (boolWord? text).map Value.bool
      else if tag = coreTag "int" then (whole? text.toList).bind wholeValue?
      else if tag = coreTag "float" then (float? text.toList).map Value.float
      else if tag = coreTag "null" then if isNullWord text then some .nil else none
      else if isLocalTag tag && isPlain then plainValue? text
      else some (.string text)

/-- What reading needs to know of the whole text, and how many aliases it may follow. -/
structure Context where
  anchors : Anchors
  aliasLimit : Nat

/-- The node behind an alias; following it is counted. -/
def target? (context : Context) : Node Nat → StateT Nat Option (Node Nat)
  | .alias number => do
      let followed ← get
      set (followed + 1)
      if context.aliasLimit < followed + 1 then failure
      else
        match context.anchors.node? number with
        | some node => return node
        | none => failure
  | node => return node

def allowsTag (marks : Marks) : Bool := !marks.tag.any isForeignTag

/-- The value of a node, with at most `depth` collections inside one another. -/
def value? (context : Context) (depth : Nat) (node : Node Nat) : StateT Nat Option Value := do
  match ← target? context node, depth with
  | .scalar marks isPlain text, _ => StateT.lift (scalarValue? marks.tag isPlain text)
  | .sequence marks items, depth + 1 =>
      if allowsTag marks then return .list (← items.mapM (value? context depth)) else failure
  | .mapping marks entries, depth + 1 =>
      if allowsTag marks then
        let pairs ← entries.mapM fun (entry : Node Nat × Node Nat) => do
          match ← value? context depth entry.1 with
          | .string name => return (name, ← value? context depth entry.2)
          | _ => failure
        return .map (Entries.ofPairs pairs)
      else failure
  | _, _ => failure

def maxDepth : Nat := 128

def linked? (node : Node String) : Option (Node Nat × Context) :=
  (link? {} node).map fun parts => (parts.1, ⟨parts.2, 100 * weight parts.1⟩)

/-- A name of the outermost map: the text of any scalar. -/
def name? (context : Context) (node : Node Nat) : StateT Nat Option String := do
  match ← target? context node with
  | .scalar _ _ text => return text
  | _ => failure

end Templating.Yaml

namespace Templating

/-- The value of a YAML text; a text without a document is nil. -/
def Value.ofYaml? (text : String) : Option Value :=
  match Yaml.readNode? text.toList with
  | none => none
  | some none => some .nil
  | some (some node) => do
      let (node, context) ← Yaml.linked? node
      (Yaml.value? context Yaml.maxDepth node).run' 0

/-- The entries of a YAML text as they stand there; the text must be a map or empty. -/
def Yaml.entries? (text : String) : Option (Entries Value) :=
  match readNode? text.toList with
  | none => none
  | some none => some []
  | some (some node) => do
      let (node, context) ← linked? node
      match node with
      | .scalar _ true "" => return []
      | .mapping _ entries =>
          (entries.mapM fun (entry : Node Nat × Node Nat) => do
            let name ← name? context entry.1
            return (name, ← value? context (maxDepth - 1) entry.2)).run' 0
      | _ => none

/-- The variables of a YAML text. -/
def Bindings.ofYaml? (text : String) : Option Bindings :=
  (Yaml.entries? text).map NameMap.ofPairs

end Templating
