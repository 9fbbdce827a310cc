import Templating.NameMap
import Templating.Yaml12.Lexeme
import Templating.Yaml12.Scheme

/-!
# YAML 1.2 nodes

The lexemes of a document make one node. An alias stands for the node that its anchor names, once
that node is complete. A mapping may not have one scalar twice among its keys.
-/

namespace Templating.Yaml12

/-- Where reading stands: the lexemes ahead, what handles stand for, the number of each anchor, and
the nodes that carry a number. -/
structure Progress where
  rest : List Lexeme
  handles : List (List Char × List Char) := []
  anchors : List (String × Nat) := []
  count : Nat := 0
  nodes : List (Nat × Node) := []

abbrev Reader := StateT Progress Option

namespace Reader

def ahead : Reader (List Lexeme) := do return (← get).rest

def skip (count : Nat) : Reader Unit :=
  modify fun progress => { progress with rest := progress.rest.drop count }

def setAnchor (name : String) : Reader Nat := do
  let progress ← get
  set { progress with
    anchors := Entries.insert name progress.count progress.anchors, count := progress.count + 1 }
  return progress.count

/-- The tag that a handle and a suffix make. A handle between two exclamation marks must be known
unless it is the core one. -/
def resolveTag (handle suffix : List Char) : Reader (List Char × List Char) := do
  match (← get).handles.lookup handle with
  | some leader => return (leader, suffix)
  | none =>
      if handle = ['!', '!'] then return (coreTag, suffix)
      else if 2 ≤ handle.length && handle.head? = some '!' && handle.getLast? = some '!' then
        failure
      else return (handle, suffix)

/-- The anchor and the tag in front of a node, in either order. -/
def marks : Reader (Option Nat × Option (List Char × List Char)) := do
  match ← ahead with
  | .anchor name :: .tag handle suffix :: _ => do
      skip 2
      return (some (← setAnchor name), some (← resolveTag handle suffix))
  | .tag handle suffix :: .anchor name :: _ => do
      skip 2
      let tag ← resolveTag handle suffix
      return (some (← setAnchor name), some tag)
  | .anchor name :: _ => do
      skip 1
      return (some (← setAnchor name), none)
  | .tag handle suffix :: _ => do
      skip 1
      return (none, some (← resolveTag handle suffix))
  | _ => return (none, none)

/-- The node that a name stands for now. -/
def target (name : String) : Reader Node := do
  let progress ← get
  match progress.anchors.lookup name with
  | none => failure
  | some number => return (progress.nodes.lookup number).getD .unusable

def complete (number : Option Nat) (node : Node) : Reader Node := do
  if let some number := number then
    modify fun progress => { progress with nodes := (number, node) :: progress.nodes }
  return node

end Reader

def isUnusable : Node → Bool
  | .unusable => true
  | _ => false

/-- Whether two scalars are the same; collections are never taken for equal. -/
def sameScalar : Node → Node → Bool
  | .null, .null => true
  | .bool first, .bool second => first == second
  | .int first, .int second => first == second
  | .real first, .real second => first == second
  | .text first, .text second => first == second
  | _, _ => false

/-- Puts the nodes of a mapping together, keys and values by turns. An unusable key is replaced by
the node after it. -/
def pairUp? : Option Node → List (Node × Node) → List Node → Option (List (Node × Node))
  | _, entries, [] => some entries.reverse
  | none, entries, node :: rest =>
      pairUp? (if isUnusable node then none else some node) entries rest
  | some key, entries, node :: rest =>
      if entries.any fun entry => sameScalar entry.1 key then none
      else pairUp? none ((key, node) :: entries) rest

def endsPart (lexemes : List Lexeme) (ends : List Lexeme) : Bool :=
  lexemes.head?.any ends.contains

/-- What ends a key or a value of a block mapping where nothing is written. -/
def blockEnds : List Lexeme := [.key, .value, .blockEnd]

open Reader

mutual

/-- One node. `block` allows block collections, `indentless` a sequence at the level of the key. -/
def node : Nat → Bool → Bool → Reader Node
  | 0, _, _ => failure
  | fuel + 1, block, indentless => do
      if let .alias name :: _ ← ahead then
        skip 1
        target name
      else
        let (number, tag) ← marks
        match ← ahead, block, indentless with
        | .blockEntry :: _, _, true => complete number (.list (← indentlessItems fuel))
        | .scalar isPlain text :: _, _, _ => do
            skip 1
            complete number (scalarNode tag isPlain text)
        | .flowSequenceStart :: _, _, _ => do
            skip 1
            complete number (.list (← flowItems fuel true))
        | .flowMappingStart :: _, _, _ => do
            skip 1
            mapping number (← flowEntries fuel true)
        | .blockSequenceStart :: _, true, _ => do
            skip 1
            complete number (.list (← blockItems fuel))
        | .blockMappingStart :: _, true, _ => do
            skip 1
            mapping number (← blockEntries fuel)
        | _, _, _ =>
            if number.isSome || tag.isSome then complete number (scalarNode tag true "")
            else failure
where
  mapping (number : Option Nat) (nodes : List Node) : Reader Node :=
    match pairUp? none [] nodes with
    | some entries => complete number (.map entries)
    | none => failure

/-- Items after dashes, up to the end of the block. -/
def blockItems : Nat → Reader (List Node)
  | 0 => failure
  | fuel + 1 => do
      match ← ahead with
      | .blockEnd :: _ => do
          skip 1
          return []
      | .blockEntry :: rest => do
          skip 1
          let item ← if endsPart rest [.blockEntry, .blockEnd] then pure Node.null
            else node fuel true false
          return item :: (← blockItems fuel)
      | _ => failure

/-- Items after dashes at the level of a key; anything else ends them. -/
def indentlessItems : Nat → Reader (List Node)
  | 0 => failure
  | fuel + 1 => do
      match ← ahead with
      | .blockEntry :: rest => do
          skip 1
          let item ← if endsPart rest [.blockEntry, .key, .value, .blockEnd] then pure Node.null
            else node fuel true false
          return item :: (← indentlessItems fuel)
      | _ => return []

/-- Keys and values up to the end of the block; either may be left out. -/
def blockEntries : Nat → Reader (List Node)
  | 0 => failure
  | fuel + 1 => do
      match ← ahead with
      | .blockEnd :: _ => do
          skip 1
          return []
      | .key :: rest => do
          skip 1
          let key ← if endsPart rest blockEnds then pure Node.null else node fuel true true
          let value ← blockValue fuel
          return key :: value :: (← blockEntries fuel)
      | .value :: _ => do
          let value ← blockValue fuel
          return .null :: value :: (← blockEntries fuel)
      | _ => failure

def blockValue : Nat → Reader Node
  | 0 => failure
  | fuel + 1 => do
      match ← ahead with
      | .value :: rest => do
          skip 1
          if endsPart rest blockEnds then return .null else node fuel true true
      | _ => return .null

/-- Items between brackets; an item may be a single key with its value. -/
def flowItems : Nat → Bool → Reader (List Node)
  | 0, _ => failure
  | fuel + 1, first => do
      if endsPart (← ahead) [.flowSequenceEnd] then
        skip 1
        return []
      else
        if !first then
          if endsPart (← ahead) [.flowEntry] then skip 1 else failure
        match ← ahead with
        | .flowSequenceEnd :: _ => do
            skip 1
            return []
        | .key :: _ => do
            skip 1
            let item ← flowPair fuel
            return item :: (← flowItems fuel false)
        | _ => do
            let item ← node fuel false false
            return item :: (← flowItems fuel false)

/-- A key and its value as an item of a sequence. A key that is left out takes the mark after it
along. -/
def flowPair : Nat → Reader Node
  | 0 => failure
  | fuel + 1 => do
      let key ← if endsPart (← ahead) [.value, .flowEntry, .flowSequenceEnd] then do
          skip 1
          pure Node.null
        else node fuel false false
      let value ← flowValue fuel .flowSequenceEnd
      match pairUp? none [] [key, value] with
      | some entries => return .map entries
      | none => failure

/-- The value after a key between brackets or braces; without a colon nothing is there. -/
def flowValue : Nat → Lexeme → Reader Node
  | 0, _ => failure
  | fuel + 1, close => do
      match ← ahead with
      | .value :: rest => do
          skip 1
          if endsPart rest [.flowEntry, close] then return .null else node fuel false false
      | _ => return .null

/-- Keys and values between braces; a key without a mark of its own stands alone. -/
def flowEntries : Nat → Bool → Reader (List Node)
  | 0, _ => failure
  | fuel + 1, first => do
      if endsPart (← ahead) [.flowMappingEnd] then
        skip 1
        return []
      else
        if !first then
          if endsPart (← ahead) [.flowEntry] then skip 1 else failure
        match ← ahead with
        | .flowMappingEnd :: _ => do
            skip 1
            return []
        | .key :: rest => do
            skip 1
            let key ← if endsPart rest [.value, .flowEntry, .flowMappingEnd] then pure Node.null
              else node fuel false false
            let value ← flowValue fuel .flowMappingEnd
            return key :: value :: (← flowEntries fuel false)
        | .value :: _ => do
            let value ← flowValue fuel .flowMappingEnd
            return .null :: value :: (← flowEntries fuel false)
        | _ => do
            let key ← node fuel false false
            return key :: .null :: (← flowEntries fuel false)

end

/-- The directives in front of a document. Only the last of them tells what a handle stands for, and
a version may be given once. -/
def directives? : Bool → List (List Char × List Char) → List Lexeme →
    Option (List (List Char × List Char) × List Lexeme)
  | seen, _, .version :: rest => if seen then none else directives? true [] rest
  | seen, _, .tagHandle handle leader :: rest => directives? seen [(handle, leader)] rest
  | _, handles, rest => some (handles, rest)

/-- Whether a document that has begun ends before any content. -/
def endsDocument : List Lexeme → Bool
  | .version :: _ => true
  | .tagHandle _ _ :: _ => true
  | .documentStart :: _ => true
  | .documentEnd :: _ => true
  | .streamEnd :: _ => true
  | _ => false

def dropDocumentEnds (lexemes : List Lexeme) : List Lexeme :=
  lexemes.dropWhile (· == .documentEnd)

/-- The only document of a text; nothing for a text without one. -/
def document? (lexemes : List Lexeme) : Option (Option Node) := do
  let lexemes := dropDocumentEnds lexemes
  if lexemes.head? == some .streamEnd then return none
  let fuel := 4 * lexemes.length + 4
  let (handles, rest) ← directives? false [] lexemes
  let (node, progress) ←
    match rest with
    | .documentStart :: rest =>
        if endsDocument rest then some (Node.null, { rest := rest })
        else (node fuel true false).run { rest := rest, handles := handles }
    | rest =>
        if rest.length < lexemes.length then none
        else (node fuel true false).run { rest := rest, handles := handles }
  if (dropDocumentEnds progress.rest).head? == some .streamEnd then return some node else none

/-- The text in YAML 1.2, cut into lexemes and put together. -/
def readNode? (text : List Char) : Option (Option Node) := (lexemes? text).bind document?

end Templating.Yaml12
