import Templating.Yaml.Lexeme

/-!
# YAML nodes

The lexemes of a document make one node: a scalar, a sequence, a mapping, or an alias of a node that
an anchor names. A text holds at most one document here; a second one is refused.
-/

namespace Templating.Yaml

/-- What stands in front of a node. -/
structure Marks where
  anchor : Option String := none
  /-- The bytes of the tag in UTF-8, which may fail to be text. -/
  tag : Option (List Nat) := none

/-- A node whose aliases are given by references of type `ρ`. -/
inductive Node (ρ : Type) where
  | alias (target : ρ)
  | scalar (marks : Marks) (isPlain : Bool) (text : String)
  | sequence (marks : Marks) (items : List (Node ρ))
  | mapping (marks : Marks) (entries : List (Node ρ × Node ρ))

namespace Node

/-- The scalar that stands where nothing is written. -/
def blank {ρ : Type} : Node ρ := .scalar {} true ""

end Node

/-- Leaders of tags by their handle. -/
abbrev Handles := List (List Char × List Nat)

/-- The tag of the core set for a kind of scalar. -/
def coreTag (kind : String) : List Nat := ("tag:yaml.org,2002:" ++ kind).toList.map Char.toNat

def defaultHandles : Handles := [(['!'], [0x21]), (['!', '!'], coreTag "")]

def tagName? (handles : Handles) (handle : List Char) (suffix : List Nat) : Option (List Nat) :=
  if handle.isEmpty then some suffix
  else (handles.lookup handle).map fun leader => leader ++ suffix

/-- The anchor and the tag in front of a node, in either order. -/
def marks? (handles : Handles) : List Lexeme → Option (Marks × List Lexeme)
  | .anchor name :: .tag handle suffix :: rest =>
      (tagName? handles handle suffix).map fun tag => (⟨some name, some tag⟩, rest)
  | .tag handle suffix :: .anchor name :: rest =>
      (tagName? handles handle suffix).map fun tag => (⟨some name, some tag⟩, rest)
  | .anchor name :: rest => some (⟨some name, none⟩, rest)
  | .tag handle suffix :: rest =>
      (tagName? handles handle suffix).map fun tag => (⟨none, some tag⟩, rest)
  | rest => some ({}, rest)

/-- Whether nothing is written where a node of a block could stand. -/
def endsBlockPart (inMapping : Bool) : List Lexeme → Bool
  | .blockEnd :: _ => true
  | .key :: _ => inMapping
  | .value :: _ => inMapping
  | .blockEntry :: _ => !inMapping
  | _ => false

def endsIndentlessItem : List Lexeme → Bool
  | .blockEntry :: _ => true
  | .key :: _ => true
  | .value :: _ => true
  | .blockEnd :: _ => true
  | _ => false

def endsFlowPart (close : Lexeme) : List Lexeme → Bool
  | .flowEntry :: _ => true
  | lexeme :: _ => lexeme == close
  | [] => false

abbrev Parsed (α : Type) := Option (α × List Lexeme)

mutual

/-- One node. `block` allows block collections, `indentless` a sequence at the level of the key. -/
def node? (handles : Handles) : Nat → Bool → Bool → List Lexeme → Parsed (Node String)
  | 0, _, _, _ => none
  | _ + 1, _, _, .alias name :: rest => some (.alias name, rest)
  | fuel + 1, block, indentless, lexemes =>
      match marks? handles lexemes with
      | none => none
      | some (marks, lexemes) =>
          match lexemes with
          | .scalar isPlain text :: rest => some (.scalar marks isPlain text, rest)
          | .flowSequenceStart :: .flowSequenceEnd :: rest => some (.sequence marks [], rest)
          | .flowSequenceStart :: rest =>
              (flowItems? handles fuel rest).map fun parts => (.sequence marks parts.1, parts.2)
          | .flowMappingStart :: .flowMappingEnd :: rest => some (.mapping marks [], rest)
          | .flowMappingStart :: rest =>
              (flowEntries? handles fuel rest).map fun parts => (.mapping marks parts.1, parts.2)
          | lexemes =>
              match block, indentless, lexemes with
              | _, true, .blockEntry :: _ =>
                  (indentlessItems? handles fuel lexemes).map fun parts =>
                    (.sequence marks parts.1, parts.2)
              | true, _, .blockSequenceStart :: rest =>
                  (blockItems? handles fuel rest).map fun parts =>
                    (.sequence marks parts.1, parts.2)
              | true, _, .blockMappingStart :: rest =>
                  (blockEntries? handles fuel rest).map fun parts =>
                    (.mapping marks parts.1, parts.2)
              | _, _, _ =>
                  if marks.anchor.isSome || marks.tag.isSome then
                    some (.scalar marks true "", lexemes)
                  else none

/-- Items after dashes, up to the end of the block. -/
def blockItems? (handles : Handles) : Nat → List Lexeme → Parsed (List (Node String))
  | 0, _ => none
  | _ + 1, .blockEnd :: rest => some ([], rest)
  | fuel + 1, .blockEntry :: rest =>
      let item? := if endsBlockPart false rest then some (.blank, rest)
        else node? handles fuel true false rest
      match item? with
      | none => none
      | some (item, rest) =>
          (blockItems? handles fuel rest).map fun parts => (item :: parts.1, parts.2)
  | _ + 1, _ => none

/-- Items after dashes at the level of a key; the next key or the end of its block ends them. -/
def indentlessItems? (handles : Handles) : Nat → List Lexeme → Parsed (List (Node String))
  | 0, _ => none
  | fuel + 1, .blockEntry :: rest =>
      let item? := if endsIndentlessItem rest then some (.blank, rest)
        else node? handles fuel true false rest
      match item? with
      | none => none
      | some (item, rest) =>
          (indentlessItems? handles fuel rest).map fun parts => (item :: parts.1, parts.2)
  | _ + 1, rest => some ([], rest)

/-- Keys and values up to the end of the block. -/
def blockEntries? (handles : Handles) :
    Nat → List Lexeme → Parsed (List (Node String × Node String))
  | 0, _ => none
  | _ + 1, .blockEnd :: rest => some ([], rest)
  | fuel + 1, .key :: rest =>
      let key? := if endsBlockPart true rest then some (.blank, rest)
        else node? handles fuel true true rest
      match key? with
      | none => none
      | some (key, .value :: rest) =>
          let value? := if endsBlockPart true rest then some (.blank, rest)
            else node? handles fuel true true rest
          match value? with
          | none => none
          | some (value, rest) =>
              (blockEntries? handles fuel rest).map fun parts => ((key, value) :: parts.1, parts.2)
      | some (key, rest) =>
          (blockEntries? handles fuel rest).map fun parts => ((key, .blank) :: parts.1, parts.2)
  | _ + 1, _ => none

/-- One or more items between brackets; an item may be a single key with its value. -/
def flowItems? (handles : Handles) : Nat → List Lexeme → Parsed (List (Node String))
  | 0, _ => none
  | fuel + 1, lexemes =>
      let item? := match lexemes with
        | .key :: rest => flowPair? handles fuel rest
        | rest => node? handles fuel false false rest
      match item? with
      | none => none
      | some (item, .flowSequenceEnd :: rest) => some ([item], rest)
      | some (item, .flowEntry :: .flowSequenceEnd :: rest) => some ([item], rest)
      | some (item, .flowEntry :: rest) =>
          (flowItems? handles fuel rest).map fun parts => (item :: parts.1, parts.2)
      | some _ => none

/-- A key and its value as an item of a sequence. A key that is left out takes the mark after it
along. -/
def flowPair? (handles : Handles) : Nat → List Lexeme → Parsed (Node String)
  | 0, _ => none
  | fuel + 1, lexemes =>
      let isEmpty := endsFlowPart .flowSequenceEnd lexemes || lexemes.head? == some .value
      let key? := if isEmpty then some (.blank, lexemes.drop 1)
        else node? handles fuel false false lexemes
      match key? with
      | none => none
      | some (key, rest) =>
          (flowValue? handles fuel .flowSequenceEnd rest).map fun parts =>
            (.mapping {} [(key, parts.1)], parts.2)

/-- The value after a key between brackets or braces; without a colon it is blank. -/
def flowValue? (handles : Handles) : Nat → Lexeme → List Lexeme → Parsed (Node String)
  | 0, _, _ => none
  | fuel + 1, close, .value :: rest =>
      if endsFlowPart close rest then some (.blank, rest) else node? handles fuel false false rest
  | _ + 1, _, rest => some (.blank, rest)

/-- A key and its value between braces; a key without a mark of its own stands alone. -/
def flowEntry? (handles : Handles) : Nat → List Lexeme → Parsed (Node String × Node String)
  | 0, _ => none
  | fuel + 1, .key :: rest =>
      let isEmpty := endsFlowPart .flowMappingEnd rest || rest.head? == some .value
      let key? := if isEmpty then some (.blank, rest) else node? handles fuel false false rest
      match key? with
      | none => none
      | some (key, rest) =>
          (flowValue? handles fuel .flowMappingEnd rest).map fun parts => ((key, parts.1), parts.2)
  | fuel + 1, rest =>
      (node? handles fuel false false rest).map fun parts => ((parts.1, .blank), parts.2)

/-- One or more entries between braces. -/
def flowEntries? (handles : Handles) :
    Nat → List Lexeme → Parsed (List (Node String × Node String))
  | 0, _ => none
  | fuel + 1, lexemes =>
      match flowEntry? handles fuel lexemes with
      | some (entry, .flowMappingEnd :: rest) => some ([entry], rest)
      | some (entry, .flowEntry :: .flowMappingEnd :: rest) => some ([entry], rest)
      | some (entry, .flowEntry :: rest) =>
          (flowEntries? handles fuel rest).map fun parts => (entry :: parts.1, parts.2)
      | _ => none

end

/-- The directives in front of a document; only versions 1.1 and 1.2 are known, and nothing may be
said twice. -/
def directives? : List Lexeme → Bool → Handles → Option (Bool × Handles × List Lexeme)
  | .version major minor :: rest, seen, handles =>
      if seen || major ≠ 1 || (minor ≠ 1 && minor ≠ 2) then none
      else directives? rest true handles
  | .tagHandle handle leader :: rest, seen, handles =>
      if (handles.lookup handle).isSome then none
      else directives? rest seen (handles ++ [(handle, leader)])
  | rest, seen, handles => some (seen, handles, rest)

/-- Whether a document ends before any content. -/
def endsDocument : List Lexeme → Bool
  | .version _ _ :: _ => true
  | .tagHandle _ _ :: _ => true
  | .documentStart :: _ => true
  | .documentEnd :: _ => true
  | .streamEnd :: _ => true
  | _ => false

/-- What may follow the only document. -/
def endsStream (lexemes : List Lexeme) : Bool :=
  (lexemes.dropWhile (· == .documentEnd)).head? == some .streamEnd

/-- The only document of a text; nothing for a text without one. -/
def document? (lexemes : List Lexeme) : Option (Option (Node String)) := do
  if lexemes.head? == some .streamEnd then return none
  let fuel := 4 * lexemes.length + 4
  let (_, said, rest) ← directives? lexemes false []
  let handles := said ++ defaultHandles
  let (node, rest) ←
    match rest with
    | .documentStart :: rest =>
        if endsDocument rest then some (Node.blank, rest) else node? handles fuel true false rest
    | rest =>
        if rest.length < lexemes.length then none else node? handles fuel true false rest
  if endsStream rest then return some node else none

/-- The text in YAML, cut into lexemes and put together. -/
def readNode? (text : List Char) : Option (Option (Node String)) :=
  (lexemes? text).bind document?

end Templating.Yaml
