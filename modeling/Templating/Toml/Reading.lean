import Templating.Toml.Scalar

/-!
# Reading TOML

A document is a sequence of lines that set a key or open a table. A key is set once; a table is
opened once, though tables inside it may come first. Tables that dotted keys made can be extended by
dotted keys only, and inline tables not at all. Keys have at most 80 parts, and as many arrays and
inline tables may stand inside one another.
-/

namespace Templating.Toml

/-- How a table came to be. -/
inductive Origin where
  | implied
  | opened
  | dotted
  | inline
  deriving DecidableEq

inductive Tree where
  | leaf (value : Value)
  | items (values : List Tree)
  | table (origin : Origin) (entries : List (String × Tree))
  /-- Tables opened one after the other under one name, the last one first. -/
  | tables (members : List (List (String × Tree)))

abbrev Table := List (String × Tree)

mutual

def Tree.value : Tree → Value
  | .leaf value => value
  | .items values => .list (itemValues values)
  | .table _ entries => .map (entryValues entries)
  | .tables members => .list (memberValues members).reverse

def itemValues : List Tree → List Value
  | [] => []
  | tree :: rest => tree.value :: itemValues rest

def entryValues : List (String × Tree) → List (String × Value)
  | [] => []
  | (name, tree) :: rest => (name, tree.value) :: entryValues rest

def memberValues : List (List (String × Tree)) → List Value
  | [] => []
  | entries :: rest => .map (entryValues entries) :: memberValues rest

end

mutual

/-- How many arrays and inline tables stand inside one another. -/
def Tree.depth : Tree → Nat
  | .leaf _ => 0
  | .items values => itemDepth values + 1
  | .table .inline entries => entryDepth entries + 1
  | .table _ entries => entryDepth entries
  | .tables members => memberDepth members

def itemDepth : List Tree → Nat
  | [] => 0
  | tree :: rest => max tree.depth (itemDepth rest)

def entryDepth : List (String × Tree) → Nat
  | [] => 0
  | (_, tree) :: rest => max tree.depth (entryDepth rest)

def memberDepth : List (List (String × Tree)) → Nat
  | [] => 0
  | entries :: rest => max (entryDepth entries) (memberDepth rest)

end

/-- The bound on the depth of a value and on the parts of a key. -/
def maxDepth : Nat := 80

def isBlank (c : Char) : Bool := c = ' ' || c = '\t'

def skipBlanks (text : List Char) : List Char := text.dropWhile isBlank

/-- The text after a comment that may stand here; its line break stays. -/
def afterComment? : List Char → Option (List Char)
  | '#' :: rest =>
      let comment := rest.takeWhile fun c => c ≠ '\n' && c ≠ '\r'
      let after := rest.dropWhile fun c => c ≠ '\n' && c ≠ '\r'
      if comment.all isTextChar then some after else none
  | text => some text

/-- The text after blanks, a comment and a line break or the end. -/
def afterLine? (text : List Char) : Option (List Char) := do
  let rest ← afterComment? (skipBlanks text)
  if rest.isEmpty then some [] else afterBreak? rest

/-- Blanks, comments and line breaks inside an array or an inline table. -/
def afterSpace? : Nat → List Char → Option (List Char)
  | 0, text => some text
  | fuel + 1, text => do
      let rest ← afterComment? (skipBlanks text)
      match afterBreak? rest with
      | some rest => afterSpace? fuel rest
      | none => some rest

def isBareKeyChar (c : Char) : Bool := c.isAlphanum || c = '_' || c = '-'

/-- One part of a key. -/
def keyPart? (text : List Char) : Option (String × List Char) :=
  match text with
  | '"' :: rest =>
      (lineText? false (rest.length + 1) rest).map fun parts => (String.ofList parts.1, parts.2)
  | '\'' :: rest =>
      (lineText? true (rest.length + 1) rest).map fun parts => (String.ofList parts.1, parts.2)
  | text =>
      let word := text.takeWhile isBareKeyChar
      if word.isEmpty then none else some (String.ofList word, text.dropWhile isBareKeyChar)

/-- The parts of a dotted key, at most `count` of them, and the text after it and after blanks. -/
def keyParts? : Nat → List Char → Option (List String × List Char)
  | 0, _ => none
  | count + 1, text => do
      let (part, rest) ← keyPart? (skipBlanks text)
      match skipBlanks rest with
      | '.' :: rest => (keyParts? count rest).map fun parts => (part :: parts.1, parts.2)
      | rest => some ([part], rest)

def key? (text : List Char) : Option (List String × List Char) := keyParts? maxDepth text

/-- Sets a key, whose parts before the last name tables of dotted keys. -/
def setKey? (value : Tree) : List String → Table → Option Table
  | [], _ => none
  | [name], table =>
      if (Entries.get? name table).isSome then none else some (table ++ [(name, value)])
  | name :: path, table =>
      match Entries.get? name table with
      | none => (setKey? value path []).map fun inner => table ++ [(name, .table .dotted inner)]
      | some (.table .dotted inner) =>
          (setKey? value path inner).map fun inner =>
            Entries.insert name (.table .dotted inner) table
      | some _ => none

/-- Applies a change to the table that a header names, and to the last one where it names a list
of tables. -/
def change? (update : Table → Option Table) : List String → Table → Option Table
  | [], table => update table
  | name :: path, table =>
      match Entries.get? name table with
      | none => (change? update path []).map fun inner => table ++ [(name, .table .implied inner)]
      | some (.table .inline _) => none
      | some (.table origin inner) =>
          (change? update path inner).map fun inner =>
            Entries.insert name (.table origin inner) table
      | some (.tables (last :: others)) =>
          (change? update path last).map fun last =>
            Entries.insert name (.tables (last :: others)) table
      | some _ => none

/-- Opens the table of a header. -/
def openTable? (name : String) (table : Table) : Option Table :=
  match Entries.get? name table with
  | none => some (table ++ [(name, .table .opened [])])
  | some (.table .implied inner) => some (Entries.insert name (.table .opened inner) table)
  | some _ => none

/-- Opens one more table under a name. -/
def openMember? (name : String) (table : Table) : Option Table :=
  match Entries.get? name table with
  | none => some (table ++ [(name, .tables [[]])])
  | some (.tables members) => some (Entries.insert name (.tables ([] :: members)) table)
  | some _ => none

/-- Characters that end a scalar without quotes. -/
def endsBare (c : Char) : Bool :=
  isBlank c || c = '\n' || c = '\r' || c = '#' || c = ',' || c = ']' || c.toNat = 0x7d

/-- A scalar without quotes; a date may have a blank before its time. -/
def bare? (text : List Char) : Option (Value × List Char) :=
  let word := text.takeWhile fun c => !endsBare c
  let rest := text.dropWhile fun c => !endsBare c
  let longer? := match rest with
    | ' ' :: time =>
        let clock := time.takeWhile fun c => !endsBare c
        if date? word = some [] && (clock.head?.map Char.isDigit).getD false then
          some (word ++ ' ' :: clock, time.dropWhile fun c => !endsBare c)
        else none
    | _ => none
  let (word, rest) := longer?.getD (word, rest)
  (bareValue? word).map fun value => (value, rest)

/-- Whether the end of an inline table comes next. -/
def closes (text : List Char) : Bool := text.head? = some (Char.ofNat 0x7d)

mutual

/-- A value at the start of the text. -/
def value? : Nat → List Char → Option (Tree × List Char)
  | 0, _ => none
  | fuel + 1, text =>
      match text with
      | [] => none
      | c :: rest =>
          if c = '"' || c = '\'' then
            (text? (c :: rest)).map fun parts => (.leaf (.string (String.ofList parts.1)), parts.2)
          else if c = '[' then
            (items? fuel rest).map fun parts => (.items parts.1, parts.2)
          else if c.toNat = 0x7b then
            (members? fuel [] rest).map fun parts => (.table .inline parts.1, parts.2)
          else (bare? (c :: rest)).map fun parts => (.leaf parts.1, parts.2)

/-- The values of an array up to its end; a comma may stand after the last one. -/
def items? : Nat → List Char → Option (List Tree × List Char)
  | 0, _ => none
  | fuel + 1, text =>
      match afterSpace? text.length text with
      | none => none
      | some (']' :: rest) => some ([], rest)
      | some text =>
          match value? fuel text with
          | none => none
          | some (item, rest) =>
              match afterSpace? rest.length rest with
              | some (',' :: rest) =>
                  (items? fuel rest).map fun parts => (item :: parts.1, parts.2)
              | some (']' :: rest) => some ([item], rest)
              | _ => none

/-- The keys of an inline table up to its end; a comma may stand after the last one. -/
def members? : Nat → Table → List Char → Option (Table × List Char)
  | 0, _, _ => none
  | fuel + 1, table, text =>
      match afterSpace? text.length text with
      | none => none
      | some text =>
          if closes text then some (table, text.drop 1)
          else
            match key? text with
            | some (path, '=' :: rest) =>
                match value? fuel (skipBlanks rest) with
                | none => none
                | some (value, rest) =>
                    match setKey? value path table, afterSpace? rest.length rest with
                    | some table, some (',' :: rest) => members? fuel table rest
                    | some table, some rest =>
                        if closes rest then some (table, rest.drop 1) else none
                    | _, _ => none
            | _ => none

end

/-- The document so far, and the header under which keys are set. -/
structure Document where
  root : Table := []
  header : List String := []

/-- Opens the table of a header, which is closed by as many brackets as it has. -/
def header? (document : Document) (several : Bool) (text : List Char) :
    Option (Document × List Char) := do
  let (path, rest) ← key? text
  let rest ← mark? ']' rest
  let rest ← if several then mark? ']' rest else some rest
  let name ← path.getLast?
  let opening := if several then openMember? name else openTable? name
  let root ← change? opening path.dropLast document.root
  return ({ root := root, header := path }, rest)

/-- Reads one line, or several when a value goes over them. -/
def line? (document : Document) (text : List Char) : Option (Document × List Char) :=
  match skipBlanks text with
  | '[' :: '[' :: rest => header? document true rest
  | '[' :: rest => header? document false rest
  | text =>
      if text.isEmpty || text.head? = some '#' || (afterBreak? text).isSome then
        some (document, text)
      else do
        let (path, rest) ← key? text
        let rest ← mark? '=' rest
        let (value, rest) ← value? (2 * text.length + 2) (skipBlanks rest)
        guard (value.depth ≤ maxDepth)
        let root ← change? (setKey? value path) document.header document.root
        return ({ document with root := root }, rest)

def lines? : Nat → Document → List Char → Option Document
  | 0, _, _ => none
  | fuel + 1, document, text =>
      if text.isEmpty then some document
      else do
        let (document, rest) ← line? document text
        let rest ← afterLine? rest
        lines? fuel document rest

/-- The entries of a document. Each round reads a line, so their number bounds the rounds. -/
def read? (text : String) : Option (List (String × Value)) :=
  let chars := match text.toList with
    | c :: rest => if c.toNat = 0xfeff then rest else c :: rest
    | [] => []
  (lines? (chars.length + 1) {} chars).map fun document => entryValues document.root

end Templating.Toml
