import Templating.Yaml.ScalarScan
import Templating.Yaml.Tag

/-!
# YAML lexemes

The scanner turns a text into lexemes. Indentation becomes starts and ends of blocks. Whether a
scalar is a key shows only at the colon after it; until then its place in the list is remembered,
and the key lexeme is put in there. A key must stand in one line with its colon and not more than
1024 bytes before it.
-/

namespace Templating.Yaml

inductive Lexeme where
  | version (major minor : Nat)
  | tagHandle (handle : List Char) (leader : List Nat)
  | documentStart
  | documentEnd
  | blockSequenceStart
  | blockMappingStart
  | blockEnd
  | flowSequenceStart
  | flowSequenceEnd
  | flowMappingStart
  | flowMappingEnd
  | blockEntry
  | flowEntry
  | key
  | value
  | alias (name : String)
  | anchor (name : String)
  | tag (handle : List Char) (suffix : List Nat)
  | scalar (isPlain : Bool) (text : String)
  | streamEnd
  deriving DecidableEq

/-- A place at which a key may turn out to have started. -/
structure KeyPlace where
  required : Bool
  /-- The number of lexemes before it. -/
  position : Nat
  index : Nat
  line : Nat
  column : Nat

structure Scanner where
  cursor : Cursor
  lexemes : Array Lexeme := #[]
  flowLevel : Nat := 0
  /-- The column of the innermost block, and those of the blocks around it. -/
  indent : Int := -1
  outer : List Int := []
  keyAllowed : Bool := true
  /-- One possible key for each flow level, from the innermost. -/
  keys : List (Option KeyPlace) := [none]

namespace Scanner

def push (scanner : Scanner) (lexeme : Lexeme) : Scanner :=
  { scanner with lexemes := scanner.lexemes.push lexeme }

/-- Gives up the possible key of this level; one that must be a key cannot be given up. -/
def dropKey? (scanner : Scanner) : Option Scanner :=
  match scanner.keys with
  | some place :: rest =>
      if place.required then none else some { scanner with keys := none :: rest }
  | _ => some scanner

/-- Remembers that a key may start here. -/
def saveKey? (scanner : Scanner) : Option Scanner :=
  if !scanner.keyAllowed then some scanner
  else do
    let cursor := scanner.cursor
    let place : KeyPlace :=
      { required := scanner.flowLevel = 0 && scanner.indent = cursor.column
        position := scanner.lexemes.size
        index := cursor.index
        line := cursor.line
        column := cursor.column }
    let scanner ← scanner.dropKey?
    return { scanner with keys := some place :: scanner.keys.drop 1 }

/-- Gives up the possible keys that lie too far back. -/
def dropStaleKeys? (scanner : Scanner) : Option Scanner := do
  let check := fun (place? : Option KeyPlace) =>
    match place? with
    | none => some none
    | some place =>
        if place.line < scanner.cursor.line || place.index + 1024 < scanner.cursor.index then
          if place.required then none else some none
        else some (some place)
  let keys ← scanner.keys.mapM check
  return { scanner with keys := keys }

/-- Opens a block at a column right of the innermost one; its start goes in at `position`. -/
def openBlock (scanner : Scanner) (column position : Nat) (start : Lexeme) : Scanner :=
  if scanner.flowLevel = 0 && scanner.indent < column then
    { scanner with
      outer := scanner.indent :: scanner.outer
      indent := column
      lexemes := scanner.lexemes.insertIdxIfInBounds position start }
  else scanner

/-- Closes the blocks right of a column; the columns that stay, and how many were closed. -/
def closedBlocks (column : Int) : Int → List Int → Int × List Int × Nat
  | indent, [] => (indent, [], 0)
  | indent, next :: outer =>
      if column < indent then
        let (indent, outer, count) := closedBlocks column next outer
        (indent, outer, count + 1)
      else (indent, next :: outer, 0)

def closeBlocks (scanner : Scanner) (column : Int) : Scanner :=
  if scanner.flowLevel ≠ 0 then scanner
  else
    let (indent, outer, count) := closedBlocks column scanner.indent scanner.outer
    { scanner with
      indent := indent
      outer := outer
      lexemes := scanner.lexemes ++ Array.replicate count Lexeme.blockEnd }

/-- Moves over blanks, breaks and comments. A byte order mark at the start of a line is passed over
too and takes its column. In block context a line may not start with a tab. -/
def skipGap : Nat → Scanner → Scanner
  | 0, scanner => scanner
  | fuel + 1, scanner =>
      let cursor := scanner.cursor
      let cursor :=
        if cursor.column = 0 && (cursor.rest.head?.map Char.toNat) == some 0xfeff then cursor.skip 1
        else cursor
      let tabs := scanner.flowLevel ≠ 0 || !scanner.keyAllowed
      let cursor := cursor.skipWhile fun c => c == ' ' || (tabs && c == '\t')
      let cursor :=
        if cursor.rest.head? == some '#' then cursor.skipWhile fun c => !isBreak c else cursor
      if !cursor.rest.isEmpty && startsBreak cursor.rest then
        skipGap fuel
          { scanner with
            cursor := cursor.skipBreak
            keyAllowed := scanner.keyAllowed || scanner.flowLevel = 0 }
      else { scanner with cursor := cursor }

/-- A mark of `width` characters. -/
def mark (scanner : Scanner) (width : Nat) (lexeme : Lexeme) (keyAllowed : Bool) : Scanner :=
  { (scanner.push lexeme) with
    cursor := scanner.cursor.skip width
    keyAllowed := keyAllowed }

/-- The end of the line after a directive. -/
def afterDirective? (scanner : Scanner) (cursor : Cursor) (lexeme : Lexeme) : Option Scanner :=
  let cursor := cursor.skipWhile isSpaceOrTab
  let cursor :=
    if cursor.rest.head? == some '#' then cursor.skipWhile fun c => !isBreak c else cursor
  if startsBreak cursor.rest then
    some { (scanner.push lexeme) with cursor := cursor.skipBreak, keyAllowed := false }
  else none

def isUriChar (flowMarks : Bool) (c : Char) : Bool :=
  isWordChar c || [';', '/', '?', ':', '@', '&', '=', '+', '$', '.', '!', '~', '*', '\'', '(', ')',
    '%'].contains c || (flowMarks && [',', '[', ']'].contains c)

/-- The bytes that the first of them, written with a percent sign here, asks for: a lone byte, or
one with up to three others that go on from it. Whether they make a character is not looked at. -/
def percentBytes? (text : List Char) : Option (List Nat × List Char) := do
  let (first, rest) ← percentByte? text
  let width ← followers? first
  let follow := fun (state : Option (List Nat × List Char)) (_ : Nat) => do
    let (bytes, rest) ← state
    let (byte, rest) ← percentByte? rest
    if byte / 0x40 = 2 then some (bytes ++ [byte], rest) else none
  (List.range width).foldl follow (some ([first], rest))

/-- The bytes of a tag or of its leader, with percent signs read. -/
def uri? (flowMarks : Bool) : Nat → List Char → Option (List Nat × List Char)
  | 0, text => some ([], text)
  | fuel + 1, text =>
      match text with
      | '%' :: _ => do
          let (bytes, rest) ← percentBytes? text
          let (others, rest) ← uri? flowMarks fuel rest
          return (bytes ++ others, rest)
      | c :: rest =>
          if isUriChar flowMarks c then
            (uri? flowMarks fuel rest).map fun parts => (c.toNat :: parts.1, parts.2)
          else some ([], c :: rest)
      | [] => some ([], [])

/-- The cursor at a later place of the same line. -/
def moveTo (cursor : Cursor) (rest : List Char) : Cursor :=
  cursor.skip (cursor.ahead - rest.length)

def directive? (scanner : Scanner) : Option Scanner := do
  let scanner ← (scanner.closeBlocks (-1)).dropKey?
  let cursor := scanner.cursor.skip 1
  let name := cursor.rest.takeWhile isWordChar
  let cursor := cursor.skip name.length
  if !startsBlank cursor.rest then none
  else
    let cursor := cursor.skipWhile isSpaceOrTab
    if name == ['Y', 'A', 'M', 'L'] then
      let (major, rest) ← versionNumber? cursor.rest
      match rest with
      | '.' :: rest =>
          let (minor, rest) ← versionNumber? rest
          scanner.afterDirective? (moveTo cursor rest) (.version major minor)
      | _ => none
    else if name == ['T', 'A', 'G'] then
      let (handle, rest) ← handle? cursor.rest
      if (handle ≠ ['!'] && handle.getLast? ≠ some '!') || !rest.head?.any isSpaceOrTab then
        none
      else
        let rest := rest.dropWhile isSpaceOrTab
        let (leader, rest) ← uri? true rest.length rest
        if leader.isEmpty || !startsBlank rest then none
        else scanner.afterDirective? (moveTo cursor rest) (.tagHandle handle leader)
    else none

/-- A tag in angle brackets, with a handle, or with a lone exclamation mark. -/
def tagParts? (text : List Char) : Option (List Char × List Nat × List Char) :=
  match text with
  | '!' :: '<' :: rest => do
      let (suffix, rest) ← uri? true rest.length rest
      match rest with
      | '>' :: rest => if suffix.isEmpty then none else some ([], suffix, rest)
      | _ => none
  | text => do
      let (handle, rest) ← handle? text
      let (suffix, rest) ← uri? false rest.length rest
      if 1 < handle.length && handle.getLast? == some '!' then
        if suffix.isEmpty then none else some (handle, suffix, rest)
      else
        let suffix := (handle.drop 1).map Char.toNat ++ suffix
        if suffix.isEmpty then some ([], [0x21], rest) else some (['!'], suffix, rest)

def tag? (scanner : Scanner) : Option Scanner := do
  let scanner ← scanner.saveKey?
  let (handle, suffix, rest) ← tagParts? scanner.cursor.rest
  if startsBlank rest || (scanner.flowLevel ≠ 0 && rest.head? == some ',') then
    some { (scanner.push (.tag handle suffix)) with
      cursor := moveTo scanner.cursor rest
      keyAllowed := false }
  else none

def anchor? (scanner : Scanner) (lexeme : String → Lexeme) : Option Scanner := do
  let scanner ← scanner.saveKey?
  let cursor := scanner.cursor.skip 1
  let name := cursor.rest.takeWhile isWordChar
  let cursor := cursor.skip name.length
  let next := cursor.rest.head?
  let ends := ['?', ':', ',', ']', Char.ofNat 0x7d, '%', '@', '`']
  if name.isEmpty || !(startsBlank cursor.rest || (next.map ends.contains).getD false) then none
  else
    some { (scanner.push (lexeme (String.ofList name))) with cursor := cursor, keyAllowed := false }

def flowStart? (scanner : Scanner) (lexeme : Lexeme) : Option Scanner := do
  let scanner ← scanner.saveKey?
  let scanner := scanner.mark 1 lexeme true
  return { scanner with flowLevel := scanner.flowLevel + 1, keys := none :: scanner.keys }

def flowEnd? (scanner : Scanner) (lexeme : Lexeme) : Option Scanner := do
  let scanner ← scanner.dropKey?
  let scanner :=
    if scanner.flowLevel = 0 then scanner
    else { scanner with flowLevel := scanner.flowLevel - 1, keys := scanner.keys.drop 1 }
  return scanner.mark 1 lexeme false

def blockEntry? (scanner : Scanner) : Option Scanner := do
  if scanner.flowLevel = 0 && !scanner.keyAllowed then none
  else
    let scanner :=
      scanner.openBlock scanner.cursor.column scanner.lexemes.size .blockSequenceStart
    let scanner ← scanner.dropKey?
    return scanner.mark 1 .blockEntry true

def explicitKey? (scanner : Scanner) : Option Scanner := do
  if scanner.flowLevel = 0 && !scanner.keyAllowed then none
  else
    let scanner :=
      scanner.openBlock scanner.cursor.column scanner.lexemes.size .blockMappingStart
    let scanner ← scanner.dropKey?
    return scanner.mark 1 .key (scanner.flowLevel = 0)

/-- A colon makes the remembered place a key; without one it follows a key of its own line, or of
nothing. -/
def value? (scanner : Scanner) : Option Scanner :=
  match scanner.keys with
  | some place :: rest =>
      let scanner :=
        { scanner with
          lexemes := scanner.lexemes.insertIdxIfInBounds place.position Lexeme.key
          keys := none :: rest }
      let scanner := scanner.openBlock place.column place.position .blockMappingStart
      some (scanner.mark 1 .value false)
  | _ =>
      if scanner.flowLevel = 0 && !scanner.keyAllowed then none
      else
        let scanner :=
          scanner.openBlock scanner.cursor.column scanner.lexemes.size .blockMappingStart
        some (scanner.mark 1 .value (scanner.flowLevel = 0))

def blockScalar? (scanner : Scanner) (literal : Bool) : Option Scanner := do
  let scanner ← scanner.dropKey?
  let (text, cursor) ← scanBlock? literal scanner.indent scanner.cursor
  return { (scanner.push (.scalar false (String.ofList text))) with
    cursor := cursor, keyAllowed := true }

def quotedScalar? (scanner : Scanner) (single : Bool) : Option Scanner := do
  let scanner ← scanner.saveKey?
  let (text, cursor) ← scanQuoted? single scanner.cursor
  return { (scanner.push (.scalar false (String.ofList text))) with
    cursor := cursor, keyAllowed := false }

def plainScalar? (scanner : Scanner) : Option Scanner := do
  let scanner ← scanner.saveKey?
  let (text, broken, cursor) ←
    scanPlain? (scanner.flowLevel ≠ 0) (scanner.indent + 1).toNat scanner.cursor
  return { (scanner.push (.scalar true (String.ofList text))) with
    cursor := cursor, keyAllowed := broken }

def documentMark? (scanner : Scanner) (lexeme : Lexeme) : Option Scanner := do
  let scanner ← (scanner.closeBlocks (-1)).dropKey?
  return scanner.mark 3 lexeme false

/-- Whether a plain scalar can start with `c` before `rest`. -/
def startsPlain (inFlow : Bool) (c : Char) (rest : List Char) : Bool :=
  let marks := ['-', '?', ':', ',', '[', ']', Char.ofNat 0x7b, Char.ofNat 0x7d, '#', '&', '*', '!',
    '|', '>', '\'', '"', '%', '@', '`']
  !(startsBlank [c] || marks.contains c) ||
    (c == '-' && !(rest.isEmpty || (rest.head?.map isSpaceOrTab).getD true)) ||
    ((c == '?' || c == ':') && !inFlow && !startsBlank rest)

/-- The next lexeme; nothing at the end of the text. -/
def step? (scanner : Scanner) : Option (Scanner × Bool) := do
  let scanner := skipGap (scanner.cursor.ahead + 1) scanner
  let scanner ← scanner.dropStaleKeys?
  let scanner := scanner.closeBlocks scanner.cursor.column
  let cursor := scanner.cursor
  let inFlow := scanner.flowLevel ≠ 0
  let more := fun (result : Option Scanner) => result.map fun scanner => (scanner, true)
  match cursor.rest with
  | [] =>
      let scanner ← (scanner.closeBlocks (-1)).dropKey?
      return (scanner.push .streamEnd, false)
  | c :: rest =>
      if cursor.column = 0 && c == '%' then more scanner.directive?
      else if cursor.atDocumentMark then
        more (scanner.documentMark? (if c == '-' then .documentStart else .documentEnd))
      else if c == '[' then more (scanner.flowStart? .flowSequenceStart)
      else if c.toNat = 0x7b then more (scanner.flowStart? .flowMappingStart)
      else if c == ']' then more (scanner.flowEnd? .flowSequenceEnd)
      else if c.toNat = 0x7d then more (scanner.flowEnd? .flowMappingEnd)
      else if c == ',' then
        more (scanner.dropKey?.map fun scanner => scanner.mark 1 .flowEntry true)
      else if c == '-' && startsBlank rest then more scanner.blockEntry?
      else if c == '?' && (inFlow || startsBlank rest) then more scanner.explicitKey?
      else if c == ':' && (inFlow || startsBlank rest) then more scanner.value?
      else if c == '*' then more (scanner.anchor? .alias)
      else if c == '&' then more (scanner.anchor? .anchor)
      else if c == '!' then more scanner.tag?
      else if c == '|' && !inFlow then more (scanner.blockScalar? true)
      else if c == '>' && !inFlow then more (scanner.blockScalar? false)
      else if c == '\'' then more (scanner.quotedScalar? true)
      else if c == '"' then more (scanner.quotedScalar? false)
      else if startsPlain inFlow c rest then more scanner.plainScalar?
      else none

def runFrom? : Nat → Scanner → Option (List Lexeme)
  | 0, _ => none
  | fuel + 1, scanner =>
      match scanner.step? with
      | none => none
      | some (scanner, true) => runFrom? fuel scanner
      | some (scanner, false) => some scanner.lexemes.toList

end Scanner

/-- Characters that a text may hold: tabs, breaks and everything that is not a control. -/
def isAllowed (c : Char) : Bool :=
  let code := c.toNat
  code == 0x09 || code == 0x0a || code == 0x0d || (0x20 ≤ code && code ≤ 0x7e) || code == 0x85 ||
    (0xa0 ≤ code && code ≠ 0xfffe && code ≠ 0xffff)

/-- All lexemes of a text. Every step moves on by a character or ends, so the length of the text
bounds their number. -/
def lexemes? (text : List Char) : Option (List Lexeme) :=
  if text.all isAllowed then Scanner.runFrom? (text.length + 1) { cursor := { rest := text } }
  else none

end Templating.Yaml
