import Templating.Yaml.Tag
import Templating.Yaml12.Scalar

/-!
# YAML 1.2 lexemes

The scanner turns a text into lexemes. Indentation becomes starts and ends of blocks; what follows a
colon or a dash must be indented further, which a level of its own stands for until a block opens.
Whether a scalar is a key shows only at the colon after it; until then its place in the list is
remembered, and the key lexeme is put in there. A single pair between brackets is a mapping.
-/

namespace Templating.Yaml12

open Yaml (isSpaceOrTab isFlowMark isWordChar versionNumber? handle? percentByte? followers?)

inductive Lexeme where
  | version
  | tagHandle (handle leader : List Char)
  | documentStart
  | documentEnd
  | blockSequenceStart
  | blockMappingStart
  | blockEnd
  | flowSequenceStart
  | flowSequenceEnd
  | flowMappingStart
  | flowMappingEnd
  | blockEntry
  | flowEntry
  | key
  | value
  | alias (name : String)
  | anchor (name : String)
  | tag (handle suffix : List Char)
  | scalar (isPlain : Bool) (text : String)
  | streamEnd
  deriving DecidableEq

/-- Where a key may have started. -/
structure KeyPlace where
  /-- Whether a colon must follow. -/
  required : Bool
  /-- The number of lexemes before it. -/
  position : Nat
  index : Nat
  line : Nat
  column : Nat

/-- A level around the innermost one: its column, and whether the level inside it is a block, which
has an end of its own. -/
structure Level where
  column : Int
  isBlock : Bool

structure Scanner where
  cursor : Cursor
  lexemes : Array Lexeme := #[]
  flowDepth : Nat := 0
  /-- The column of the innermost level, and the levels around it. -/
  indent : Int := -1
  outer : List Level := []
  keyAllowed : Bool := true
  /-- One possible key for each flow level, from the innermost. -/
  keys : List (Option KeyPlace) := [none]
  /-- The column of the last anchor or tag. -/
  markColumn : Nat := 0
  /-- Where a colon makes a value although no blank follows it. -/
  tightValueAt : Nat := 0
  /-- Whether a mapping between braces was opened, or one with a mark for its key. -/
  mappingOpened : Bool := false
  /-- For each list between brackets whether a pair stands open in it, from the innermost. -/
  pairs : List Bool := []

namespace Scanner

def push (scanner : Scanner) (lexeme : Lexeme) : Scanner :=
  { scanner with lexemes := scanner.lexemes.push lexeme }

def inFlow (scanner : Scanner) : Bool := scanner.flowDepth ≠ 0

/-- Gives up the possible key of this level; one that must be a key cannot be given up. -/
def dropKey? (scanner : Scanner) : Option Scanner :=
  match scanner.keys with
  | some place :: rest =>
      if place.required then none else some { scanner with keys := none :: rest }
  | _ => some scanner

/-- Remembers that a key may start here. -/
def saveKey (scanner : Scanner) : Scanner :=
  if !scanner.keyAllowed then scanner
  else
    let cursor := scanner.cursor
    let place : KeyPlace :=
      { required := !scanner.inFlow && scanner.indent = cursor.column &&
          scanner.outer.head?.any Level.isBlock
        position := scanner.lexemes.size
        index := cursor.index
        line := cursor.line
        column := cursor.column }
    { scanner with keys := some place :: scanner.keys.drop 1 }

/-- Gives up the possible keys that lie too far back; inside brackets none does. -/
def dropStaleKeys? (scanner : Scanner) : Option Scanner :=
  if scanner.inFlow then some scanner
  else do
    let cursor := scanner.cursor
    let keys ← scanner.keys.mapM fun place? =>
      match place? with
      | none => some none
      | some place =>
          if place.line < cursor.line || place.index + 1024 < cursor.index then
            if place.required then none else some none
          else some (some place)
    return { scanner with keys := keys }

/-- Leaves the innermost level if it is no block. -/
def leaveSoftLevel (scanner : Scanner) : Scanner :=
  match scanner.outer with
  | level :: outer =>
      if level.isBlock then scanner else { scanner with indent := level.column, outer := outer }
  | [] => scanner

/-- Asks for one column more than the innermost block has. -/
def enterSoftLevel (scanner : Scanner) : Scanner :=
  if !scanner.inFlow && scanner.outer.head?.any Level.isBlock then
    { scanner with
      outer := ⟨scanner.indent, false⟩ :: scanner.outer
      indent := scanner.indent + 1 }
  else scanner

/-- Opens a block at a column right of the innermost one; its start goes in at `position`. -/
def openBlock (scanner : Scanner) (column position : Nat) (start : Lexeme) : Scanner :=
  if scanner.inFlow then scanner
  else
    let scanner := if scanner.indent ≤ column then scanner.leaveSoftLevel else scanner
    if scanner.indent < column then
      { scanner with
        outer := ⟨scanner.indent, true⟩ :: scanner.outer
        indent := column
        lexemes := scanner.lexemes.insertIdxIfInBounds position start }
    else scanner

/-- Leaves the levels right of a column; the levels that stay, and how many blocks ended. -/
def leftLevels (column : Int) : Int → List Level → Int × List Level × Nat
  | indent, [] => (indent, [], 0)
  | indent, level :: outer =>
      if column < indent then
        let (indent, outer, count) := leftLevels column level.column outer
        (indent, outer, if level.isBlock then count + 1 else count)
      else (indent, level :: outer, 0)

def closeBlocks (scanner : Scanner) (column : Int) : Scanner :=
  if scanner.inFlow then scanner
  else
    let (indent, outer, count) := leftLevels column scanner.indent scanner.outer
    { scanner with
      indent := indent
      outer := outer
      lexemes := scanner.lexemes ++ Array.replicate count Lexeme.blockEnd }

/-- Moves over blanks, breaks and comments. In a block a tab left of its column may only stand in a
line of blanks. -/
def skipGap? : Nat → Scanner → Option Scanner
  | 0, scanner => some scanner
  | fuel + 1, scanner =>
      let cursor := scanner.cursor
      match cursor.rest with
      | [] => some scanner
      | c :: _ =>
          let indents := !scanner.outer.isEmpty && cursor.atLineStart &&
            cursor.column < scanner.indent
          if c == '\t' && indents then do
            let next ← cursor.skipComment? true
            if startsBreak next.rest then skipGap? fuel { scanner with cursor := next } else none
          else if isSpaceOrTab c then
            skipGap? fuel { scanner with cursor := cursor.skipBlanks 1 }
          else if isBreak c then
            skipGap? fuel
              { scanner with
                cursor := cursor.skipBreak
                keyAllowed := scanner.keyAllowed || !scanner.inFlow }
          else if c == '#' then skipGap? fuel { scanner with cursor := cursor.skipLine }
          else some scanner

/-- Moves over a mark of `width` characters and the blanks and comment after it. -/
def skipMark? (scanner : Scanner) (width : Nat) : Option Scanner := do
  return { scanner with cursor := ← (scanner.cursor.skip width).skipComment? true }

/-- A pair that stands open between the innermost brackets ends here. -/
def endPair (scanner : Scanner) : Scanner :=
  match scanner.pairs with
  | true :: outer =>
      { (scanner.push .flowMappingEnd) with mappingOpened := false, pairs := false :: outer }
  | _ => scanner

def isUriChar (c : Char) : Bool :=
  (isWordChar c && c ≠ '_') || "#;/?:@&=+$,_.!~*'()[]%".toList.contains c

def isTagChar (c : Char) : Bool := isUriChar c && !isFlowMark c && c ≠ '!'

/-- The character that percent signs stand for here: the number that its bytes make, each taken as
a whole, must be the code of one. -/
def percentChar? (text : List Char) : Option (Char × List Char) := do
  let (first, rest) ← percentByte? text
  let width ← followers? first
  let follow := fun (state : Option (Nat × List Char)) (_ : Nat) => do
    let (code, rest) ← state
    let (byte, rest) ← percentByte? rest
    if byte / 0x40 = 2 then some (code * 0x100 + byte, rest) else none
  let (code, rest) ← (List.range width).foldl follow (some (first, rest))
  (Text.charOf? code).map fun c => (c, rest)

/-- The characters of a tag as long as they satisfy `test`, with percent signs read. -/
def uri? (test : Char → Bool) : Nat → List Char → Option (List Char × List Char)
  | 0, text => some ([], text)
  | fuel + 1, text =>
      match text with
      | '%' :: _ => do
          let (c, rest) ← percentChar? text
          let (others, rest) ← uri? test fuel rest
          return (c :: others, rest)
      | c :: rest =>
          if test c then (uri? test fuel rest).map fun parts => (c :: parts.1, parts.2)
          else some ([], c :: rest)
      | [] => some ([], [])

/-- The cursor at a later place of the same line. -/
def moveTo (cursor : Cursor) (rest : List Char) : Cursor :=
  cursor.skip (cursor.ahead - rest.length)

/-- What a handle stands for in a directive. -/
def leader? (text : List Char) : Option (List Char × List Char) :=
  match text with
  | '!' :: rest =>
      (uri? isUriChar rest.length rest).map fun parts => ('!' :: parts.1, parts.2)
  | c :: _ => if isTagChar c then uri? isUriChar text.length text else none
  | [] => none

/-- The rest of a directive after its name; one with an unknown name says nothing. -/
def directiveRest? (name : List Char) (cursor : Cursor) : Option (Lexeme × Cursor) :=
  let skipBlanks := fun (rest : List Char) => rest.dropWhile isSpaceOrTab
  if name == ['Y', 'A', 'M', 'L'] then do
    let (_, rest) ← versionNumber? (skipBlanks cursor.rest)
    match rest with
    | '.' :: rest => do
        let (_, rest) ← versionNumber? rest
        return (.version, moveTo cursor rest)
    | _ => none
  else if name == ['T', 'A', 'G'] then do
    let (handle, rest) ← handle? (skipBlanks cursor.rest)
    let (leader, rest) ← leader? (skipBlanks rest)
    if (handle ≠ ['!'] && handle.getLast? ≠ some '!') || !startsBlank rest then none
    else some (.tagHandle handle leader, moveTo cursor rest)
  else some (.tagHandle [] [], cursor.skipLine)

def directive? (scanner : Scanner) : Option Scanner := do
  let scanner ← (scanner.closeBlocks (-1)).dropKey?
  let cursor := scanner.cursor.skip 1
  let name := cursor.rest.takeWhile isWordChar
  let cursor := cursor.skip name.length
  if name.isEmpty || !startsBlank cursor.rest then none
  else
    let (lexeme, cursor) ← directiveRest? name cursor
    let cursor ← cursor.skipComment? true
    if startsBreak cursor.rest then
      some { (scanner.push lexeme) with cursor := cursor.skipBreak, keyAllowed := false }
    else none

/-- A tag in angle brackets, with a handle, or with a lone exclamation mark. Something must follow a
handle between two marks. -/
def tagParts? (text : List Char) : Option (List Char × List Char × List Char) :=
  match text with
  | '!' :: '<' :: rest => do
      let (suffix, rest) ← uri? isUriChar rest.length rest
      match rest with
      | '>' :: rest => some ([], suffix, rest)
      | _ => none
  | text => do
      let (handle, rest) ← handle? text
      let (suffix, rest) ← uri? isTagChar rest.length rest
      if 1 < handle.length && handle.getLast? == some '!' then
        if suffix.isEmpty then none else some (handle, suffix, rest)
      else
        let suffix := handle.drop 1 ++ suffix
        if suffix.isEmpty then some ([], ['!'], rest) else some (['!'], suffix, rest)

def tag? (scanner : Scanner) : Option Scanner := do
  let scanner := scanner.saveKey
  let (handle, suffix, rest) ← tagParts? scanner.cursor.rest
  if startsBlank rest || (scanner.inFlow && rest.head?.any isFlowMark) then
    some { (scanner.push (.tag handle suffix)) with
      cursor := moveTo scanner.cursor rest
      markColumn := scanner.cursor.column
      keyAllowed := false }
  else none

def isAnchorChar (c : Char) : Bool :=
  !(isSpaceOrTab c || isBreak c || isFlowMark c || c.toNat == 0xfeff)

def anchor? (scanner : Scanner) (lexeme : String → Lexeme) : Option Scanner :=
  let scanner := scanner.saveKey
  let cursor := scanner.cursor.skip 1
  let name := cursor.rest.takeWhile isAnchorChar
  if name.isEmpty then none
  else
    some { (scanner.push (lexeme (String.ofList name))) with
      cursor := cursor.skip name.length
      markColumn := scanner.cursor.column
      keyAllowed := false }

def maxFlowDepth : Nat := 255

def flowStart? (scanner : Scanner) (isMapping : Bool) : Option Scanner := do
  if scanner.flowDepth = maxFlowDepth then none
  else
    let scanner := scanner.saveKey.enterSoftLevel
    let scanner ←
      { scanner with
        flowDepth := scanner.flowDepth + 1
        keys := none :: scanner.keys
        keyAllowed := true
        mappingOpened := isMapping || scanner.mappingOpened
        pairs := if isMapping then scanner.pairs else false :: scanner.pairs : Scanner }.skipMark? 1
    return scanner.push (if isMapping then .flowMappingStart else .flowSequenceStart)

def flowEnd? (scanner : Scanner) (isMapping : Bool) : Option Scanner := do
  let scanner ← scanner.dropKey?
  let scanner :=
    if scanner.inFlow then
      { scanner with flowDepth := scanner.flowDepth - 1, keys := scanner.keys.drop 1 }
    else scanner
  let scanner := { scanner with keyAllowed := false }
  let scanner :=
    if isMapping then scanner
    else
      let scanner := scanner.endPair
      { scanner with pairs := scanner.pairs.drop 1 }
  let scanner ← scanner.skipMark? 1
  let scanner :=
    if scanner.inFlow then { scanner with tightValueAt := scanner.cursor.index } else scanner
  return scanner.push (if isMapping then .flowMappingEnd else .flowSequenceEnd)

def flowEntry? (scanner : Scanner) : Option Scanner := do
  let scanner ← scanner.dropKey?
  let scanner ← { scanner.endPair with keyAllowed := true }.skipMark? 1
  return scanner.push .flowEntry

/-- Whether an anchor or a tag came last, and at the start of a line. -/
def followsMark (scanner : Scanner) : Bool :=
  match scanner.lexemes.back? with
  | some (.anchor _) => scanner.markColumn = 0
  | some (.tag _ _) => scanner.markColumn = 0
  | _ => false

def blockEntry? (scanner : Scanner) : Option Scanner := do
  let cursor := scanner.cursor
  if scanner.inFlow || !scanner.keyAllowed then none
  else
    let scanner := { scanner with cursor := cursor.skip 1 }
    let scanner := scanner.openBlock cursor.column scanner.lexemes.size .blockSequenceStart
    let next ← scanner.cursor.skipComment? true
    let tabs := (scanner.cursor.blanks true).contains '\t'
    if tabs && next.rest.head? == some '-' && startsBlank (next.rest.drop 1) then none
    else
      let scanner := { scanner with cursor := next }
      let ends := next.rest.head?.any fun c => isBreak c || isFlowMark c
      let scanner := if ends then scanner.enterSoftLevel else scanner
      let scanner ← scanner.dropKey?
      return { (scanner.push .blockEntry) with keyAllowed := true }

/-- Moves over the spaces, breaks and comments that must follow the mark of a key. -/
def afterKeyMark? : Nat → Bool → Scanner → Option Scanner
  | 0, _, scanner => some scanner
  | fuel + 1, passed, scanner =>
      let cursor := scanner.cursor
      match cursor.rest with
      | ' ' :: _ => afterKeyMark? fuel true { scanner with cursor := cursor.skipBlanks 1 }
      | '#' :: _ => afterKeyMark? fuel passed { scanner with cursor := cursor.skipLine }
      | '\t' :: _ => none
      | c :: _ =>
          if isBreak c then
            afterKeyMark? fuel true
              { scanner with
                cursor := cursor.skipBreak
                keyAllowed := scanner.keyAllowed || !scanner.inFlow }
          else if passed then some scanner
          else none
      | [] => if passed then some scanner else none

def explicitKey? (scanner : Scanner) : Option Scanner := do
  if !scanner.inFlow && !scanner.keyAllowed then none
  else
    let scanner :=
      if scanner.inFlow then { scanner with mappingOpened := true }
      else scanner.openBlock scanner.cursor.column scanner.lexemes.size .blockMappingStart
    let scanner ← scanner.dropKey?
    let scanner := { scanner with keyAllowed := !scanner.inFlow, cursor := scanner.cursor.skip 1 }
    let scanner ← afterKeyMark? (scanner.cursor.ahead + 1) false scanner
    return scanner.push .key

/-- Whether a tab without a space stands between a colon and a word. -/
def tabAfterColon (text : List Char) : Bool :=
  let blanks := text.takeWhile isSpaceOrTab
  text.head? == some '\t' && !blanks.contains ' ' &&
    (text.dropWhile isSpaceOrTab).head?.any isWordChar

/-- A colon makes the remembered place a key; without one it follows a key of its own line, or of
nothing. -/
def value? (scanner : Scanner) : Option Scanner := do
  let start := scanner.cursor
  let inPair := !scanner.pairs.isEmpty && !scanner.mappingOpened
  let scanner :=
    { scanner with
      pairs := if inPair then true :: scanner.pairs.drop 1 else scanner.pairs
      cursor := start.skip 1 }
  if tabAfterColon scanner.cursor.rest then none
  else
    let next ←
      if scanner.cursor.rest.head? == some '\t' then scanner.cursor.skipComment? true
      else some scanner.cursor
    let scanner := { scanner with cursor := next }
    match scanner.keys with
    | some place :: rest =>
        if inPair && place.line < start.line then none
        else
          let lexemes := scanner.lexemes.insertIdxIfInBounds place.position Lexeme.key
          let lexemes :=
            if inPair then lexemes.insertIdxIfInBounds place.position Lexeme.flowMappingStart
            else lexemes
          let scanner := { scanner with lexemes := lexemes, keys := none :: rest }
          let scanner := scanner.openBlock place.column place.position .blockMappingStart
          return { (scanner.enterSoftLevel.push .value) with keyAllowed := false }
    | _ =>
        let scanner := if inPair then scanner.push .flowMappingStart else scanner
        if !scanner.inFlow && !scanner.keyAllowed then none
        else
          let scanner :=
            scanner.openBlock start.column scanner.lexemes.size .blockMappingStart
          return { (scanner.enterSoftLevel.push .value) with keyAllowed := !scanner.inFlow }

/-- A colon between brackets. Where it makes a value only because of the mark after it, that mark
may not open brackets. -/
def flowValue? (scanner : Scanner) : Option Scanner :=
  let opens := (scanner.cursor.rest.drop 1).head?.any fun c => c == '[' || c.toNat == 0x7b
  if scanner.cursor.index ≠ scanner.tightValueAt && opens then none else scanner.value?

/-- Leaves the levels that are no blocks before a scalar. -/
def leaveSoftLevels : Nat → Scanner → Scanner
  | 0, scanner => scanner
  | fuel + 1, scanner =>
      if scanner.outer.head?.any fun level => !level.isBlock then
        leaveSoftLevels fuel scanner.leaveSoftLevel
      else scanner

def blockScalar? (scanner : Scanner) (literal : Bool) : Option Scanner := do
  let scanner := leaveSoftLevels scanner.outer.length scanner.saveKey
  let (text, cursor) ← scanBlock? literal scanner.indent scanner.cursor
  return { (scanner.push (.scalar false (String.ofList text))) with
    cursor := cursor, keyAllowed := true }

def quotedScalar? (scanner : Scanner) (single : Bool) : Option Scanner := do
  let scanner := { scanner.saveKey with keyAllowed := false }
  let (text, cursor) ← scanQuoted? single scanner.inFlow scanner.indent scanner.cursor
  let scanner ← skipGap? (cursor.ahead + 1) { scanner with cursor := cursor }
  return { (scanner.push (.scalar false (String.ofList text))) with
    tightValueAt := scanner.cursor.index }

def plainScalar? (scanner : Scanner) : Option Scanner := do
  let scanner := leaveSoftLevels scanner.outer.length scanner.saveKey
  let (text, cursor) ← scanPlain? scanner.inFlow (scanner.indent + 1) scanner.cursor
  return { (scanner.push (.scalar true (String.ofList text))) with
    cursor := cursor, keyAllowed := cursor.atLineStart }

def documentMark? (scanner : Scanner) (lexeme : Lexeme) : Option Scanner := do
  let scanner ← (scanner.closeBlocks (-1)).dropKey?
  return { (scanner.push lexeme) with cursor := scanner.cursor.skip 3, keyAllowed := false }

/-- The end of a document; only a comment may follow it in its line. -/
def documentEnd? (scanner : Scanner) : Option Scanner := do
  let scanner ← scanner.documentMark? .documentEnd
  let cursor ← scanner.cursor.skipComment? true
  if startsBreak cursor.rest then some { scanner with cursor := cursor } else none

/-- The end of the text, where no key may be waiting for its colon. -/
def streamEnd? (scanner : Scanner) : Option Scanner :=
  if scanner.keys.any fun place? => place?.any KeyPlace.required then none
  else some ((scanner.closeBlocks (-1)).push .streamEnd)

/-- The next lexeme; nothing at the end of the text. -/
def step? (scanner : Scanner) : Option (Scanner × Bool) := do
  let scanner ← skipGap? (scanner.cursor.ahead + 1) scanner
  let scanner ← scanner.dropStaleKeys?
  let scanner := scanner.closeBlocks scanner.cursor.column
  let cursor := scanner.cursor
  let inFlow := scanner.inFlow
  let more := fun (result : Option Scanner) => result.map fun scanner => (scanner, true)
  match cursor.rest with
  | [] => scanner.streamEnd?.map fun scanner => (scanner, false)
  | c :: rest =>
      if cursor.column = 0 && c == '%' then more scanner.directive?
      else if cursor.atDocumentStart then more (scanner.documentMark? .documentStart)
      else if cursor.atDocumentEnd then more scanner.documentEnd?
      else if cursor.column < scanner.indent then none
      else if c == '[' then more (scanner.flowStart? false)
      else if c.toNat = 0x7b then more (scanner.flowStart? true)
      else if c == ']' then more (scanner.flowEnd? false)
      else if c.toNat = 0x7d then more (scanner.flowEnd? true)
      else if c == ',' then more scanner.flowEntry?
      else if c == '-' && startsBlank rest then
        if cursor.column = 0 && scanner.followsMark && scanner.indent = 0 then none
        else more scanner.blockEntry?
      else if c == '?' && startsBlank rest then more scanner.explicitKey?
      else if c == ':' && startsBlank rest then more scanner.value?
      else if c == ':' && inFlow &&
          (rest.head?.any isFlowMark || cursor.index = scanner.tightValueAt) then
        more scanner.flowValue?
      else if c == '*' then more (scanner.anchor? .alias)
      else if c == '&' then more (scanner.anchor? .anchor)
      else if c == '!' then more scanner.tag?
      else if c == '|' && !inFlow then more (scanner.blockScalar? true)
      else if c == '>' && !inFlow then more (scanner.blockScalar? false)
      else if c == '\'' then more (scanner.quotedScalar? true)
      else if c == '"' then more (scanner.quotedScalar? false)
      else if c == '%' || c == '@' || c.toNat = 0x60 then none
      else more scanner.plainScalar?

def runFrom? : Nat → Scanner → Option (List Lexeme)
  | 0, _ => none
  | fuel + 1, scanner =>
      match scanner.step? with
      | none => none
      | some (scanner, true) => runFrom? fuel scanner
      | some (scanner, false) => some scanner.lexemes.toList

end Scanner

/-- All lexemes of a text, which ends where a null character stands. Every step moves on by a
character or ends, so the length of the text bounds their number. -/
def lexemes? (text : List Char) : Option (List Lexeme) :=
  let text := text.takeWhile (·.toNat ≠ 0)
  Scanner.runFrom? (text.length + 1) { cursor := { rest := text } }

end Templating.Yaml12
