import Templating.Decimal.Layout
import Templating.Value
import Templating.Yaml.Style

/-!
# Writing YAML

Lists and maps are written in block style, two spaces deeper for each level; a list inside a map
stands at the level of the map. Empty ones are closed at once. A key that is long or has several
lines stands after a question mark.
-/

namespace Templating.Yaml

/-- Floats are positional from `1e-5` up to below `1e16`; exponents have no plus sign. -/
def floatLayout : Decimal.Layout where
  tie := .even
  window := some (-5, 16)
  pointZero := true
  plusSign := false
  notANumber := ".nan"
  infinite := ".inf"

/-- The text written so far, backwards, and what the next mark has to know about its end. -/
structure Sheet where
  written : List Char := []
  column : Nat := 0
  /-- Whether the last thing written counts as a blank. -/
  blank : Bool := true
  /-- Whether only indentation and block marks stand in the line. -/
  fresh : Bool := true

namespace Sheet

def put (sheet : Sheet) (c : Char) : Sheet :=
  { sheet with written := c :: sheet.written, column := sheet.column + 1 }

def endLine (sheet : Sheet) (c : Char) : Sheet :=
  { sheet with written := c :: sheet.written, column := 0 }

def puts (sheet : Sheet) (text : List Char) : Sheet := text.foldl put sheet

def pad (sheet : Sheet) (count : Nat) : Sheet := sheet.puts (List.replicate count ' ')

/-- Goes to the given column of a fresh line, or of this one if nothing is in the way. -/
def newLine (sheet : Sheet) (indent : Nat) : Sheet :=
  let busy := !sheet.fresh || indent < sheet.column || (sheet.column == indent && !sheet.blank)
  let sheet := if busy then sheet.endLine '\n' else sheet
  { sheet.pad (indent - sheet.column) with blank := true, fresh := true }

/-- A mark with a blank before it if it needs one. -/
def mark (sheet : Sheet) (text : List Char) (needsBlank isBlank keepsFresh : Bool) : Sheet :=
  let sheet := if needsBlank && !sheet.blank then sheet.put ' ' else sheet
  { sheet.puts text with blank := isBlank, fresh := sheet.fresh && keepsFresh }

def text (sheet : Sheet) : String := String.ofList sheet.written.reverse

end Sheet

def writePlain (sheet : Sheet) (text : List Char) : Sheet :=
  let sheet := if sheet.blank || text.isEmpty then sheet else sheet.put ' '
  { sheet.puts text with blank := false, fresh := false }

/-- Text between single quotes; a quote is doubled, and lines after the first are indented. -/
def writeSingle (sheet : Sheet) (indent : Nat) (text : List Char) : Sheet :=
  let step := fun (state : Sheet × Bool) (c : Char) =>
    let (sheet, afterBreak) := state
    if isBreak c then
      let sheet := if !afterBreak && c == '\n' then sheet.endLine '\n' else sheet
      ({ sheet.endLine c with fresh := true }, true)
    else if c == ' ' then (sheet.put c, afterBreak)
    else
      let sheet := if afterBreak then sheet.newLine indent else sheet
      let sheet := if c == '\'' then sheet.put '\'' else sheet
      ({ sheet.put c with fresh := false }, false)
  let (sheet, afterBreak) := text.foldl step (sheet.mark ['\''] true false false, false)
  let sheet := if afterBreak then sheet.newLine indent else sheet
  sheet.mark ['\''] false false false

def hexDigits (width value : Nat) : List Char :=
  let digits := (Nat.toDigits 16 value).map Char.toUpper
  List.replicate (width - digits.length) '0' ++ digits

/-- The letter of an escape for the characters that have one. -/
def escapeLetter? (code : Nat) : Option Char :=
  match code with
  | 0x00 => some '0'
  | 0x07 => some 'a'
  | 0x08 => some 'b'
  | 0x09 => some 't'
  | 0x0a => some 'n'
  | 0x0b => some 'v'
  | 0x0c => some 'f'
  | 0x0d => some 'r'
  | 0x1b => some 'e'
  | 0x22 => some '"'
  | 0x5c => some '\\'
  | 0x85 => some 'N'
  | 0xa0 => some '_'
  | 0x2028 => some 'L'
  | 0x2029 => some 'P'
  | _ => none

def doubleChar (c : Char) : List Char :=
  if isPrintable c && !isBreak c && c ≠ '"' && c ≠ '\\' then [c]
  else
    match escapeLetter? c.toNat with
    | some letter => ['\\', letter]
    | none =>
        if c.toNat ≤ 0xff then '\\' :: 'x' :: hexDigits 2 c.toNat
        else if c.toNat ≤ 0xffff then '\\' :: 'u' :: hexDigits 4 c.toNat
        else '\\' :: 'U' :: hexDigits 8 c.toNat

def writeDouble (sheet : Sheet) (text : List Char) : Sheet :=
  let sheet := sheet.mark ['"'] true false false
  (sheet.puts (text.flatMap doubleChar)).mark ['"'] false false false

/-- What a literal block says in front about its last line breaks: keep one, none or all. -/
def chompMark (text : List Char) : List Char :=
  match text.reverse with
  | [] => ['-']
  | [last] => if isBreak last then ['+'] else ['-']
  | last :: other :: _ =>
      if !isBreak last then ['-'] else if isBreak other then ['+'] else []

/-- A literal block; text that starts with a space or a break needs its indentation said. -/
def writeLiteral (sheet : Sheet) (indent : Nat) (text : List Char) : Sheet :=
  let hint := match text with
    | c :: _ => if c == ' ' || isBreak c then ['2'] else []
    | [] => []
  let sheet := sheet.mark ['|'] true false false
  let sheet := (sheet.puts (hint ++ chompMark text)).endLine '\n'
  let step := fun (state : Sheet × Bool) (c : Char) =>
    let (sheet, afterBreak) := state
    if isBreak c then ({ sheet.endLine c with fresh := true }, true)
    else
      let sheet := if afterBreak then sheet.newLine indent else sheet
      ({ sheet.put c with fresh := false }, false)
  (text.foldl step ({ sheet with blank := true, fresh := true }, true)).1

/-- A text in the style chosen for it. -/
def writeText (sheet : Sheet) (indent : Nat) (asKey : Bool) (text : String) : Sheet :=
  match style asKey text with
  | .plain => writePlain sheet text.toList
  | .single => writeSingle sheet indent text.toList
  | .double => writeDouble sheet text.toList
  | .literal => writeLiteral sheet indent text.toList

/-- Whether a key goes before its colon in one line: a single line of at most 128 bytes. -/
def isSimpleKey (key : String) : Bool :=
  !(features key.toList).lineBreak && key.utf8ByteSize ≤ 128

/-- The column of the parts of a value inside a level; nothing stands around the outermost. -/
def deeper : Option Nat → Nat
  | none => 0
  | some indent => indent + 2

/-- The column of further lines of a scalar. -/
def scalarIndent : Option Nat → Nat
  | none => 2
  | some indent => indent + 2

mutual

/-- Writes a value inside a level; `inMap` says that it is the value of a key. -/
def writeValue (sheet : Sheet) (level : Option Nat) (inMap : Bool) : Value → Sheet
  | .nil => writePlain sheet ['n', 'u', 'l', 'l']
  | .bool true => writePlain sheet ['t', 'r', 'u', 'e']
  | .bool false => writePlain sheet ['f', 'a', 'l', 's', 'e']
  | .int value => writePlain sheet (Decimal.writeInteger value.toInt)
  | .float value => writePlain sheet (floatLayout.write value)
  | .string text => writeText sheet (scalarIndent level) false text
  | .timestamp time =>
      writeText sheet (scalarIndent level) false (String.ofList (Calendar.preciseText time))
  | .list [] => (sheet.mark ['['] true true false).mark [']'] false false false
  | .list (item :: rest) =>
      let column := if inMap && !sheet.fresh then level.getD 0 else deeper level
      writeItems sheet column (item :: rest)
  | .map [] =>
      (sheet.mark [Char.ofNat 0x7b] true true false).mark [Char.ofNat 0x7d] false false false
  | .map (entry :: rest) => writeEntries sheet (deeper level) (entry :: rest)

def writeItems (sheet : Sheet) (column : Nat) : List Value → Sheet
  | [] => sheet
  | item :: rest =>
      let sheet := (sheet.newLine column).mark ['-'] true false true
      writeItems (writeValue sheet (some column) false item) column rest

def writeEntries (sheet : Sheet) (column : Nat) : List (String × Value) → Sheet
  | [] => sheet
  | (key, value) :: rest =>
      let sheet := sheet.newLine column
      let sheet :=
        if isSimpleKey key then
          (writeText sheet (column + 2) true key).mark [':'] false false false
        else
          let sheet := writeText (sheet.mark ['?'] true false true) (column + 2) false key
          (sheet.newLine column).mark [':'] true false true
      writeEntries (writeValue sheet (some column) true value) column rest

end

end Templating.Yaml

/-- The value as one YAML document that ends in a line break. -/
def Templating.Value.toYaml (value : Value) : String :=
  ((Yaml.writeValue {} none false value).newLine 0).text
