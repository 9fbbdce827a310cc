import Templating.Yaml.Blank

/-!
# Places in a YAML 1.2 text

A cursor stands before the rest of a text and knows its line, its column, and how many characters
lie before it and ahead. Only line feeds and carriage returns end a line, a carriage return together
with the line feed after it.
-/

namespace Templating.Yaml12

open Yaml (isSpaceOrTab)

def isBreak (c : Char) : Bool := c == '\n' || c == '\r'

/-- Whether a break or the end comes next. -/
def startsBreak : List Char → Bool
  | [] => true
  | c :: _ => isBreak c

/-- Whether a blank, a break or the end comes next. -/
def startsBlank : List Char → Bool
  | [] => true
  | c :: _ => isSpaceOrTab c || isBreak c

structure Cursor where
  rest : List Char
  index : Nat := 0
  line : Nat := 0
  column : Nat := 0
  ahead : Nat := rest.length
  ahead_eq : ahead = rest.length := by rfl
  /-- Whether only blanks were passed since the line began. -/
  atLineStart : Bool := true

namespace Cursor

/-- Moves over blanks of one line. -/
def skipBlanks (cursor : Cursor) (count : Nat) : Cursor :=
  { cursor with
    rest := cursor.rest.drop count
    index := cursor.index + count
    column := cursor.column + count
    ahead := cursor.ahead - count
    ahead_eq := by simp [cursor.ahead_eq] }

/-- Moves over characters of one line, not all of them blank. -/
def skip (cursor : Cursor) (count : Nat) : Cursor :=
  if count = 0 then cursor else { cursor.skipBlanks count with atLineStart := false }

/-- Moves over the break that stands here, if one does. -/
def skipBreak (cursor : Cursor) : Cursor :=
  let pass := fun (count : Nat) =>
    { rest := cursor.rest.drop count
      index := cursor.index + count
      line := cursor.line + 1
      ahead := cursor.ahead - count
      ahead_eq := by simp [cursor.ahead_eq] : Cursor }
  match cursor.rest with
  | '\r' :: '\n' :: _ => pass 2
  | c :: _ => if isBreak c then pass 1 else cursor
  | [] => cursor

def startsWith (cursor : Cursor) (text : List Char) : Bool := text.isPrefixOf cursor.rest

/-- Whether `mark` stands alone at the start of a line. -/
def atMark (cursor : Cursor) (mark : List Char) : Bool :=
  cursor.column == 0 && cursor.startsWith mark && startsBlank (cursor.rest.drop mark.length)

def atDocumentStart (cursor : Cursor) : Bool := cursor.atMark ['-', '-', '-']

def atDocumentEnd (cursor : Cursor) : Bool := cursor.atMark ['.', '.', '.']

def atDocumentMark (cursor : Cursor) : Bool := cursor.atDocumentStart || cursor.atDocumentEnd

/-- Moves over the characters up to the end of the line. -/
def skipLine (cursor : Cursor) : Cursor :=
  cursor.skip (cursor.rest.takeWhile fun c => !isBreak c).length

/-- The blanks of a line that stand next; tabs count among them only if `tabs` says so. -/
def blanks (cursor : Cursor) (tabs : Bool) : List Char :=
  cursor.rest.takeWhile fun c => c == ' ' || (tabs && c == '\t')

/-- Moves over blanks and a comment after them. A comment that no blank parts from what stands
before it is refused. -/
def skipComment? (cursor : Cursor) (tabs : Bool) : Option Cursor :=
  let passed := cursor.blanks tabs
  let next := cursor.skipBlanks passed.length
  if next.rest.head? == some '#' then if passed.isEmpty then none else some next.skipLine
  else some next

end Cursor

end Templating.Yaml12
