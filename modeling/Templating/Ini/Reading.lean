import Templating.Text.Blank
import Templating.Text.Digit
import Templating.Value

/-!
# Reading INI

A text is a sequence of keys with their values, which are all text, under headers in brackets. Keys
before the first header belong to the top; a header makes a map of the keys under it. Comments have
lines of their own. A backslash stands before characters that are hard to write, and before a break
that does not count.
-/

namespace Templating.Ini

/-- The character that a letter after a backslash stands for. -/
def escapeLetter : Char → Char
  | '0' => '\x00'
  | 'a' => '\x07'
  | 'b' => '\x08'
  | 't' => '\t'
  | 'r' => '\r'
  | 'n' => '\n'
  | c => c

/-- The character with the code in four digits, or in three after a plus sign. -/
def codeChar? (first second third fourth : Char) : Option Char :=
  let digits := if first = '+' then [second, third, fourth] else [first, second, third, fourth]
  (Text.readBase? 16 digits).bind Text.charOf?

/-- The text up to a character at which it stops, and what follows from that character on. The end
of everything stops it only if `atEnd` says so. -/
def piece? (stops : Char → Bool) (atEnd : Bool) : List Char → Option (List Char × List Char)
  | [] => if atEnd then some ([], []) else none
  | ['\\'] => if atEnd then some (['\\'], []) else none
  | '\\' :: '\n' :: rest => piece? stops atEnd rest
  | '\\' :: 'x' :: first :: second :: third :: fourth :: rest => do
      let c ← codeChar? first second third fourth
      let (text, rest) ← piece? stops atEnd rest
      return (c :: text, rest)
  | '\\' :: 'x' :: _ => none
  | '\\' :: letter :: rest => do
      let (text, rest) ← piece? stops atEnd rest
      return (escapeLetter letter :: text, rest)
  | c :: rest =>
      if stops c then some ([], c :: rest)
      else do
        let (text, rest) ← piece? stops atEnd rest
        return (c :: text, rest)

def isBreak (c : Char) : Bool := c = '\n' || c = '\r'

/-- A value: quoted pieces, and what stands after them in the line. Blanks count inside quotes, and
between a quoted piece and what follows it. -/
def valueFrom? : Nat → Bool → List Char → Option (List Char × List Char)
  | 0, _, _ => none
  | fuel + 1, afterQuote, text =>
      match text.head? with
      | none => some ([], [])
      | some c =>
          if c = '"' || c = '\'' then do
            let (piece, rest) ← piece? (· = c) false (text.drop 1)
            let (others, rest) ← valueFrom? fuel true (rest.drop 1)
            return (piece ++ others, rest)
          else do
            let (piece, rest) ← piece? isBreak true text
            let trimmed :=
              if afterQuote then (piece.reverse.dropWhile Text.isBlank).reverse
              else Text.trim piece
            return (trimmed, rest)

def value? (text : List Char) : Option (List Char × List Char) :=
  let text := text.dropWhile fun c => Text.isBlank c && !isBreak c
  valueFrom? (text.length + 1) false text

/-- The text after blanks, and whether it starts a line. -/
def skipBlanks : Bool → List Char → Bool × List Char
  | fresh, [] => (fresh, [])
  | fresh, c :: rest => if Text.isBlank c then skipBlanks (c = '\n') rest else (fresh, c :: rest)

/-- The keys up to the next header, and the maps of the headers from there on. -/
def parts? : Nat → Bool → List Char → Option (Entries Value × Entries Value)
  | 0, _, _ => none
  | fuel + 1, fresh, text =>
      let (fresh, text) := skipBlanks fresh text
      match text with
      | [] => some ([], [])
      | c :: rest =>
          if c = ';' || c = '#' then
            if fresh then parts? fuel true ((rest.dropWhile (· ≠ '\n')).drop 1) else none
          else if c = '[' then do
            let (name, rest) ← piece? (· = ']') false rest
            let (inner, sections) ← parts? fuel false (rest.drop 1)
            let table := Value.map (Entries.ofPairs inner)
            return ([], (String.ofList (Text.trim name), table) :: sections)
          else do
            let (key, rest) ← piece? (fun c => c = '=' || c = ':') false text
            let key := Text.trim key
            if key.isEmpty then none
            else
              let (value, rest) ← value? (rest.drop 1)
              let (entries, sections) ← parts? fuel false rest
              return ((String.ofList key, .string (String.ofList value)) :: entries, sections)

/-- The entries of a text. Each part takes a character at least. -/
def entries? (text : String) : Option (Entries Value) :=
  (parts? (text.length + 1) true text.toList).map fun parts => parts.1 ++ parts.2

end Templating.Ini
