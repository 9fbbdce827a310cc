import Templating.Json.Number
import Templating.Json.Quoted

/-!
# Reading JSON

A text is cut into lexemes, and the lexemes are put together to one tree. Nothing but blanks may
follow it, and arrays and objects may stand inside one another at most 127 deep.
-/

namespace Templating.Json

inductive Lexeme where
  | openArray
  | closeArray
  | openObject
  | closeObject
  | colon
  | comma
  | null
  | bool (value : Bool)
  | number (value : Number)
  | string (text : String)

def isSpace (c : Char) : Bool := c == ' ' || c == '\t' || c == '\n' || c == '\r'

/-- The lexeme of a single mark. -/
def markLexeme? (c : Char) : Option Lexeme :=
  match c.toNat with
  | 0x5b => some .openArray
  | 0x5d => some .closeArray
  | 0x7b => some .openObject
  | 0x7d => some .closeObject
  | 0x3a => some .colon
  | 0x2c => some .comma
  | _ => none

/-- The lexemes of a text, blanks left out. -/
def lexemes? (text : List Char) : Option (List Lexeme) :=
  match text with
  | [] => some []
  | 'n' :: 'u' :: 'l' :: 'l' :: rest => (lexemes? rest).map (.null :: ·)
  | 't' :: 'r' :: 'u' :: 'e' :: rest => (lexemes? rest).map (.bool true :: ·)
  | 'f' :: 'a' :: 'l' :: 's' :: 'e' :: rest => (lexemes? rest).map (.bool false :: ·)
  | c :: rest =>
      if isSpace c then lexemes? rest
      else if c = '"' then
        match _found : body? rest with
        | none => none
        | some (body, tail) => do
            let content ← unquote? body
            let others ← lexemes? tail
            return .string (String.ofList content) :: others
      else if isNumberChar c then do
        let value ← number? (c :: rest.takeWhile isNumberChar)
        let others ← lexemes? (rest.dropWhile isNumberChar)
        return .number value :: others
      else do
        let mark ← markLexeme? c
        let others ← lexemes? rest
        return mark :: others
termination_by text.length
decreasing_by
  all_goals simp only [List.length_cons]
  any_goals omega
  · have shorter := length_body?_lt _found
    omega
  · exact Nat.lt_succ_of_le (List.dropWhile_sublist isNumberChar).length_le

mutual

/-- One value at the start of the lexemes, and the lexemes after it. -/
def value? : Nat → List Lexeme → Option (Tree × List Lexeme)
  | 0, _ => none
  | _ + 1, .null :: rest => some (.null, rest)
  | _ + 1, .bool value :: rest => some (.bool value, rest)
  | _ + 1, .number value :: rest => some (.number value, rest)
  | _ + 1, .string text :: rest => some (.string text, rest)
  | _ + 1, .openArray :: .closeArray :: rest => some (.array [], rest)
  | fuel + 1, .openArray :: rest =>
      (items? fuel rest).map fun parts => (.array parts.1, parts.2)
  | _ + 1, .openObject :: .closeObject :: rest => some (.object [], rest)
  | fuel + 1, .openObject :: rest =>
      (members? fuel rest).map fun parts => (.object parts.1, parts.2)
  | _ + 1, _ => none

/-- One or more items and the closing bracket. -/
def items? : Nat → List Lexeme → Option (List Tree × List Lexeme)
  | 0, _ => none
  | fuel + 1, lexemes =>
      match value? fuel lexemes with
      | some (item, .closeArray :: rest) => some ([item], rest)
      | some (item, .comma :: rest) =>
          (items? fuel rest).map fun parts => (item :: parts.1, parts.2)
      | _ => none

/-- One or more members and the closing brace. -/
def members? : Nat → List Lexeme → Option (List (String × Tree) × List Lexeme)
  | 0, _ => none
  | fuel + 1, .string name :: .colon :: lexemes =>
      match value? fuel lexemes with
      | some (item, .closeObject :: rest) => some ([(name, item)], rest)
      | some (item, .comma :: rest) =>
          (members? fuel rest).map fun parts => ((name, item) :: parts.1, parts.2)
      | _ => none
  | _ + 1, _ => none

end

def maxDepth : Nat := 127

/-- Puts all lexemes together to one tree. Each call of the readers stands before a lexeme of its
own, at most two before the same one, so twice their number is fuel enough. -/
def tree? (lexemes : List Lexeme) : Option Tree :=
  match value? (2 * lexemes.length) lexemes with
  | some (tree, []) => if tree.depth ≤ maxDepth then some tree else none
  | _ => none

def read? (text : String) : Option Tree := (lexemes? text.toList).bind tree?

end Templating.Json
