import Templating.Decimal.Reading
import Templating.Json.Quoted
import Templating.Text.Blank
import Templating.Text.Comment
import Templating.Text.Identifier
import Templating.Text.Search
import Templating.Value

/-!
# Reading JSON5

JSON with comments, names without quotes, quotes of two kinds, commas at the end, and more ways to
write a number. A text is one value; here it must be an object, in which the last value of a name
counts.
-/

namespace Templating.Json5

def isLineEnd (c : Char) : Bool :=
  c = '\n' || c = '\r' || c.toNat = 0x2028 || c.toNat = 0x2029

def isBlank (c : Char) : Bool := (Text.isBlank c && c.toNat ≠ 0x85) || c.toNat = 0xfeff

def afterGap? (text : List Char) : Option (List Char) :=
  Text.afterGap? { isBlank := isBlank, endsLine := isLineEnd, nested := false } text

/-- The character that stands after a backslash for another one or for itself. -/
def escapeLetter : Char → Char
  | 'b' => '\x08'
  | 'f' => '\x0c'
  | 'n' => '\n'
  | 'r' => '\r'
  | 't' => '\t'
  | 'v' => '\x0b'
  | c => c

/-- The character of an escape, or nothing for a break that is left out, and what follows. -/
def escape? : List Char → Option (List Char × List Char)
  | '\r' :: '\n' :: rest => some ([], rest)
  | 'x' :: a :: b :: rest => do
      let c ← (Text.readBase? 16 [a, b]).bind Text.charOf?
      return ([c], rest)
  | 'u' :: a :: b :: c :: d :: rest => do
      let first ← Json.unit? a b c d
      match rest with
      | '\\' :: 'u' :: a :: b :: c :: d :: rest' =>
          let second ← Json.unit? a b c d
          if Json.isHighHalf first && Json.isLowHalf second then
            return ([Char.ofNat (0x10000 + (first - 0xd800) * 0x400 + (second - 0xdc00))], rest')
          else
            return ([← Text.charOf? first], rest)
      | rest => return ([← Text.charOf? first], rest)
  | '0' :: rest => if rest.head?.any Char.isDigit then none else some (['\x00'], rest)
  | c :: rest =>
      if isLineEnd c then some ([], rest)
      else if c.isDigit || c = 'x' || c = 'u' then none
      else some ([escapeLetter c], rest)
  | [] => none

/-- The text up to the closing quote, and what follows it. -/
def quoted? (quote : Char) : Nat → List Char → Option (List Char × List Char)
  | 0, _ => none
  | _ + 1, [] => none
  | fuel + 1, c :: rest =>
      if c = quote then some ([], rest)
      else if c = '\\' then do
        let (text, rest) ← escape? rest
        let (others, rest) ← quoted? quote fuel rest
        return (text ++ others, rest)
      else if c = '\n' || c = '\r' then none
      else (quoted? quote fuel rest).map fun parts => (c :: parts.1, parts.2)

def isNameStart (c : Char) : Bool := c = '$' || c = '_' || Text.isLetter c

def isNameChar (c : Char) : Bool :=
  isNameStart c || Text.isLetterOrFollower c || c.toNat = 0x200c || c.toNat = 0x200d

/-- The characters of a name without quotes; any of them may be written by its code. -/
def nameRun : List Char → List Char × List Char
  | '\\' :: 'u' :: a :: b :: c :: d :: rest =>
      match (Json.unit? a b c d).bind Text.charOf? with
      | some letter =>
          let (name, after) := nameRun rest
          (letter :: name, after)
      | none => ([], '\\' :: 'u' :: a :: b :: c :: d :: rest)
  | c :: rest =>
      if isNameChar c then
        let (name, after) := nameRun rest
        (c :: name, after)
      else ([], c :: rest)
  | [] => ([], [])

/-- The name of a member, and what follows it. -/
def name? : List Char → Option (List Char × List Char)
  | [] => none
  | c :: rest =>
      if c = '"' || c = '\'' then quoted? c (rest.length + 1) rest
      else
        let (name, after) := nameRun (c :: rest)
        if name.head?.any isNameStart && name.all isNameChar then some (name, after) else none

def isNumberChar (c : Char) : Bool :=
  c.isDigit || c = '.' || c = 'e' || c = 'E' || c = '+' || c = '-'

/-- A whole number, as a float where a word does not hold it. -/
def wholeValue (negative : Bool) (magnitude : Nat) : Value :=
  let number : Int := if negative then -magnitude else magnitude
  match Decimal.int64? number with
  | some word => .int word
  | none => .float (Float.ofInt number)

/-- A number without its sign. -/
def unsigned? (negative : Bool) (text : List Char) : Option (Value × List Char) :=
  let signed := fun (value : Float) => Value.float (if negative then -value else value)
  match text with
  | 'I' :: 'n' :: 'f' :: 'i' :: 'n' :: 'i' :: 't' :: 'y' :: rest =>
      some (signed (Float.ofBits 0x7ff0000000000000), rest)
  | 'N' :: 'a' :: 'N' :: rest => some (signed (Float.ofBits 0x7ff8000000000000), rest)
  | '0' :: x :: rest =>
      if x = 'x' || x = 'X' then
        let isDigit := fun (c : Char) => (Text.digitIn? 16 c).isSome
        (Text.readBase? 16 (rest.takeWhile isDigit)).map fun magnitude =>
          (wholeValue negative magnitude, rest.dropWhile isDigit)
      else if x.isDigit then none
      else decimal? signed
  | _ => decimal? signed
where
  decimal? (signed : Float → Value) : Option (Value × List Char) :=
    let token := text.takeWhile isNumberChar
    let rest := text.dropWhile isNumberChar
    match Decimal.readDigits? token with
    | some magnitude => some (wholeValue negative magnitude, rest)
    | none => (Decimal.readParts? token).map fun parts => (signed parts.round, rest)

def number? : List Char → Option (Value × List Char)
  | '-' :: rest => unsigned? true rest
  | '+' :: rest => unsigned? false rest
  | text => unsigned? false text

/-- A value that is one word. -/
def word? (text : List Char) : Option (Value × List Char) :=
  let word := fun (spelling : String) (value : Value) =>
    (Text.after? spelling.toList text).map fun rest => (value, rest)
  word "null" .nil <|> word "true" (.bool true) <|> word "false" (.bool false)

mutual

/-- One value after blanks and comments. -/
def value? : Nat → List Char → Option (Value × List Char)
  | 0, _ => none
  | fuel + 1, text => do
      match ← afterGap? text with
      | [] => none
      | c :: rest =>
          if c = '"' || c = '\'' then
            (quoted? c (rest.length + 1) rest).map fun parts =>
              (.string (String.ofList parts.1), parts.2)
          else if c = '[' then
            (items? fuel rest).map fun parts => (.list parts.1, parts.2)
          else if c.toNat = 0x7b then
            (members? fuel rest).map fun parts => (.map (Entries.ofPairs parts.1), parts.2)
          else word? (c :: rest) <|> number? (c :: rest)

/-- Items up to the closing bracket. -/
def items? : Nat → List Char → Option (List Value × List Char)
  | 0, _ => none
  | fuel + 1, text => do
      match ← afterGap? text with
      | ']' :: rest => some ([], rest)
      | text =>
          let (item, rest) ← value? fuel text
          match ← afterGap? rest with
          | ',' :: rest => (items? fuel rest).map fun parts => (item :: parts.1, parts.2)
          | ']' :: rest => some ([item], rest)
          | _ => none

/-- Members up to the closing brace. -/
def members? : Nat → List Char → Option (Entries Value × List Char)
  | 0, _ => none
  | fuel + 1, text => do
      let text ← afterGap? text
      if text.head?.any fun c => c.toNat = 0x7d then some ([], text.drop 1)
      else
        let (name, rest) ← name? text
        match ← afterGap? rest with
        | ':' :: rest =>
            let (value, rest) ← value? fuel rest
            let rest ← afterGap? rest
            let member := (String.ofList name, value)
            match rest with
            | ',' :: rest => (members? fuel rest).map fun parts => (member :: parts.1, parts.2)
            | c :: rest => if c.toNat = 0x7d then some ([member], rest) else none
            | [] => none
        | _ => none

end

/-- The entries of a text that is one object. A value and the list around it may be read from the
same character, which bounds the calls. -/
def entries? (text : String) : Option (Entries Value) := do
  let chars := text.toList
  let (value, rest) ← value? (2 * chars.length + 2) chars
  let rest ← afterGap? rest
  match value with
  | .map entries => if rest.isEmpty then some entries else none
  | _ => none

end Templating.Json5
