import Templating.Decimal.Reading
import Templating.Text.Bytes
import Templating.Text.Digit
import Templating.Text.Identifier
import Templating.Text.Search
import Templating.Value

/-!
# RON scalars

Names, quoted text of several kinds, and numbers, of which some are followed by the name of a type.
-/

namespace Templating.Ron

def isNameStart (c : Char) : Bool := c = '_' || Text.isLetter c

def isNameChar (c : Char) : Bool := Text.isLetterOrFollower c

/-- What a quoted text starts with that looks like a name. -/
def quoteStarts : List (List Char) :=
  ["b\"", "b'", "br#", "br\"", "r\"", "r#\"", "r##"].map String.toList

/-- A name; after a mark it may hold some more characters. -/
def name? (text : List Char) : Option (List Char × List Char) :=
  if quoteStarts.any fun start => (Text.after? start text).isSome then none
  else
    match text with
    | 'r' :: '#' :: rest =>
        let isRawChar := fun (c : Char) => isNameChar c || c = '.' || c = '+' || c = '-'
        let name := rest.takeWhile isRawChar
        if name.isEmpty then none else some (name, rest.dropWhile isRawChar)
    | c :: rest =>
        if isNameStart c then some (c :: rest.takeWhile isNameChar, rest.dropWhile isNameChar)
        else none
    | [] => none

def bytesOf (c : Char) : List Nat := (String.utf8EncodeChar c).map UInt8.toNat

/-- The code between braces of one to six digits. -/
def bracedChar? (text : List Char) : Option (Char × List Char) := do
  let digits := (text.drop 1).takeWhile fun c => c.toNat ≠ 0x7d
  if 6 < digits.length || !text.head?.any fun c => c.toNat = 0x7b then none
  else
    let c ← (Text.readBase? 16 digits).bind Text.charOf?
    match text.drop (digits.length + 1) with
    | _ :: rest => some (c, rest)
    | [] => none

/-- The bytes of an escape after its backslash, and what follows. -/
def escape? : List Char → Option (List Nat × List Char)
  | '\'' :: rest => some ([0x27], rest)
  | '"' :: rest => some ([0x22], rest)
  | '\\' :: rest => some ([0x5c], rest)
  | 'n' :: rest => some ([0x0a], rest)
  | 'r' :: rest => some ([0x0d], rest)
  | 't' :: rest => some ([0x09], rest)
  | '0' :: rest => some ([0x00], rest)
  | 'x' :: first :: second :: rest =>
      (Text.readBase? 16 [first, second]).map fun byte => ([byte], rest)
  | 'u' :: rest => (bracedChar? rest).map fun parts => (bytesOf parts.1, parts.2)
  | _ => none

/-- The bytes up to the closing quote, and what follows it. -/
def quotedFrom? : Nat → List Char → Option (List Nat × List Char)
  | 0, _ => none
  | _ + 1, [] => none
  | _ + 1, '"' :: rest => some ([], rest)
  | fuel + 1, '\\' :: rest => do
      let (bytes, rest) ← escape? rest
      let (others, rest) ← quotedFrom? fuel rest
      return (bytes ++ others, rest)
  | fuel + 1, c :: rest =>
      (quotedFrom? fuel rest).map fun parts => (bytesOf c ++ parts.1, parts.2)

/-- A text without escapes, which as many marks close as opened it. -/
def raw? (text : List Char) : Option (List Nat × List Char) :=
  let marks := text.takeWhile (· = '#')
  match text.dropWhile (· = '#') with
  | '"' :: rest =>
      (Text.cut? ('"' :: marks) rest).map fun parts => (parts.1.flatMap bytesOf, parts.2)
  | _ => none

/-- A character after its opening quote. -/
def character? (text : List Char) : Option (List Nat × List Char) := do
  let (bytes, rest) ← match text with
    | '\\' :: rest => escape? rest
    | c :: rest => some (bytesOf c, rest)
    | [] => none
  match rest with
  | '\'' :: rest => some (bytes, rest)
  | _ => none

/-- Quoted text of any kind. -/
def text? (text : List Char) : Option (String × List Char) := do
  let (bytes, rest) ← match text with
    | '"' :: rest => quotedFrom? (rest.length + 1) rest
    | '\'' :: rest => character? rest
    | 'b' :: '"' :: rest => quotedFrom? (rest.length + 1) rest
    | 'b' :: 'r' :: rest => raw? rest
    | 'r' :: rest => raw? rest
    | _ => none
  return (← Text.decodeStrictly? bytes, rest)

def isFloatChar (c : Char) : Bool :=
  c.isDigit || c = 'e' || c = 'E' || c = '.' || c = '+' || c = '-' || c = '_'

def isDigitChar (c : Char) : Bool := c = '_' || (Text.digitIn? 16 c).isSome

def isSign (c : Char) : Bool := c = '+' || c = '-'

def withoutSign (text : List Char) : List Char :=
  if text.head?.any isSign then text.drop 1 else text

/-- The least and the largest number of a type. -/
def typeRange? (type : List Char) : Option (Int × Int) :=
  let natural := fun (size : Nat) => some ((0 : Int), (size : Int) - 1)
  match String.ofList type with
  | "" => some (Int64.minValue.toInt, UInt64.size - 1)
  | "i8" => some (Int8.minValue.toInt, Int8.maxValue.toInt)
  | "i16" => some (Int16.minValue.toInt, Int16.maxValue.toInt)
  | "i32" => some (Int32.minValue.toInt, Int32.maxValue.toInt)
  | "i64" => some (Int64.minValue.toInt, Int64.maxValue.toInt)
  | "u8" => natural UInt8.size
  | "u16" => natural UInt16.size
  | "u32" => natural UInt32.size
  | "u64" => natural UInt64.size
  | _ => none

/-- The base of a whole number, and its digits. -/
def base : List Char → Nat × List Char
  | '0' :: 'b' :: rest => (2, rest)
  | '0' :: 'o' :: rest => (8, rest)
  | '0' :: 'x' :: rest => (16, rest)
  | rest => (10, rest)

/-- A whole number, with the name of a type if one follows; it must lie in the range of its type. -/
def whole? (text : List Char) : Option (Value × List Char) := do
  let (base, unsigned) := base (withoutSign text)
  let digits := unsigned.takeWhile isDigitChar
  let rest := unsigned.dropWhile isDigitChar
  let type := rest.takeWhile isNameChar
  let (low, high) ← typeRange? type
  if digits.head? = some '_' then none
  else
    let magnitude ← Text.readBase? base (digits.filter (· ≠ '_'))
    let number : Int := if text.head? = some '-' then -magnitude else magnitude
    if low ≤ number && number ≤ high then
      let value := ((Decimal.int64? number).map Value.int).getD (.float (Float.ofInt number))
      return (value, rest.drop type.length)
    else none

/-- The characters of a number without underscores; one may stand anywhere after a digit of the
part that it belongs to. -/
def withoutUnderscores? : Bool → List Char → Option (List Char)
  | _, [] => some []
  | afterDigit, '_' :: rest => if afterDigit then withoutUnderscores? true rest else none
  | afterDigit, c :: rest =>
      let next := c ≠ '.' && (afterDigit || !isSign c)
      (withoutUnderscores? next rest).map (c :: ·)

def isFloatWord (name : List Char) : Bool :=
  name = ['i', 'n', 'f'] || name = ['N', 'a', 'N']

/-- A number with a fraction or an exponent, or a word for a special one. -/
def float? (text : List Char) : Option (Value × List Char) :=
  let word := (withoutSign text).takeWhile isNameChar
  if isFloatWord word then
    let length := text.length - (withoutSign text).length + word.length
    (Decimal.readFloat? (text.take length)).map fun value => (.float value, text.drop length)
  else do
    let run := text.takeWhile isFloatChar
    let rest := text.drop run.length
    let value ← Decimal.readFloat? (← withoutUnderscores? false run)
    let type := rest.takeWhile isNameChar
    if type = ['f', '3', '2'] then return (.float value.toFloat32.toFloat, rest.drop 3)
    else if type = ['f', '6', '4'] then return (.float value, rest.drop 3)
    else return (.float value, rest)

/-- The number of a single byte. -/
def byte? (text : List Char) : Option (Value × List Char) := do
  match ← character? text with
  | ([byte], rest) => some (.int (Int64.ofNat byte), rest)
  | _ => none

/-- A number. Whole numbers that are too large are read as the others are. -/
def number? (text : List Char) : Option (Value × List Char) :=
  let unsigned := withoutSign text
  if (unsigned.takeWhile isDigitChar).length < (unsigned.takeWhile isFloatChar).length then
    float? text
  else whole? text <|> float? text

end Templating.Ron
