import Templating.Calendar.Date
import Templating.Decimal.Reading
import Templating.Text.Digit
import Templating.Value

/-!
# TOML scalars

Numbers may have underscores between their digits. Dates and times are checked for their form and
kept as text.
-/

namespace Templating.Toml

/-- The digits without underscores; each underscore must stand between two digits. -/
def plainDigits? (isDigit : Char → Bool) : Bool → List Char → Option (List Char)
  | afterDigit, [] => if afterDigit then some [] else none
  | afterDigit, c :: rest =>
      if isDigit c then (plainDigits? isDigit true rest).map (c :: ·)
      else if c = '_' && afterDigit then plainDigits? isDigit false rest
      else none

def withoutSign : List Char → List Char
  | '+' :: rest => rest
  | '-' :: rest => rest
  | text => text

def isNegativeText (text : List Char) : Bool := text.head? == some '-'

/-- Decimal digits that do not start with a zero of no use. -/
def wholeDigits? (text : List Char) : Option (List Char) :=
  match plainDigits? Char.isDigit false text with
  | some ('0' :: _ :: _) => none
  | digits => digits

def inBase? (base : Nat) (text : List Char) : Option Int64 := do
  let digits ← plainDigits? (fun c => (Text.digitIn? base c).isSome) false text
  let value ← Text.readBase? base digits
  Decimal.int64? value

def integer? (text : List Char) : Option Int64 :=
  match text with
  | '0' :: 'x' :: digits => inBase? 16 digits
  | '0' :: 'o' :: digits => inBase? 8 digits
  | '0' :: 'b' :: digits => inBase? 2 digits
  | text => do
      let digits ← wholeDigits? (withoutSign text)
      let value : Int := Nat.ofDigitChars 10 digits 0
      Decimal.int64? (if isNegativeText text then -value else value)

/-- Splits at the first character that satisfies `test`. -/
def splitWhere (test : Char → Bool) (text : List Char) : List Char × Option (List Char) :=
  match text.dropWhile fun c => !test c with
  | [] => (text, none)
  | _ :: rest => (text.takeWhile fun c => !test c, some rest)

/-- A fraction or a number with an exponent that has a finite value, or one of the special words. -/
def float? (text : List Char) : Option Float := do
  let unsigned := withoutSign text
  let sign := if isNegativeText text then ['-'] else []
  if unsigned = ['i', 'n', 'f'] || unsigned = ['n', 'a', 'n'] then
    Decimal.readFloat? (sign ++ unsigned)
  else
    let (mantissa, exponent?) := splitWhere (fun c => c = 'e' || c = 'E') unsigned
    let (whole, fraction?) := splitWhere (· = '.') mantissa
    if exponent?.isNone && fraction?.isNone then none
    else
      let whole ← wholeDigits? whole
      let fraction ← match fraction? with
        | none => some []
        | some digits => (plainDigits? Char.isDigit false digits).map ('.' :: ·)
      let exponent ← match exponent? with
        | none => some []
        | some power => (plainDigits? Char.isDigit false (withoutSign power)).map fun digits =>
            'e' :: (if isNegativeText power then ['-'] else []) ++ digits
      (Decimal.readFloat? (sign ++ whole ++ fraction ++ exponent)).filter fun value => !value.isInf

/-- A number of exactly `width` digits in a range, and what follows it. -/
def field? (width low high : Nat) (text : List Char) : Option (List Char) :=
  let digits := text.take width
  if digits.length ≠ width || !digits.all Char.isDigit then none
  else
    let value := Nat.ofDigitChars 10 digits 0
    if low ≤ value && value ≤ high then some (text.drop width) else none

def mark? (mark : Char) : List Char → Option (List Char)
  | c :: rest => if c = mark then some rest else none
  | [] => none

/-- The day must be one of its month. -/
def date? (text : List Char) : Option (List Char) := do
  let afterYear ← field? 4 0 9999 text
  let monthText ← mark? '-' afterYear
  let afterMonth ← field? 2 1 12 monthText
  let year := Nat.ofDigitChars 10 (text.take 4) 0
  let month := Nat.ofDigitChars 10 (monthText.take 2) 0
  field? 2 1 (Calendar.daysInMonth year month) (← mark? '-' afterMonth)

def fraction? (digits : List Char) : Option (List Char) :=
  if (digits.takeWhile Char.isDigit).isEmpty then none else some (digits.dropWhile Char.isDigit)

/-- The seconds may be left out. -/
def time? (text : List Char) : Option (List Char) := do
  let rest ← field? 2 0 23 text
  let rest ← field? 2 0 59 (← mark? ':' rest)
  match rest with
  | ':' :: seconds => do
      match ← field? 2 0 60 seconds with
      | '.' :: fraction => fraction? fraction
      | rest => some rest
  | rest => some rest

/-- Whether the text is a distance from UTC, or nothing. -/
def isOffset (text : List Char) : Bool :=
  match text with
  | [] => true
  | ['Z'] => true
  | ['z'] => true
  | sign :: rest =>
      (sign = '+' || sign = '-') &&
        (do field? 2 0 59 (← mark? ':' (← field? 2 0 23 rest)) : Option (List Char)) = some []

def isDateTime (text : List Char) : Bool :=
  match date? text with
  | some [] => true
  | some (c :: rest) =>
      (c = 'T' || c = 't' || c = ' ') && ((time? rest).map isOffset).getD false
  | none => time? text = some []

/-- The value of a scalar without quotes. -/
def bareValue? (text : List Char) : Option Value :=
  if text = ['t', 'r', 'u', 'e'] then some (.bool true)
  else if text = ['f', 'a', 'l', 's', 'e'] then some (.bool false)
  else
    match integer? text with
    | some value => some (.int value)
    | none =>
        match float? text with
        | some value => some (.float value)
        | none => if isDateTime text then some (.string (String.ofList text)) else none

/-- Whether a character may stand in a text or a comment. -/
def isTextChar (c : Char) : Bool := c = '\t' || (0x20 ≤ c.toNat && c.toNat ≠ 0x7f)

/-- Whether a line feed comes next, alone or after a carriage return. -/
def afterBreak? : List Char → Option (List Char)
  | '\n' :: rest => some rest
  | '\r' :: '\n' :: rest => some rest
  | _ => none

/-- The character whose code stands in the first `width` digits. -/
def escapeCode? (width : Nat) (text : List Char) : Option (Char × List Char) := do
  let digits := text.take width
  if digits.length ≠ width then none
  else
    let c ← (Text.readBase? 16 digits).bind Text.charOf?
    return (c, text.drop width)

/-- The character of an escape, and what follows it. -/
def escape? : List Char → Option (Char × List Char)
  | 'b' :: rest => some ('\x08', rest)
  | 't' :: rest => some ('\t', rest)
  | 'n' :: rest => some ('\n', rest)
  | 'f' :: rest => some ('\x0c', rest)
  | 'r' :: rest => some ('\r', rest)
  | 'e' :: rest => some ('\x1b', rest)
  | '"' :: rest => some ('"', rest)
  | '\\' :: rest => some ('\\', rest)
  | 'x' :: rest => escapeCode? 2 rest
  | 'u' :: rest => escapeCode? 4 rest
  | 'U' :: rest => escapeCode? 8 rest
  | _ => none

/-- The rest of a text in one line; `literal` text has no escapes. -/
def lineText? (literal : Bool) : Nat → List Char → Option (List Char × List Char)
  | 0, _ => none
  | _ + 1, [] => none
  | fuel + 1, c :: rest =>
      if c = (if literal then '\'' else '"') then some ([], rest)
      else if c = '\\' && !literal then do
        let (c, rest) ← escape? rest
        (lineText? literal fuel rest).map fun parts => (c :: parts.1, parts.2)
      else if isTextChar c then
        (lineText? literal fuel rest).map fun parts => (c :: parts.1, parts.2)
      else none

/-- Blanks and breaks after a backslash at the end of a line. -/
def foldedRest (text : List Char) : List Char :=
  text.dropWhile fun c => c = ' ' || c = '\t' || c = '\n' || c = '\r'

/-- The rest of a text of several lines. Up to two quotes may stand before the closing three. -/
def blockText? (literal : Bool) : Nat → List Char → Option (List Char × List Char)
  | 0, _ => none
  | _ + 1, [] => none
  | fuel + 1, c :: rest =>
      let quote := if literal then '\'' else '"'
      let quotes := ((c :: rest).takeWhile (· = quote)).length
      if c = quote && 3 ≤ quotes then
        if 5 < quotes then none
        else some (List.replicate (quotes - 3) quote, (c :: rest).drop quotes)
      else if c = '\\' && !literal then
        let blanks := rest.dropWhile fun c => c = ' ' || c = '\t'
        if (afterBreak? blanks).isSome then blockText? literal fuel (foldedRest rest)
        else do
          let (c, rest) ← escape? rest
          (blockText? literal fuel rest).map fun parts => (c :: parts.1, parts.2)
      else
        match afterBreak? (c :: rest) with
        | some rest => (blockText? literal fuel rest).map fun parts => ('\n' :: parts.1, parts.2)
        | none =>
            if isTextChar c then
              (blockText? literal fuel rest).map fun parts => (c :: parts.1, parts.2)
            else none

/-- A quoted text of either kind and either length. -/
def text? (text : List Char) : Option (List Char × List Char) :=
  let block := fun (literal : Bool) (rest : List Char) =>
    blockText? literal (rest.length + 1) ((afterBreak? rest).getD rest)
  match text with
  | '"' :: '"' :: '"' :: rest => block false rest
  | '\'' :: '\'' :: '\'' :: rest => block true rest
  | '"' :: rest => lineText? false (rest.length + 1) rest
  | '\'' :: rest => lineText? true (rest.length + 1) rest
  | _ => none

end Templating.Toml
