import Templating.Decimal.Reading
import Templating.Template.Quote
import Templating.Template.Token

/-!
# Reading filter pipelines

A bar stands before each filter, a colon between a filter and its arguments, a comma between
arguments; inside quotes none of them counts. Every part is read without the blanks around it.
-/

namespace Templating.Template

/-- Digits with signs, points and exponent letters. Words for infinity and for no number are
variable names here. -/
def looksLikeFloat (text : List Char) : Bool :=
  text.any Char.isDigit &&
    text.all fun c => c.isDigit || c == '.' || c == 'e' || c == 'E' || c == '+' || c == '-'

/-- The content of a quoted argument. -/
def quotedArgument? (text : List Char) : Option (List Char) :=
  match betweenQuotes? '"' text with
  | some inner => some (unescape '"' inner)
  | none => (betweenQuotes? '\'' text).map (unescape '\'')

/-- An argument without quotes: an integer, a float, a boolean word, or else a variable name. -/
def plainArgument (text : List Char) : Argument :=
  match Decimal.readInt64? text with
  | some value => .literal (.int value)
  | none =>
      match if looksLikeFloat text then Decimal.readFloat? text else none with
      | some value => .literal (.float value)
      | none =>
          let word := String.ofList text
          if word = "true" || word = "yes" then .literal (.bool true)
          else if word = "false" || word = "no" then .literal (.bool false)
          else .reference word

def readArgument (text : List Char) : Argument :=
  match quotedArgument? text with
  | some content => .literal (.string (String.ofList content))
  | none => if text.isEmpty then .literal (.string "") else plainArgument text

/-- A filter name, and arguments after a colon. -/
def readCall (segment : List Char) : FilterCall :=
  let text := Text.trim segment
  let (name, rest) := match cutUnquoted? ':' text with
    | some (before, rest) => (Text.trim before, rest)
    | none => (text, [])
  ⟨String.ofList name, (splitUnquoted ',' rest).map readArgument⟩

/-- The first part names the variable; without any part the name is empty. -/
def readPipeline (raw : List Char) : Pipeline :=
  match splitUnquoted '|' raw with
  | [] => ⟨"", []⟩
  | name :: segments => ⟨String.ofList name, segments.map readCall⟩

end Templating.Template
