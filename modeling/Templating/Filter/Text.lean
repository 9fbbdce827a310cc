import Templating.Filter.Argument
import Templating.Text.Search
import Templating.Text.Slug
import Templating.Value.Text

/-!
# Text filters

Filters that take text apart, put it together and change its letters.
-/

namespace Templating.Filter

def textList (pieces : List (List Char)) : Value :=
  .list (pieces.map fun piece => .string (String.ofList piece))

/-- Drops blanks at both ends, or the characters of the first argument. -/
def trim (value : Value) (arguments : List Value) : Except FilterError Value := do
  let text ← textInput value
  if arguments.isEmpty then return .string (Text.trimText text)
  else
    let dropped ← textArgument arguments 0
    return .string (String.ofList (Text.trimWhere (dropped.toList.contains ·) text.toList))

/-- Keeps as many characters from the start as the first argument says. -/
def shorten (value : Value) (arguments : List Value) : Except FilterError Value := do
  let text ← textInput value
  let limit ← integerArgument arguments 0
  if limit < 0 then throw (.invalidArgument 0 "length must not be negative")
  else return .string (String.ofList (text.toList.take limit.toInt.toNat))

/-- Counts characters, items or entries. -/
def length (value : Value) (_ : List Value) : Except FilterError Value :=
  let count? := match value with
    | .string text => some text.toList.length
    | .list items => some items.length
    | .map entries => some entries.length
    | _ => none
  match count? with
  | some count =>
      match Decimal.int64? count with
      | some count => .ok (.int count)
      | none => .error (.failed "length does not fit in an integer")
  | none => .error (wrongInput "string, list or map" value)

/-- Splits at line feeds. -/
def lines (value : Value) (_ : List Value) : Except FilterError Value := do
  let text ← textInput value
  return textList (Text.splitAtChar '\n' text.toList)

/-- The texts of the items with a separator between them, which is a line feed by default. -/
def join (value : Value) (arguments : List Value) : Except FilterError Value :=
  match value with
  | .list items => do
      let separator ← if arguments.isEmpty then pure "\n" else textArgument arguments 0
      let texts := items.map fun item => item.toText.toList
      return .string (String.ofList (Text.join separator.toList texts))
  | other => .error (wrongInput "list" other)

/-- The pieces between the occurrences of a separator. -/
def split (value : Value) (arguments : List Value) : Except FilterError Value := do
  let text ← textInput value
  let separator ← textArgument arguments 0
  return textList (Text.split separator.toList text.toList)

/-- All arguments as texts, or the error of the first that is none. -/
def textArguments (arguments : List Value) : Except FilterError (List String) :=
  (List.range arguments.length).mapM (textArgument arguments)

/-- Appends the arguments. -/
def concat (value : Value) (arguments : List Value) : Except FilterError Value := do
  let text ← textInput value
  let others ← textArguments arguments
  return .string (text ++ String.join others)

/-- The slug of a title. -/
def slug (value : Value) (_ : List Value) : Except FilterError Value := do
  let text ← textInput value
  return .string (String.ofList (Text.slugify text.toList))

/-- Words that are all capitals in titles. -/
def acronyms : List String := ["ai", "gpt", "api", "json", "xml", "html", "css"]

def titleWord (capitals : List String) (word : List Char) : List Char :=
  if capitals.any fun capital => Text.sameIgnoringAsciiCase capital.toList word then
    Text.upper word
  else Text.capitalize word

/-- The words of a slug with capitals; the arguments are further acronyms. -/
def title (value : Value) (arguments : List Value) : Except FilterError Value := do
  let text ← textInput value
  let others ← textArguments arguments
  let words := (Text.splitAtChar '-' text.toList).map (titleWord (acronyms ++ others))
  return .string (String.ofList (Text.join [' '] words))

def upper (value : Value) (_ : List Value) : Except FilterError Value := do
  let text ← textInput value
  return .string (String.ofList (Text.upper text.toList))

def lower (value : Value) (_ : List Value) : Except FilterError Value := do
  let text ← textInput value
  return .string (String.ofList (Text.lower text.toList))

end Templating.Filter
