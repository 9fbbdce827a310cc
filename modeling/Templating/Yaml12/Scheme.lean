import Templating.Decimal.Reading
import Templating.Yaml.Plain

/-!
# What a YAML 1.2 scalar stands for

A plain scalar without a tag is nothing, a boolean, a whole number, a number with a fraction or an
exponent, or text. Tags of the core set ask for one kind; a scalar that is not of that kind stands
for nothing that can be used. All other tags make text.
-/

namespace Templating.Yaml12

/-- What a text is made of. Numbers that are not whole keep their spelling. -/
inductive Node where
  | null
  | bool (value : Bool)
  | int (value : Int64)
  | real (spelling : String)
  | text (value : String)
  | unusable
  | list (items : List Node)
  | map (entries : List (Node × Node))

/-- Digits of a base after an optional sign, as a signed word. -/
def readSigned? (base : Nat) (digits : List Char) : Option Int64 :=
  let magnitude? := match digits with
    | '-' :: digits => (Text.readBase? base digits).map fun value => -(value : Int)
    | '+' :: digits => (Text.readBase? base digits).map Int.ofNat
    | digits => (Text.readBase? base digits).map Int.ofNat
  magnitude?.bind Decimal.int64?

/-- A word in a marked base, or one after a plus sign, which may be followed by a second sign. -/
def markedWord? : List Char → Option Int64
  | '0' :: 'x' :: digits => readSigned? 16 digits
  | '0' :: 'o' :: digits => readSigned? 8 digits
  | '+' :: digits => Decimal.readInt64? digits
  | _ => none

/-- Whether a text spells a number: a word for a special value, or something with a digit. -/
def isReal (text : List Char) : Bool :=
  let unsigned := match text with
    | '+' :: rest => rest
    | '-' :: rest => rest
    | rest => rest
  Yaml.isInfinityWord unsigned || Yaml.isNoNumberWord text ||
    (text.any Char.isDigit && (Decimal.readFloat? text).isSome)

/-- What a plain scalar without a tag stands for. -/
def plainNode (text : String) : Node :=
  let chars := text.toList
  match markedWord? chars with
  | some value => .int value
  | none =>
      if text = "~" || text = "null" then .null
      else
        match Yaml.boolWord? text with
        | some value => .bool value
        | none =>
            match Decimal.readInt64? chars with
            | some value => .int value
            | none => if isReal chars then .real text else .text text

def coreTag : List Char := "tag:yaml.org,2002:".toList

/-- What a plain scalar with a tag stands for. -/
def taggedNode (handle suffix : List Char) (text : String) : Node :=
  let kind := String.ofList suffix
  if handle ≠ coreTag then .text text
  else if kind = "bool" then
    if text = "true" then .bool true else if text = "false" then .bool false else .unusable
  else if kind = "int" then
    match Decimal.readInt64? text.toList with
    | some value => .int value
    | none => .unusable
  else if kind = "float" then if isReal text.toList then .real text else .unusable
  else if kind = "null" then if text = "~" || text = "null" then .null else .unusable
  else .text text

def scalarNode (tag : Option (List Char × List Char)) (isPlain : Bool) (text : String) : Node :=
  match isPlain, tag with
  | false, _ => .text text
  | true, none => plainNode text
  | true, some (handle, suffix) => taggedNode handle suffix text

end Templating.Yaml12
