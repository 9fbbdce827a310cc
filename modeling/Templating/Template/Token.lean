import Templating.Value

/-!
# Tokens

A template is a sequence of literal runs and placeholders. The raw text of a placeholder is what
stands between its delimiters, without the blanks at both ends.
-/

namespace Templating

inductive Literal where
  | string (text : String)
  | int (value : Int64)
  | float (value : Float)
  | bool (value : Bool)
  deriving BEq

def Literal.value : Literal → Value
  | string text => .string text
  | int value => .int value
  | float value => .float value
  | bool value => .bool value

/-- An argument of a filter: a constant, or the name of a variable. -/
inductive Argument where
  | literal (value : Literal)
  | reference (name : String)
  deriving BEq

def Argument.reference? : Argument → Option String
  | literal _ => none
  | reference name => some name

structure FilterCall where
  name : String
  arguments : List Argument
  deriving BEq

def FilterCall.references (call : FilterCall) : List String :=
  call.arguments.filterMap Argument.reference?

/-- A variable and the filters that it goes through, from left to right. -/
structure Pipeline where
  name : String
  calls : List FilterCall
  deriving BEq

def Pipeline.references (pipeline : Pipeline) : List String :=
  pipeline.name :: pipeline.calls.flatMap FilterCall.references

inductive Token where
  | text (run : String)
  /-- A variable without filters. -/
  | plain (name : String)
  | filtered (raw : String) (pipeline : Pipeline)
  | ifStart (raw condition : String)
  | ifEnd (raw : String)
  | elseMark (raw : String)
  | shorthandIf (raw : String)
  /-- A placeholder of no other class. -/
  | undefined (raw : String)
  deriving BEq

namespace Token

def raw : Token → String
  | text run => run
  | plain name => name
  | filtered raw _ => raw
  | ifStart raw _ => raw
  | ifEnd raw => raw
  | elseMark raw => raw
  | shorthandIf raw => raw
  | undefined raw => raw

def isText : Token → Bool
  | text _ => true
  | _ => false

/-- Tokens that have a value. -/
def isVariable : Token → Bool
  | plain _ => true
  | filtered _ _ => true
  | _ => false

def isConditional : Token → Bool
  | ifStart _ _ => true
  | ifEnd _ => true
  | elseMark _ => true
  | shorthandIf _ => true
  | _ => false

def isUndefined : Token → Bool
  | undefined _ => true
  | _ => false

/-- The names that the value of the token depends on. -/
def references : Token → List String
  | plain name => [name]
  | filtered _ pipeline => pipeline.references
  | _ => []

end Token

namespace Template

/-- The two characters that open a placeholder. -/
def opener : List Char := List.replicate 2 (Char.ofNat 0x7b)

/-- The two characters that close a placeholder. -/
def closer : List Char := List.replicate 2 (Char.ofNat 0x7d)

end Template

/-- Template text that stands for the token. -/
def Token.source : Token → String
  | .text run => run
  | token =>
      String.ofList (Template.opener ++ ' ' :: token.raw.toList ++ ' ' :: Template.closer)

end Templating
