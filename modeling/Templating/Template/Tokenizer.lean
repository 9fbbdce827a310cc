import Templating.Error
import Templating.Template.Pipeline
import Templating.Text.Bytes
import Templating.Text.Search

/-!
# Cutting templates into tokens

A placeholder reaches from an opener to the first closer after it. Lenient reading takes an opener
without a closer as text and keeps placeholders of no class; strict reading refuses both and gives
the byte at which the opener stands.
-/

namespace Templating

structure Tokenizer where
  strict : Bool
  /-- Whether a keyword must be followed by a blank or by nothing. -/
  keywordBoundary : Bool
  deriving DecidableEq

namespace Template

open Text (cut? trim isBlank)

def hasPlaceholders (template : List Char) : Bool :=
  Text.contains opener template && Text.contains closer template

def isNameStart (c : Char) : Bool := c.isAlpha || c == '_'

def isNameChar (c : Char) : Bool := c.isAlphanum || c == '_' || c == '.'

/-- An ASCII letter or underscore, then letters, digits, underscores and dots. -/
def isVariableName : List Char → Bool
  | [] => false
  | c :: rest => isNameStart c && rest.all isNameChar

/-- One literal run, or nothing for no text. -/
def textTokens (text : List Char) : List Token :=
  if text.isEmpty then [] else [.text (String.ofList text)]

/-- What follows a leading keyword, without the blanks around it. -/
def keyword? (boundary : Bool) (word raw : List Char) : Option (List Char) :=
  match Text.after? word raw with
  | none => none
  | some rest =>
      if !boundary || rest.isEmpty || (rest.head?.map isBlank).getD false then some (trim rest)
      else none

/-- The class of a placeholder with the given contents; the first that fits is taken. -/
def classify (boundary : Bool) (contents : List Char) : Token :=
  let raw := trim contents
  let text := String.ofList raw
  match keyword? boundary ['i', 'f'] raw with
  | some condition => .ifStart text (String.ofList condition)
  | none =>
      if (keyword? boundary ['/', 'i', 'f'] raw).isSome then .ifEnd text
      else if (keyword? boundary ['e', 'l', 's', 'e'] raw).isSome then .elseMark text
      else if Text.contains [' ', '?', ' '] raw && Text.contains [' ', ':', ' '] raw then
        .shorthandIf text
      else if isVariableName raw then .plain text
      else if raw.contains '|' then .filtered text (readPipeline raw)
      else .undefined text

end Template

namespace Tokenizer

open Template
open Text (byteLength)

/-- Reads everything from `offset` bytes into the template on. -/
def scanFrom (tokenizer : Tokenizer) (offset : Nat) (template : List Char) :
    Except TemplateError (List Token) :=
  match _opened : Text.cut? opener template with
  | none => .ok (textTokens template)
  | some (before, inner) =>
      match _closed : Text.cut? closer inner with
      | none =>
          if tokenizer.strict then
            .error (.malformedTemplate (offset + byteLength before) .unclosed)
          else .ok (textTokens template)
      | some (contents, rest) =>
          let token := classify tokenizer.keywordBoundary contents
          if tokenizer.strict && token.isUndefined then
            .error (.malformedTemplate (offset + byteLength before) (.unreadable token.raw))
          else
            let next := offset + byteLength before + byteLength opener + byteLength contents +
              byteLength closer
            (tokenizer.scanFrom next rest).map fun tokens =>
              textTokens before ++ token :: tokens
termination_by template.length
decreasing_by
  have outer := Text.length_of_cut? _opened
  have inner := Text.length_of_cut? _closed
  simp [opener] at outer
  omega

def scan (tokenizer : Tokenizer) (template : List Char) : Except TemplateError (List Token) :=
  tokenizer.scanFrom 0 template

/-- A lenient reading of a template that lacks one of the delimiters needs no scan. -/
def tokenize (tokenizer : Tokenizer) (template : String) : Except TemplateError (List Token) :=
  if !tokenizer.strict && !hasPlaceholders template.toList then
    .ok (textTokens template.toList)
  else tokenizer.scan template.toList

def lenient : Tokenizer := ⟨false, false⟩

end Tokenizer

/-- Lenient reading, which never fails. -/
def Template.tokens (template : String) : List Token :=
  match Tokenizer.lenient.scan template.toList with
  | .ok tokens => tokens
  | .error _ => Template.textTokens template.toList

end Templating
