import Templating.File
import Templating.Text.Blank
import Templating.Value.Json
import Templating.Yaml.Reading

/-!
# Variable files

A file of variables is YAML or JSON, by its extension in any case. A blank YAML file holds no
variables.
-/

namespace Templating

inductive Format where
  | json
  | yaml
  deriving DecidableEq

namespace Format

def ofExtension? (extension : String) : Option Format :=
  let word := String.ofList (extension.toList.map Char.toLower)
  if word = "yaml" || word = "yml" then some yaml
  else if word = "json" then some json
  else none

/-- The variables of a text. -/
def read? (format : Format) (text : String) : Option Bindings :=
  match format with
  | json => Bindings.ofJson? text
  | yaml =>
      if text.toList.all Text.isBlank then some NameMap.empty else Bindings.ofYaml? text

end Format

inductive VariableFileError where
  /-- The file is not there or is not text. -/
  | unreadable
  | malformed (format : Format) (path : String)
  | unsupported (path : String)
  deriving DecidableEq

def VariableFileError.message? : VariableFileError → Option String
  | unsupported path =>
      some ("Unsupported variable file '" ++ path ++ "', expected .yaml, .yml or .json")
  | _ => none

/-- The variables of the file at a path. -/
def Bindings.load (files : Files) (path : String) : Except VariableFileError Bindings :=
  match (Path.extension? path).bind Format.ofExtension? with
  | none => .error (.unsupported path)
  | some format =>
      match (files path).bind String.fromUTF8? with
      | none => .error .unreadable
      | some text =>
          match format.read? text with
          | some bindings => .ok bindings
          | none => .error (.malformed format path)

end Templating
