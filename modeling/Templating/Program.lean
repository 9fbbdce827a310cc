import Templating.CommandLine
import Templating.Engine
import Templating.Filter.Builtin
import Templating.Settings.Loading
import Templating.VariableFile

/-!
# The program

What an invocation prints and how it ends. Failures print what was attempted and the chain of
causes; a chain of one is not numbered.
-/

namespace Templating

inductive Outcome where
  | printed (text : String)
  | help
  | misuse
  | failed (report : String)
  deriving DecidableEq

namespace Program

/-- A cause with its first line after `head` and further lines after `indent`. -/
def causeLines (head indent : String) (message : String) : String :=
  let lines := (Text.splitAtChar '\n' message.toList).map String.ofList
  "\n" ++ head ++ String.intercalate ("\n" ++ indent) lines

def numberedCause (cause : Nat × String) : String :=
  let number := String.ofList (Decimal.writeNat cause.1)
  let padding := String.ofList (List.replicate (5 - number.length) ' ')
  causeLines (padding ++ number ++ ": ") "       " cause.2

/-- The attempt and the causes of its failure, from the outermost. -/
def report (attempt : String) (causes : List String) : String :=
  let listed := match causes with
    | [] => ""
    | [cause] => "\n\nCaused by:" ++ causeLines "    " "    " cause
    | causes =>
        let numbered := ((List.range causes.length).zip causes).map numberedCause
        "\n\nCaused by:" ++ String.join numbered
  "Error: " ++ attempt ++ listed ++ "\n"

def attemptSettings : String := "Failed to load settings"

def attemptVariables (path : String) : String := "Failed to load variables from " ++ path

/-- The variables of a file, or the report of the failure. -/
def loadVariables (files : Files) (path : String) : Except String Bindings :=
  match Bindings.load files path with
  | .ok bindings => .ok bindings
  | .error error => .error (report (attemptVariables path) error.message?.toList)

/-- The text that a command prints. -/
def runCommand (engine : Engine) (files : Files) : Command → Except String String
  | .render template path? => do
      let scope ← match path? with
        | some path => loadVariables files path
        | none => pure NameMap.empty
      match (engine.render scope template).outcome with
      | .ok text => return text ++ "\n"
      | .error error => throw (report "Failed to render template" error.messages)
  | .resolve path output => do
      let batch ← loadVariables files path
      match (engine.resolve .ignored NameMap.empty batch).outcome with
      | .ok resolved =>
          match output with
          | .json => return resolved.toJsonLines
          | .yaml => return resolved.toValue.toYaml
      | .error error => throw (report "Failed to resolve variables" error.messages)

/-- The name and the version of the program. -/
def versionLine : String := "stencil 0.1.0\n"

/-- Does what the arguments ask for, with the files and the environment that the program sees. No
command looks at the clock. -/
def run (files : Files) (environment : List (String × String)) (invocation : Invocation) :
    Outcome :=
  match invocation with
  | .help => .help
  | .version => .printed versionLine
  | .misuse => .misuse
  | .run settings? command =>
      match Settings.load files environment settings? with
      | .error error => .failed (report attemptSettings error.message?.toList)
      | .ok settings =>
          match runCommand ⟨Registry.builtin, settings, .epoch⟩ files command with
          | .ok text => .printed text
          | .error report => .failed report

end Program

end Templating
