import Templating.File
import Templating.Ini.Reading
import Templating.Json5.Reading
import Templating.Ron.Reading
import Templating.Settings
import Templating.Settings.KeyPath
import Templating.Text.Bytes
import Templating.Text.Case
import Templating.Value.Json
import Templating.Yaml12.Reading

/-!
# Loading settings

Defaults come first, then an optional file, then environment variables. Keys are paths. A switch
takes booleans, numbers and a few words; unknown names are passed over.
-/

namespace Templating

inductive SettingsError where
  | notFound (path : String)
  /-- A source cannot be read, or a value is no switch. -/
  | invalid
  deriving DecidableEq

def SettingsError.message? : SettingsError → Option String
  | notFound path => some ("Settings file not found: " ++ path)
  | invalid => none

namespace Settings

/-- The position of a switch: numbers are on unless they are zero. -/
def switch? : Value → Option Bool
  | .bool value => some value
  | .int value => some (value ≠ 0)
  | .float value => some (value != 0.0)
  | .string text =>
      let word := String.ofList (Text.lower text.toList)
      if ["1", "true", "on", "yes"].contains word then some true
      else if ["0", "false", "off", "no"].contains word then some false
      else none
  | _ => none

/-- What all names of environment variables for settings start with, in lower case. -/
def environmentStart : List Char := "stencil_".toList

/-- The value that a text from the environment stands for. -/
def environmentValue (text : String) : Value :=
  let word := String.ofList (Text.lower text.toList)
  if word = "true" then .bool true
  else if word = "false" then .bool false
  else
    match Decimal.readInt64? text.toList with
    | some value => .int value
    | none =>
        match Decimal.readFloat? text.toList with
        | some value => .float value
        | none => .string text

/-- The entries that the environment sets, by their names in lower case. -/
def environmentEntries (environment : List (String × String)) : List (String × Value) :=
  environment.filterMap fun entry =>
    (Text.after? environmentStart (Text.lower entry.1.toList)).map fun name =>
      (String.ofList name, environmentValue entry.2)

/-- The text of a file, without a byte order mark at its start. -/
def fileText (bytes : ByteArray) : String :=
  match Text.decode (bytes.toList.map UInt8.toNat) with
  | [] => ""
  | first :: rest => String.ofList (if first.toNat = 0xfeff then rest else first :: rest)

/-- The entries of a file in the format of its extension. -/
def fileEntries? (path text : String) : Option (List (String × Value)) :=
  match Path.extension? path with
  | some "toml" => Toml.read? text
  | some "json" => (Bindings.ofJson? text).map NameMap.entries
  | some "yaml" => Yaml12.entries? text
  | some "yml" => Yaml12.entries? text
  | some "ini" => Ini.entries? text
  | some "json5" => Json5.entries? text
  | some "ron" => Ron.entries? text
  | _ => none

/-- One switch of merged settings. -/
def switchOr? (merged : Value) (name : String) (default : Bool) : Option Bool :=
  match Entries.get? name merged.entries with
  | none => some default
  | some value => switch? value

/-- The settings that merged sources give. -/
def ofValue? (merged : Value) : Option Settings := do
  let defaults : Settings := {}
  return {
    strictSyntax := ← switchOr? merged "strict_syntax" defaults.strictSyntax
    injectNow := ← switchOr? merged "inject_now" defaults.injectNow
    checkCancellation := ← switchOr? merged "check_cancellation" defaults.checkCancellation
    keywordBoundary := ← switchOr? merged "keyword_boundary" defaults.keywordBoundary }

/-- The settings of an optional file and the environment, which is laid over it. In each of them the
last entry of a key counts. -/
def load (files : Files) (environment : List (String × String)) (path? : Option String) :
    Except SettingsError Settings :=
  let merge := fun (entries : Entries Value) =>
    let below := layOver (.map []) (Entries.ofPairs entries)
    match ofValue? (layOver below (Entries.ofPairs (environmentEntries environment))) with
    | some settings => .ok settings
    | none => .error .invalid
  match path? with
  | none => merge []
  | some path =>
      match files path with
      | none => .error (.notFound path)
      | some bytes =>
          match fileEntries? path (fileText bytes) with
          | some entries => merge entries
          | none => .error .invalid

end Settings

end Templating
