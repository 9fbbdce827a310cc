import Templating.Program

/-!
# The executable

Reads the files that the arguments name, runs the program and prints what it answers.
-/

namespace Templating

def usage : String :=
  "Usage: stencil [--config FILE] [--verbose] render TEMPLATE [--vars FILE]\n" ++
  "       stencil [--config FILE] [--verbose] resolve --vars FILE [--output json|yaml]\n"

/-- The environment variables that can hold settings. -/
def settingNames : List String :=
  ["STENCIL_STRICT_SYNTAX", "STENCIL_INJECT_NOW", "STENCIL_CHECK_CANCELLATION",
    "STENCIL_KEYWORD_BOUNDARY"]

def readEnvironment : IO (List (String × String)) :=
  settingNames.filterMapM fun name => do
    return (← IO.getEnv name).map fun text => (name, text)

/-- The contents of the files that can be read. -/
def readFiles (paths : List String) : IO (List (String × ByteArray)) :=
  paths.filterMapM fun (path : String) => do
    try
      return some (path, ← IO.FS.readBinFile path)
    catch _ => return none

def finish (outcome : Outcome) : IO UInt32 := do
  match outcome with
  | .printed text =>
      IO.print text
      return 0
  | .help =>
      IO.print usage
      return 0
  | .misuse =>
      IO.eprint usage
      return 2
  | .failed report =>
      IO.eprint report
      return 1

end Templating

def main (arguments : List String) : IO UInt32 := do
  let invocation := Templating.CommandLine.read arguments
  let files ← Templating.readFiles invocation.paths
  let environment ← Templating.readEnvironment
  Templating.finish (Templating.Program.run (fun path => files.lookup path) environment invocation)
