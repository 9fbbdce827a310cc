import Templating.Text.Search

/-!
# The command line

Two commands: `render` prints a template, `resolve` a file of variables. Options stand before or
after the command; two dashes end them. An option may be given once on each side of the command.
-/

namespace Templating

inductive OutputFormat where
  | json
  | yaml
  deriving DecidableEq

inductive Command where
  | render (template : String) (path? : Option String)
  | resolve (path : String) (output : OutputFormat)
  deriving DecidableEq

/-- What the arguments ask for. -/
inductive Invocation where
  | run (settings? : Option String) (command : Command)
  | help
  | version
  | misuse
  deriving DecidableEq

/-- The files that an invocation reads. -/
def Invocation.paths : Invocation → List String
  | run settings? (.render _ path?) => settings?.toList ++ path?.toList
  | run settings? (.resolve path _) => settings?.toList ++ [path]
  | _ => []

namespace CommandLine

/-- The options that a value follows. -/
inductive ValueOption where
  | config
  | vars
  | output
  deriving DecidableEq

/-- The places where options stand: before the command, and after each of the commands. -/
inductive Place where
  | outside
  | render
  | resolve
  deriving DecidableEq

/-- The options that are known at a place. -/
def valueOption? (place : Place) (name : String) : Option ValueOption :=
  match place, name with
  | _, "config" => some .config
  | .render, "vars" => some .vars
  | .resolve, "vars" => some .vars
  | .resolve, "output" => some .output
  | _, _ => none

/-- What was read at one place. -/
structure Reading where
  config : Option String := none
  vars : Option String := none
  output : Option OutputFormat := none
  verbose : Bool := false
  template : Option String := none

def outputFormat? (text : String) : Option OutputFormat :=
  if text = "json" then some .json else if text = "yaml" then some .yaml else none

/-- Sets an option that was not set before; paths are not empty. -/
def Reading.set? (reading : Reading) (option : ValueOption) (value : String) : Option Reading :=
  match option with
  | .config =>
      if reading.config.isSome || value.isEmpty then none
      else some { reading with config := some value }
  | .vars =>
      if reading.vars.isSome || value.isEmpty then none
      else some { reading with vars := some value }
  | .output =>
      if reading.output.isSome then none
      else (outputFormat? value).map fun output => { reading with output := some output }

/-- Arguments that start with a dash are options, a dash alone is not. -/
def isOption (argument : String) : Bool :=
  match argument.toList with
  | '-' :: _ :: _ => true
  | _ => false

/-- How reading at a place ends. -/
inductive Ending where
  /-- The first argument that is no option, before the command. -/
  | command (name : String) (rest : List String)
  | finished
  | help
  | version
  | misuse

/-- Letters after one dash: help, version and verbosity. -/
def letters (place : Place) (reading : Reading) : List Char → Reading ⊕ Ending
  | [] => .inl reading
  | letter :: rest =>
      if letter = 'v' then
        if reading.verbose then .inr .misuse
        else letters place { reading with verbose := true } rest
      else if letter = 'h' then .inr .help
      else if letter = 'V' && place = .outside then .inr .version
      else .inr .misuse

/-- A long option without a value. -/
def longFlag (place : Place) (reading : Reading) (name : String) : Reading ⊕ Ending :=
  if name = "verbose" then
    if reading.verbose then .inr .misuse else .inl { reading with verbose := true }
  else if name = "help" then .inr .help
  else if name = "version" && place = .outside then .inr .version
  else .inr .misuse

/-- The one argument of `render` that is no option. -/
def positional? (place : Place) (reading : Reading) (argument : String) : Option Reading :=
  if place = .render && reading.template.isNone then some { reading with template := some argument }
  else none

/-- All arguments after two dashes are taken as they are. -/
def positionals? (place : Place) (reading : Reading) : List String → Option Reading
  | [] => some reading
  | argument :: rest => (positional? place reading argument).bind fun reading =>
      positionals? place reading rest

/-- Reads the arguments of one place. -/
def readPlace (place : Place) (reading : Reading) : List String → Reading × Ending
  | [] => (reading, .finished)
  | argument :: rest =>
      if argument = "--" then
        match positionals? place reading rest with
        | some reading => (reading, .finished)
        | none => (reading, .misuse)
      else
        match argument.toList with
        | '-' :: '-' :: long =>
            let named := Text.cut? ['='] long
            let name := String.ofList ((named.map Prod.fst).getD long)
            match valueOption? place name, named.map Prod.snd with
            | some option, some value =>
                match reading.set? option (String.ofList value) with
                | some reading => readPlace place reading rest
                | none => (reading, .misuse)
            | some option, none =>
                match rest with
                | [] => (reading, .misuse)
                | value :: rest =>
                    if isOption value then (reading, .misuse)
                    else
                      match reading.set? option value with
                      | some reading => readPlace place reading rest
                      | none => (reading, .misuse)
            | none, some _ => (reading, .misuse)
            | none, none =>
                match longFlag place reading name with
                | .inl reading => readPlace place reading rest
                | .inr ending => (reading, ending)
        | '-' :: first :: others =>
            match letters place reading (first :: others) with
            | .inl reading => readPlace place reading rest
            | .inr ending => (reading, ending)
        | _ =>
            if place = .outside then (reading, .command argument rest)
            else
              match positional? place reading argument with
              | some reading => readPlace place reading rest
              | none => (reading, .misuse)

/-- The command that a reading after its name stands for. -/
def command? (place : Place) (reading : Reading) : Option Command :=
  match place with
  | .outside => none
  | .render => reading.template.map fun template => .render template reading.vars
  | .resolve => reading.vars.map fun path => .resolve path (reading.output.getD .json)

/-- Reads the arguments after the name of a command. Options of both sides count; a settings file
named after the command wins. -/
def readCommand (outer : Reading) (place : Place) (arguments : List String) : Invocation :=
  match readPlace place {} arguments with
  | (reading, .finished) =>
      match command? place reading with
      | some command => .run (reading.config <|> outer.config) command
      | none => .misuse
  | (_, .help) => .help
  | _ => .misuse

/-- Whether the arguments after `help` name a command, or nothing. -/
def isHelpTopic : List String → Bool
  | [] => true
  | [name] => name = "render" || name = "resolve" || name = "help"
  | _ => false

/-- What the arguments ask for. -/
def read (arguments : List String) : Invocation :=
  match readPlace .outside {} arguments with
  | (outer, .command "render" rest) => readCommand outer .render rest
  | (outer, .command "resolve" rest) => readCommand outer .resolve rest
  | (_, .command "help" rest) => if isHelpTopic rest then .help else .misuse
  | (_, .help) => .help
  | (_, .version) => .version
  | _ => .misuse

end CommandLine

end Templating
