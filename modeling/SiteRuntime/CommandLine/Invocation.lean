import SiteRuntime.CommandLine.Duration
import SiteRuntime.CommandLine.Number
import SiteRuntime.CommandLine.Options
import SiteRuntime.Json.Reader
import SiteRuntime.Path

/-!
# Invocations

What the arguments of the program ask for: one of its commands, with options that all commands
share. The shared options may stand before and after the name of the command; those after it count.
-/

namespace SiteRuntime.CommandLine

/-- The options that all commands share. -/
structure Globals where
  /-- Whether output is JSON. -/
  json : Bool
  /-- The configuration file. -/
  configFile : Option Path
  /-- The system to use. -/
  system : Option String
  /-- Options to override. -/
  options : List (String × Json)

/-- How a command is run as a job. -/
structure RunPlan where
  /-- The names of the environments to activate. -/
  environments : List String
  /-- The partition to run on. -/
  partition : Option String
  /-- The name of the job. -/
  name : String
  /-- How often a failed job is tried again. -/
  retries : Nat
  /-- The time limit of each attempt. -/
  limit : Option Duration
  /-- The command and its arguments. -/
  command : List String

/-- A command of the program. -/
inductive Command where
  /-- Shows the system. -/
  | info
  /-- Shows the directories of a run, and perhaps makes them. -/
  | dirs (segments : List String) (run : Nat) (create keep : Bool)
  /-- Shows the commands that activate environments. -/
  | env (names : List String) (partition : Option String)
  /-- Runs a job. -/
  | run (plan : RunPlan)

/-- What the arguments ask for. -/
inductive Request where
  | version
  | help
  | command (globals : Globals) (command : Command)

/-! ### Options -/

/-- A value that is taken as it is. -/
def anyValue (_ : String) : Except Stop Unit := .ok ()

/-- The option of a configuration file. -/
def configOption : OptionSpec :=
  let shown := "--config-file <CONFIG_FILE>"
  { long := "config-file", short := some 'C', form := .single, placeholder := "CONFIG_FILE"
    check := fun value => if value.isEmpty then .error (.fault (.missingValue shown)) else .ok () }

/-- The option of the output format. -/
def formatOption : OptionSpec :=
  let shown := "--format <FORMAT>"
  { long := "format", short := none, form := .single, placeholder := "FORMAT"
    check := fun value =>
      if value = "text" || value = "json" then .ok ()
      else if value.isEmpty then .error (.fault (.missingValue shown))
      else .error (.fault (.notAllowed value shown)) }

/-- A setting `key=value`. A value that is JSON keeps its type, any other is a string. -/
def readSetting (s : String) : Except String (String × Json) :=
  match Text.splitOnce? '=' s.toList with
  | none => .error s!"invalid option '{s}': expected key=value"
  | some ([], _) => .error s!"invalid option '{s}': empty key"
  | some (key, value) =>
    let value := String.ofList value
    .ok (String.ofList key, (Json.read? value).getD (.string value))

/-- The check of a value that has to be read. -/
def reading {ε α : Type} (shown : String) (message : ε → String) (read : String → Except ε α)
    (value : String) : Except Stop Unit :=
  match read value with
  | .ok _ => .ok ()
  | .error e => .error (.fault (.invalidValue value shown (message e)))

/-- The option that overrides an option of the configuration. -/
def settingOption : OptionSpec where
  long := "option"
  short := some 'o'
  form := .list
  placeholder := "OPTIONS"
  check := reading "--option <OPTIONS>" id readSetting

/-- The options that all commands share. -/
def sharedOptions : List OptionSpec :=
  [{ long := "verbose", short := some 'v', form := .counted, placeholder := "", check := anyValue },
    formatOption, configOption,
    { long := "system", short := some 's', form := .single, placeholder := "SYSTEM"
      check := anyValue },
    settingOption,
    { long := "help", short := some 'h', form := .flag, placeholder := ""
      check := fun _ => .error .help }]

/-- The option that asks for the version. -/
def versionOption : OptionSpec where
  long := "version"
  short := some 'V'
  form := .flag
  placeholder := ""
  check := fun _ => .error .version

/-- An option without a value. -/
def flagOption (long : String) : OptionSpec where
  long := long
  short := none
  form := .flag
  placeholder := ""
  check := anyValue

/-- The option of a partition. -/
def partitionOption : OptionSpec where
  long := "partition"
  short := some 'p'
  form := .single
  placeholder := "PARTITION"
  check := anyValue

/-- The options of the command that shows directories. -/
def dirsOptions : List OptionSpec :=
  [{ long := "run", short := none, form := .single, placeholder := "RUN"
     check := reading "--run <RUN>" NumberError.message readCount },
    flagOption "create", flagOption "keep"]

/-- The options of the command that runs a job. -/
def runOptions : List OptionSpec :=
  [{ long := "env", short := some 'e', form := .list, placeholder := "ENVIRONMENTS"
     check := anyValue },
    partitionOption,
    { long := "name", short := some 'n', form := .single, placeholder := "NAME"
      check := anyValue },
    { long := "retries", short := none, form := .single, placeholder := "RETRIES"
      check := reading "--retries <RETRIES>" NumberError.message readRetries },
    { long := "timeout", short := none, form := .single, placeholder := "TIMEOUT"
      check := reading "--timeout <TIMEOUT>" Duration.ReadError.message Duration.read }]

/-- The command that shows help. -/
def helpCommand : String := "help"

/-- The commands of the program. -/
def commandNames : List String := ["info", "dirs", "env", "run", helpCommand]

/-- The arguments before the name of a command. -/
def topGrammar : Grammar := ⟨sharedOptions ++ [versionOption], .commands, commandNames⟩

/-- The arguments after the name of a command. -/
def grammarOf (command : String) : Grammar :=
  match command with
  | "dirs" => ⟨sharedOptions ++ dirsOptions, .any, []⟩
  | "env" => ⟨sharedOptions ++ [partitionOption], .any, []⟩
  | "run" => ⟨sharedOptions ++ runOptions, .afterDashes, []⟩
  | _ => ⟨sharedOptions, .none, []⟩

/-! ### Reading -/

/-- The variable that names the configuration file. -/
def configFileVariable : String := "HPCRT_CONFIG_FILE"

/-- Takes what is pending at the end of a level. A configuration file may come from a variable,
which then has to be as right as a value of the option. -/
def closing (fromVariable : Option String) (s : Pass) : Except Stop Parsed := do
  let p ← s.parsed.settle s.pending
  match fromVariable with
  | some value => if !p.has configOption.long then configOption.check value
  | none => pure ()
  return p

/-- Whether the required arguments of a command are there. -/
def isComplete (command : String) (p : Parsed) : Bool :=
  match command with
  | "dirs" => !p.has "keep" || p.has "create"
  | "env" => !p.words.isEmpty
  | "run" => !p.words.isEmpty
  | _ => true

/-- The arguments after the name of a command. -/
def readInner (fromVariable : Option String) (command : String) (args : List String) :
    Except Stop Parsed := do
  let (s, _) ← readArguments (grammarOf command) args .start
  let p ← closing fromVariable s
  if isComplete command p then return p else throw (.fault .missingArguments)

/-- What is left without a command. -/
def withoutCommand (fromVariable : Option String) (p : Parsed) : Stop :=
  if p.given.isEmpty && fromVariable.isNone then .fault .nothingGiven else .fault .noCommand

/-- Help on a command. No command has commands of its own. -/
def readHelp : List String → Stop
  | [] => .help
  | name :: rest =>
    match if commandNames.contains name then rest.head? else some name with
    | none => .help
    | some unknown => .fault (.unknownCommand unknown)

/-- The options that all commands share, from before and after the name of the command. -/
def globalsOf (fromVariable : Option String) (outer inner : Parsed) : Globals :=
  let value? := fun long => inner.valueOf? long <|> outer.valueOf? long
  let settings := if inner.has "option" then inner else outer
  { json := value? "format" = some "json"
    configFile := (value? "config-file" <|> fromVariable).map .ofText
    system := value? "system"
    options := (settings.valuesOf "option").filterMap fun s => (readSetting s).toOption }

/-- The value of an option that can be read, or a default. -/
def readOr {ε α : Type} (default : α) (read : String → Except ε α) (value : Option String) : α :=
  (value.bind fun s => (read s).toOption).getD default

/-- The command of a name with its arguments. -/
def commandOf (name : String) (p : Parsed) : Command :=
  match name with
  | "dirs" => .dirs p.words (readOr 0 readCount (p.valueOf? "run")) (p.has "create") (p.has "keep")
  | "env" => .env p.words (p.valueOf? "partition")
  | "run" =>
    .run {
      environments := p.valuesOf "env"
      partition := p.valueOf? "partition"
      name := (p.valueOf? "name").getD "job"
      retries := readOr 0 readRetries (p.valueOf? "retries")
      limit := (p.valueOf? "timeout").bind fun s => (Duration.read s).toOption
      command := p.words }
  | _ => .info

/-- What arguments ask for, as far as the reading gets. -/
def readCommand (fromVariable : Option String) (args : List String) : Except Stop Request := do
  let (s, command) ← readArguments topGrammar args .start
  match command with
  | none => throw (withoutCommand fromVariable (← closing fromVariable s))
  | some (name, rest) =>
    if name = helpCommand then throw (readHelp rest)
    let inner ← readInner fromVariable name rest
    let outer ← closing fromVariable s
    return .command (globalsOf fromVariable outer inner) (commandOf name inner)

/-- What arguments ask for; `fromVariable` is the configuration file that the environment names. -/
def Request.read (fromVariable : Option String) (args : List String) : Except UsageError Request :=
  match readCommand fromVariable args with
  | .ok request => .ok request
  | .error .version => .ok .version
  | .error .help => .ok .help
  | .error (.fault e) => .error e

end SiteRuntime.CommandLine
