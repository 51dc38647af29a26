import SiteRuntime.Lmod.Report
import SiteRuntime.Lmod.Statement
import SiteRuntime.Module.Backend

/-!
# Lmod

Lmod keeps its state in variables (`LOADEDMODULES`, `MODULEPATH` and others) and is driven through
a program: called as `lmod sh COMMAND ARGUMENTS`, it prints shell statements that bring the change
about. What the program does is a parameter here, `Lmod.Program`: it sees the machine and its
arguments, and its output is all it says. A call either fails and changes nothing or has all of its
statements applied.
-/

namespace SiteRuntime.Lmod

/-- What a program that has ended left behind. -/
structure Output where
  /-- Whether it reported success. -/
  succeeded : Bool
  /-- What it printed. -/
  stdout : Bytes
  /-- What it printed as messages. -/
  stderr : Bytes
  deriving DecidableEq, Repr

/-- A program by what its calls return; one that cannot be started fails. -/
abbrev Program (μ : Type) := Machine μ → List String → Except OsError Output

/-- The name of this module system. -/
def backendName : String := "lmod"

/-- The entries of a variable that holds a list between colons; one that is not text has none. -/
def pathEntries (e : ProcessEnv) (name : String) : List String :=
  match e.text? name with
  | some value => (Text.fields ':' value.toList).map String.ofList
  | none => []

end Lmod

/-- Lmod behind a program. -/
structure Lmod (μ : Type) where
  /-- The command as it is called. -/
  command : Bytes
  /-- The version the command reported. -/
  version : String
  /-- What the command does. -/
  program : Lmod.Program μ

namespace Lmod

variable {μ : Type}

/-- The command asked for its version. -/
def connect (command : Bytes) (program : Program μ) (m : Machine μ) :
    Except ModuleError (Lmod μ) :=
  let shown := Bytes.lossy command
  match program m ["--version"] with
  | .error cause => .error (.spawn s!"{shown} --version" cause)
  | .ok out =>
    match version? (Bytes.lossy out.stderr ++ Bytes.lossy out.stdout).toList with
    | some version => .ok ⟨command, String.ofList version, program⟩
    | none =>
      .error (.unavailable backendName s!"could not determine Lmod version from {shown}")

/-- The command line of a call, for messages. -/
def commandLine (l : Lmod μ) (args : List String) : String :=
  Bytes.lossy l.command ++ " sh " ++ " ".intercalate args

/-- A call of the command: what it printed, or why it failed. A call that mentions an error has
failed whatever it reports. -/
def call (l : Lmod μ) (args : List String) (m : Machine μ) :
    Except ModuleError (String × String) :=
  match l.program m ("sh" :: args) with
  | .error cause => .error (.spawn (l.commandLine args) cause)
  | .ok out =>
    let stderr := Bytes.lossy out.stderr
    if !out.succeeded || mentionsError stderr.toList then
      .error (.command (l.commandLine args) (String.ofList (Text.trim stderr.toList)))
    else .ok (Bytes.lossy out.stdout, stderr)

/-- The writes that an output asks for. -/
def writesOf (stdout : String) : List Write :=
  (Statement.readAll stdout.toList).flatMap Statement.writes

/-- A call whose statements are applied. -/
def execute (l : Lmod μ) (args : List String) : Action μ ModuleError Unit := fun m =>
  match l.call args m with
  | .error e => .error e m
  | .ok (stdout, _) => .ok () (m.write (writesOf stdout))

/-- The conflicts that the command shows for a module. -/
def conflictsOf (l : Lmod μ) (name : String) : Action μ ModuleError (List String) := fun m =>
  match l.call ["show", name] m with
  | .error e => .error e m
  | .ok (_, stderr) => .ok (conflictsIn stderr.toList) m

/-- A call on a list of paths; an empty list needs none. -/
def executeOn (l : Lmod μ) (command : String) (paths : List String) : Action μ ModuleError Unit :=
  if paths.isEmpty then pure () else l.execute (command :: paths)

/-- Lmod as a module system. -/
def backend (l : Lmod μ) : Backend μ where
  name := backendName
  version := some l.version
  loaded := fun m => pathEntries m.env "LOADEDMODULES"
  conflicts := l.conflictsOf
  load := fun name => l.execute ["load", name]
  unload := fun name => l.execute ["unload", name]
  loadCommands := fun name => [s!"module load {name}"]
  unloadCommands := fun name => [s!"module unload {name}"]
  searchPath := fun m => pathEntries m.env "MODULEPATH"
  addPaths := l.executeOn "use"
  removePaths := l.executeOn "unuse"
  isLoaded := fun m name => Backend.reportsLoaded (pathEntries m.env "LOADEDMODULES") name

end Lmod

/-- The module system that a configuration names. Lmod is found through `LMOD_CMD`; `lmodAt` is the
program behind a command. -/
def Backend.ofName {μ : Type} (lmodAt : Bytes → Lmod.Program μ) (name : String) (m : Machine μ) :
    Except ModuleError (Backend μ) :=
  match name with
  | "nomod" => .ok .noModules
  | "lmod" =>
    match m.env.value? (Bytes.ofText "LMOD_CMD") with
    | some command => (Lmod.connect command (lmodAt command) m).map Lmod.backend
    | none => .error (.unavailable Lmod.backendName "LMOD_CMD is not set")
  | other => .error (.unknownBackend other)

end SiteRuntime
