import SiteRuntime.CommandLine.Invocation
import SiteRuntime.Job.Basic
import SiteRuntime.Json.Printer
import SiteRuntime.Runtime.Guard

/-!
# The console

A command of the program works on the runtime and prints: what it is asked for on standard output,
how it gets on as messages. A failure is a list of texts, from what was being done to what caused
it.
-/

namespace SiteRuntime.CommandLine

/-- What the surroundings provide to the program. -/
structure Surroundings (μ : Type) where
  /-- The host. -/
  host : Host μ
  /-- What jobs do. -/
  spawn : Spawner μ
  /-- The time that is shown for a job that ran for so many milliseconds. -/
  clock : Nat → Nat

/-- The runtime and what has been printed. -/
structure Console (μ : Type) where
  /-- The runtime. -/
  runtime : Runtime μ
  /-- What was printed. -/
  stdout : String
  /-- The messages. -/
  stderr : String

/-- Why a command failed: texts from the outermost to the innermost. -/
abbrev Trouble := List String

namespace Console

variable {μ : Type}

/-- An operation of a command. -/
abbrev M (μ α : Type) := EStateM Trouble (Console μ) α

/-- A console before anything is printed. -/
def onMachine (m : Machine μ) : Console μ := ⟨.onMachine m, "", ""⟩

/-- The console with another runtime. -/
def withRuntime (c : Console μ) (runtime : Runtime μ) : Console μ := { c with runtime }

/-- The console with other files. -/
def withFiles (c : Console μ) (files : FileTree) : Console μ :=
  c.withRuntime { c.runtime with machine := { c.runtime.machine with files } }

/-! ### Printing -/

/-- Prints a line. -/
def printLine (line : String) : M μ Unit :=
  modify fun c => { c with stdout := c.stdout ++ line ++ "\n" }

/-- Prints a labelled value. -/
def printStat (label value : String) : M μ Unit := printLine s!"  {label}: {value}"

/-- Prints a JSON value. -/
def printJson (v : Json) : M μ Unit := printLine v.pretty

/-- What a message is about. -/
inductive Tone where
  | success
  | error
  | warning
  | info
  deriving DecidableEq, Repr

/-- The sign of a message. -/
def Tone.sign : Tone → String
  | .success => "✓"
  | .error => "✗"
  | .warning => "⚠"
  | .info => "•"

/-- Prints a message. -/
def say (tone : Tone) (text : String) : M μ Unit :=
  modify fun c => { c with stderr := c.stderr ++ s!"{tone.sign} {text}\n" }

/-- The text of a failure. -/
def troubleText (t : Trouble) : String := ": ".intercalate t

/-! ### Working -/

/-- An operation that is named when it fails. -/
def during {α : Type} (what : String) (op : M μ α) : M μ α :=
  EStateM.adaptExcept (what :: ·) op

/-- An operation of the runtime. -/
def onRuntime {α : Type} (op : Runtime.Op μ α) : M μ α := fun c =>
  match op c.runtime with
  | .ok x rt => .ok x (c.withRuntime rt)
  | .error e rt => .error e.trail (c.withRuntime rt)

/-- A question to the configuration. -/
def asking {α : Type} : Except ConfigError α → M μ α
  | .ok x => pure x
  | .error e => throw e.trail

/-- The machine. -/
def machine : M μ (Machine μ) := return (← get).runtime.machine

/-- The current context with its run. -/
def running : M μ (Running μ) := onRuntime Runtime.running

/-- The files changed by an edit. -/
def editing {α : Type} (edit : Machine μ → Except OsError (α × FileTree)) : M μ α := fun c =>
  match edit c.runtime.machine with
  | .ok (x, files) => .ok x (c.withFiles files)
  | .error e => .error [e.message] c

/-- Writes a file. -/
def writeFile (path : Path) (content : Bytes) : M μ Unit :=
  editing fun m => (m.files.write m.cwd path content).map fun files => ((), files)

/-- Copies a file. -/
def copyFile (source target : Path) : M μ Unit :=
  editing fun m => (m.files.copy m.cwd source target).map fun files => ((), files)

end Console

end SiteRuntime.CommandLine
