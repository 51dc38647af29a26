import SiteRuntime.Runtime.Guard
import SiteRuntime.Session.Step

/-!
# Answers of a session

What each step answers: a value or why it failed, and which variables of the process it changed.
-/

namespace SiteRuntime.Session

/-- The state of the module systems in memory, by name. -/
abbrev Store := SortedMap String InMemory

/-! ### Failures -/

/-- Why a step failed. -/
inductive Failure where
  | noGuard
  | noSnapshot
  | noBackend (name : String)
  | noPartition (name : String)
  | config (cause : ConfigError)
  | system (cause : SystemError)
  | modules (cause : ModuleError)
  | runtime (cause : RuntimeError)
  | files (cause : OsError)
  deriving DecidableEq, Repr

/-- The text of a failure. -/
def Failure.message : Failure → String
  | .noGuard => "no guard to drop"
  | .noSnapshot => "no such snapshot"
  | .noBackend name => s!"no modules system '{name}'"
  | .noPartition name => name
  | .config cause => cause.message
  | .system cause => cause.message
  | .modules cause => cause.message
  | .runtime cause => cause.message
  | .files cause => cause.message

/-! ### Values -/

/-- All that the current context says of itself. -/
structure Report where
  /-- The name of the system. -/
  system : String
  /-- The number of the run. -/
  run : Nat
  /-- The prefix of the installation. -/
  prefixPath : Except ConfigError Path
  /-- The configured stage directory. -/
  stage : Except ConfigError (Option Path)
  /-- The configured output directory. -/
  output : Except ConfigError (Option Path)
  /-- The configured directory of performance logs. -/
  perflog : Except ConfigError (Option Path)
  /-- Where stage directories lie. -/
  stagePrefix : Except ConfigError Path
  /-- Where output directories lie. -/
  outputPrefix : Except ConfigError Path
  /-- Where performance logs lie. -/
  perflogPrefix : Except ConfigError Path
  /-- The start of the work. -/
  timestamp : Except ConfigError String

/-- How the body of a scope ended. -/
inductive Ended where
  | ok
  | failed (cause : RuntimeError)
  | abrupt
  deriving DecidableEq, Repr

/-- The variables that a step changed, each with its new value. -/
abbrev Changes := List (Bytes × Option Bytes)

mutual

/-- What a step answers. -/
inductive Value where
  | json (value : Json)
  | processEnv (env : ProcessEnv)
  | image (size : Nat) (isEmpty : Bool) (value : Option Bytes)
  | diff (d : Snapshot.Diff)
  /-- A context by its system and its run. -/
  | brief (system : String) (run : Nat)
  | entered (environment : Environment) (commands : List String)
  | loaded (commands : List String) (snapshot : Nat)
  | backend (name : String) (version : Option String) (command : Option Bytes)
  | report (r : Report)
  | paths (stage output : Except ConfigError Path)
  | system (s : System Store)
  | environment (e : Environment)
  | removed (value : Json)
  | within (answers : List Answer) (ended : Ended)
  | calls (results : List (Except RuntimeError Json))

/-- The answer to a step. -/
inductive Answer where
  | done (value : Value) (changes : Changes)
  | failed (cause : Failure) (changes : Changes)

end

namespace Value

/-- The value of a step that only does something. -/
def nothing : Value := .json .null

/-- A text as a value. -/
def text (s : String) : Value := .json (.string s)

/-- A list of texts as a value. -/
def texts (l : List String) : Value := .json (.ofStrings l)

/-- A truth value. -/
def flag (b : Bool) : Value := .json (.bool b)

/-- A number as a value. -/
def number (n : Nat) : Value := .json (.ofNat n)

/-- A text that may be absent. -/
def text? : Option String → Value
  | some s => text s
  | none => nothing

/-- A path as a value. -/
def path (p : Path) : Value := text p.text

end Value

/-! ### Changes -/

/-- The variables that differ between two environments, with their values in the later one. -/
def changes (before after : ProcessEnv) : Changes :=
  let gone := (before.names.filter fun n => (after.value? n).isNone).map fun n => (n, none)
  let written := (after.toList.filter fun x => before.value? x.1 ≠ some x.2).map fun x =>
    (x.1, some x.2)
  gone ++ written

end SiteRuntime.Session
