import SiteRuntime.Json.Basic
import SiteRuntime.Lmod.Scripted
import SiteRuntime.Module.InMemory
import SiteRuntime.Environment
import SiteRuntime.Timestamp.Calendar

/-!
# Steps of a session

A session is a list of steps that use the runtime one after the other: changes of the process,
scopes entered and left, environments activated, module systems called. A step may hold steps of
its own.
-/

namespace SiteRuntime.Session

/-! ### Configurations -/

/-- Where a configuration comes from. -/
inductive ConfigSource where
  | file (path : Path)
  | document (value : Json)
  | generic

/-- How a configuration is narrowed first. -/
inductive Narrowing where
  /-- Not at all. -/
  | none
  /-- To the system of the host. -/
  | forHost
  /-- To a system or a partition. -/
  | to (selection : String)

/-- A configuration by how it is made. -/
structure ConfigPlan where
  /-- Where it comes from. -/
  source : ConfigSource
  /-- How it is narrowed. -/
  narrowing : Narrowing
  /-- The host for which it is narrowed again. -/
  host : Option String
  /-- The options that are made sticky, in order. -/
  options : List (String × Json)

/-! ### Environments and module systems -/

/-- An environment by where it comes from. -/
inductive EnvironmentRef where
  | given (environment : Environment)
  /-- An environment of the current configuration. -/
  | configured (name : String)
  /-- What the current system loads before any environment. -/
  | preload
  /-- What every job on a partition of the current system needs. -/
  | partition (name : String)

/-- A module system by how it is made. -/
inductive BackendPlan where
  | inMemory (loaded : List String) (setup : InMemory.Setup)
  | lmod (command : Bytes)
  | named (name : String)

/-- A call of a module system. -/
inductive ModuleCall where
  | loadModule (name : String) (force : Bool)
  | load (name : String)
  | unload (name : String)
  | isLoaded (name : String)
  | loaded
  | conflicts (name : String)
  | loadCommands (name : String)
  | unloadCommands (name : String)
  | searchPath
  | addPaths (paths : List String)
  | removePaths (paths : List String)

/-! ### Steps -/

/-- How the body of a scope ends. -/
inductive Ending where
  | ok
  /-- With the failure to find an option that no site sets. -/
  | failure
  /-- Abruptly, without a result. -/
  | abrupt

/-- What is done in one call of a function that switches the runtime: runs are counted up, and then
an option or else a stage directory is asked for. -/
structure SwitchedCall where
  /-- The number of runs to count up. -/
  runs : Nat
  /-- The option to ask for. -/
  option : Option String
  /-- The segments of the stage directory to ask for. -/
  segments : List String

/-- A step of a session. -/
inductive Step where
  | set (name value : Bytes)
  | unset (name : Bytes)
  | processEnv
  | expand (input : String)
  | capture
  | restore (snapshot : Nat)
  | image (snapshot : Nat) (name : Bytes)
  | diff (older newer : Nat)
  | write (path : Path) (content : Bytes)
  | tree
  | makeDirectory (path : Path) (wipe : Bool)
  | removeDirectory (path : Path)
  | init (config : ConfigPlan)
  | pushRuntime (config : Option ConfigPlan) (start : Option Moment)
  | pushFile (path : Option Path) (system : Option String) (options : List (String × Json))
  | pushEnvironment (backend : Option String) (modules : List String)
      (assignments : List (String × String))
  | pushPaths (paths : List String)
  /-- Drops the newest guard, or the one at a place counted from the oldest. -/
  | pop (place : Option Nat)
  | within (config : Option ConfigPlan) (steps : List Step) (ending : Ending)
  | switch (config : Option ConfigPlan) (calls : List SwitchedCall)
  | report
  | timestamp
  | describe
  | system
  | option (path : String)
  | nextRuns (n : Nat)
  | paths (segments : List String)
  | makeStage (segments : List String) (wipe : Bool)
  | makeOutput (segments : List String) (wipe : Bool)
  | load (environments : List EnvironmentRef) (backend : Option String)
  | emit (environments : List EnvironmentRef) (backend : Option String)
  | isLoaded (environments : List EnvironmentRef) (backend : Option String)
  | newBackend (name : String) (plan : BackendPlan)
  | call (backend : Option String) (call : ModuleCall)

/-- A step on a configuration alone. -/
inductive ConfigStep where
  /-- Narrows to a system, or to the system of the host. -/
  | select (selection : Option String)
  | selectForHost (host : String)
  | systemName
  | source
  | get (path : String)
  | getText (path : String)
  | getTexts (path : String)
  | add (path : String) (value : Json)
  | remove (path : String)
  | environmentNames
  | environment (name : String)
  | system
  | partition (name : String)

end SiteRuntime.Session
