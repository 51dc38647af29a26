import SiteRuntime.Config.Basic
import SiteRuntime.Module.Backend
import SiteRuntime.System.Error
import SiteRuntime.System.Partition

/-!
# Systems

A `System` is what the runtime needs to know of the selected system: its partitions, what to load
before any environment, and its module system. It is read off the configuration option by option,
so sticky options count.
-/

namespace SiteRuntime

/-- A target system over machines with a store of type `μ`. -/
structure System (μ : Type) where
  /-- The name of the system. -/
  name : String
  /-- A description. -/
  descr : String
  /-- Patterns for the names of its hosts. -/
  hostnames : List String
  /-- The partitions in order. -/
  partitions : List Partition
  /-- What is loaded before any environment. -/
  preload : Environment
  /-- The module system. -/
  backend : Backend μ

namespace System

variable {μ : Type}

/-- The option of the selected system with a name. -/
def optionPath (name : String) : String := s!"systems/0/{name}"

/-- The name of the module system in a configuration. -/
def backendName (c : SiteConfig) : Except ConfigError String :=
  (c.getText (optionPath "modules_system")).map fun name => name.getD "nomod"

/-- The system that a configuration describes; `backendNamed` sets up its module system. -/
def ofConfig (backendNamed : String → Except ModuleError (Backend μ)) (c : SiteConfig) :
    Except SystemError (System μ) := do
  let some name ← (c.getText (optionPath "name")).mapError .config
    | throw (.config (.optionNotFound (optionPath "name")))
  let descr ← (c.getText (optionPath "descr")).mapError .config
  let hostnames ← (c.getTexts (optionPath "hostnames")).mapError .config
  let backend ← (backendName c).mapError .config
  let backend ← (backendNamed backend).mapError .modules
  let modules ← (c.getTexts (optionPath "modules")).mapError .config
  let assignments ← (c.getPairs (optionPath "variables")).mapError .config
  let partitions ← (c.get (optionPath "partitions")).mapError .config
  let partitions ← (Partition.listOfJson partitions).mapError (.invalidPartition name)
  return {
    name, hostnames, partitions, backend
    descr := descr.getD ""
    preload := ⟨s!"_hpcrt_preload_{name}", modules, assignments⟩ }

/-! ### Partitions of a system -/

/-- The name of a partition together with the name of the system. -/
def fullName (s : System μ) (p : Partition) : String := s!"{s.name}:{p.name}"

/-- The environment that every job on a partition needs. -/
def localEnvironment (s : System μ) (p : Partition) : Environment :=
  ⟨s!"_hpcrt_part_{s.name}_{p.name}", p.modules, p.assignments⟩

/-- The first partition with a name, with or without the name of the system before it. -/
def partition? (s : System μ) (name : String) : Option Partition :=
  s.partitions.find? fun p => p.name = name || s.fullName p = name

/-! ### Description -/

/-- A partition as the description lists it. -/
def partitionText (s : System μ) (p : Partition) : String :=
  let environs := ", ".intercalate p.environs
  s!"\n    {s.fullName p} (scheduler: {p.scheduler}, launcher: {p.launcher}, environs: {environs})"

/-- The description of a system for people. -/
def text (s : System μ) : String :=
  let descr := if s.descr.isEmpty then "" else s!"  Description:    {s.descr}\n"
  let hostnames := ", ".intercalate s.hostnames
  let version := match s.backend.version with
    | some version => " " ++ version
    | none => ""
  let partitions :=
    if s.partitions.isEmpty then " none" else String.join (s.partitions.map s.partitionText)
  s!"System: {s.name}\n{descr}  Hostnames:      {hostnames}\n" ++
    s!"  Modules system: {s.backend.name}{version}\n  Partitions:{partitions}"

end System

end SiteRuntime
