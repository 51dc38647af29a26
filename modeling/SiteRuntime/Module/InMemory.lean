import SiteRuntime.Module.Backend
import SiteRuntime.SortedMap

/-!
# A module system in memory

A module system that keeps the loaded modules and the search path in the store of the machine,
declares given conflicts, and does not find given modules. It stands in for a real one where only
the handling of modules matters.
-/

namespace SiteRuntime

/-- The state of a module system in memory. -/
structure InMemory where
  /-- The loaded modules in the order of their loading. -/
  loaded : List String
  /-- The search path. -/
  paths : List String
  deriving DecidableEq, Repr

namespace InMemory

/-- What one module system in memory is made with. -/
structure Setup where
  /-- The conflicts declared for each module. -/
  conflicts : SortedMap String (List String)
  /-- Modules that cannot be loaded. -/
  missing : List String

/-- The commands that load and unload a module by name. -/
def loadCommand (name : String) : String := s!"module load {name}"

/-- The command that unloads a module. -/
def unloadCommand (name : String) : String := s!"module unload {name}"

/-- A module system over the part of the store that `get` reads and `put` replaces. -/
def backend {μ : Type} (read : μ → InMemory) (put : InMemory → μ → μ) (s : Setup) :
    Backend μ where
  name := "memory"
  version := none
  loaded := fun m => (read m.store).loaded
  conflicts := fun name => pure ((s.conflicts.get? name).getD [])
  load := fun name m =>
    if s.missing.contains name then
      .error (.command (loadCommand name) s!"module '{name}' not found") m
    else
      let d := read m.store
      .ok () { m with store := put { d with loaded := d.loaded ++ [name] } m.store }
  unload := fun name m =>
    let d := read m.store
    .ok () { m with store := put { d with loaded := d.loaded.filter (· ≠ name) } m.store }
  loadCommands := fun name => [loadCommand name]
  unloadCommands := fun name => [unloadCommand name]
  searchPath := fun m => (read m.store).paths
  addPaths := fun paths m =>
    let d := read m.store
    .ok () { m with store := put { d with paths := paths ++ d.paths } m.store }
  removePaths := fun paths m =>
    let d := read m.store
    let left := d.paths.filter fun p => !paths.contains p
    .ok () { m with store := put { d with paths := left } m.store }
  isLoaded := fun m name => Backend.reportsLoaded (read m.store).loaded name

end InMemory

end SiteRuntime
