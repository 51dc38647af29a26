import SiteRuntime.Runtime.Loading

/-!
# Scoped changes

A guard stands for a change that lasts for a scope: another context made current, an environment
activated, directories added to the search path of modules. Entering makes the change and returns
the guard; dropping it takes the change back. Dropping never fails, whatever happened in between,
and what it restores is in the guard itself.
-/

namespace SiteRuntime

/-- A change that lasts for a scope, by what takes it back. -/
inductive Guard (μ : Type) where
  /-- Another context is current. -/
  | runtime (previous : Option Nat)
  /-- An environment is activated. -/
  | environment (before : Snapshot)
  /-- Directories were added to the search path of a module system. -/
  | modules (backend : Backend μ) (paths : List String)

namespace Guard

variable {μ : Type}

open SiteRuntime.Runtime

/-- Takes a change back. -/
def drop (g : Guard μ) (rt : Runtime μ) : Runtime μ :=
  match g with
  | .runtime previous => { rt with current := previous }
  | .environment before => { rt with machine := Activation.restored before rt.machine }
  | .modules backend paths =>
    match backend.removePaths paths rt.machine with
    | .ok _ m => { rt with machine := m }
    | .error _ m => { rt with machine := m }

/-- Takes changes back, newest first. -/
def dropAll (gs : List (Guard μ)) (rt : Runtime μ) : Runtime μ :=
  gs.foldl (fun rt g => g.drop rt) rt

@[simp] theorem current_drop_runtime (previous : Option Nat) (rt : Runtime μ) :
    ((Guard.runtime previous).drop rt).current = previous := rfl

@[simp] theorem env_drop_environment (before : Snapshot) (rt : Runtime μ) :
    ((Guard.environment before).drop rt).machine.env = before.image := by
  simp [drop]

/-- Runs a body in the scope of a guard. Nothing is run if the guard cannot be had; otherwise it is
dropped when the body has ended, whatever the body ended with. -/
def during {α : Type} (enter : Op μ (Guard μ)) (refused : RuntimeError → α)
    (body : StateM (Runtime μ) α) : StateM (Runtime μ) α := fun rt =>
  match enter rt with
  | .ok guard rt =>
    let (x, rt) := body rt
    (x, guard.drop rt)
  | .error e rt => (refused e, rt)

/-! ### Contexts -/

/-- Makes a context current that was built before. -/
def enterAt (place : Nat) : Op μ (Guard μ) := fun rt =>
  if place < rt.contexts.length then .ok (.runtime rt.current) { rt with current := some place }
  else .error .notConfigured rt

/-- Makes a context current, or none. -/
def enter (context : Option (Context μ)) (rt : Runtime μ) : Guard μ × Runtime μ :=
  match context with
  | some c => (.runtime rt.current, rt.install c)
  | none => (.runtime rt.current, { rt with current := none })

/-- Makes the context of a configuration current, or none without one. -/
def switchTo (host : Host μ) (start : Moment) (c : Option SiteConfig) : Op μ (Guard μ) := do
  let context ← c.mapM (build host start)
  modifyGet (enter context)

/-- Either another context is made current, or nothing happens. -/
theorem switchTo_cases (host : Host μ) (start : Moment) (c : Option SiteConfig) (rt : Runtime μ) :
    (∃ context, switchTo host start c rt = .ok (enter context rt).1 (enter context rt).2) ∨
      ∃ e, switchTo host start c rt = .error e rt := by
  cases c with
  | none => exact .inl ⟨none, rfl⟩
  | some c =>
    rcases build_cases host start c rt with ⟨context, h⟩ | ⟨e, h⟩
    · refine .inl ⟨some context, ?_⟩
      have hc : (some c).mapM (build host start) rt = .ok (some context) rt := by
        rw [Option.mapM_some, map_eq_pure_bind, Stateful.bind_of_ok h]
        rfl
      exact Stateful.bind_of_ok hc
    · refine .inr ⟨e, ?_⟩
      have hc : (some c).mapM (build host start) rt = .error e rt := by
        rw [Option.mapM_some, map_eq_pure_bind, Stateful.bind_of_error h]
      exact Stateful.bind_of_error hc

/-- The configuration in a file, narrowed and with sticky options added. -/
def configOfFile (host : Host μ) (rt : Runtime μ) (path : Path) (system : Option String)
    (options : List (String × Json)) : Except ConfigError SiteConfig := do
  let c ← SiteConfig.load rt.machine.files rt.machine.cwd path
  let c ← c.selectFor host.name system
  return options.foldl (fun c o => c.addSticky o.1 o.2) c

/-- Makes the context of a configuration file current, or none without one. -/
def switchToFile (host : Host μ) (path : Option Path) (system : Option String)
    (options : List (String × Json)) : Op μ (Guard μ) := do
  match path with
  | none => switchTo host host.now none
  | some path =>
    let c ← asking (configOfFile host (← get) path system options)
    switchTo host host.now (some c)

theorem switchToFile_cases (host : Host μ) (path : Option Path) (system : Option String)
    (options : List (String × Json)) (rt : Runtime μ) :
    (∃ context, switchToFile host path system options rt =
        .ok (enter context rt).1 (enter context rt).2) ∨
      ∃ e, switchToFile host path system options rt = .error e rt := by
  cases path with
  | none => exact switchTo_cases host host.now none rt
  | some path =>
    cases h : configOfFile host rt path system options with
    | error e =>
      refine .inr ⟨.config e, ?_⟩
      rw [switchToFile, Stateful.get_bind, h]
      rfl
    | ok c =>
      have hs : switchToFile host (some path) system options rt =
          switchTo host host.now (some c) rt := by
        rw [switchToFile, Stateful.get_bind, h]
        rfl
      rw [hs]
      exact switchTo_cases host host.now (some c) rt

/-! ### Environments -/

variable [Account]

/-- The name of an environment that is made for a scope. -/
def scopedName : String := "_hpcrt_temp_env"

/-- An environment activated for a scope. -/
structure Entered (μ : Type) where
  /-- What takes it back. -/
  guard : Guard μ
  /-- The environment. -/
  environment : Environment
  /-- The commands that do the same. -/
  commands : List String

/-- Activates modules and variables with a module system. A failure takes everything back. -/
def activate (b : Backend μ) (modules : List String) (assignments : List (String × String)) :
    Op μ (Entered μ) := fun rt =>
  let environment : Environment := ⟨scopedName, modules, assignments⟩
  let before := Snapshot.capture rt.machine.env
  match Activation.activateAll b [environment] rt.machine with
  | .ok commands m => .ok ⟨.environment before, environment, commands⟩ { rt with machine := m }
  | .error e m => .error e { rt with machine := Activation.restored before m }

/-- An activation for a scope either succeeds and keeps an image of the process environment from
before it, or fails and leaves that environment as it was. -/
theorem activate_cases (b : Backend μ) (modules : List String)
    (assignments : List (String × String)) (rt : Runtime μ) :
    (∃ commands m, activate b modules assignments rt =
        .ok ⟨.environment (.capture rt.machine.env), ⟨scopedName, modules, assignments⟩, commands⟩
          { rt with machine := m }) ∨
      ∃ e m, activate b modules assignments rt = .error e { rt with machine := m } ∧
        m.env = rt.machine.env := by
  cases h : Activation.activateAll b [⟨scopedName, modules, assignments⟩] rt.machine with
  | ok commands m => exact .inl ⟨commands, m, by rw [activate]; simp only [h]⟩
  | error e m =>
    refine .inr ⟨e, Activation.restored (.capture rt.machine.env) m, ?_, ?_⟩
    · rw [activate]; simp only [h]
    · simp

/-! ### Search paths -/

/-- Adds directories to the search path of the current module system. -/
def usePaths (paths : List String) : Op μ (Guard μ) := do
  let r ← running
  let backend := r.context.backend
  onto (EStateM.adaptExcept .modules (backend.addPaths paths))
  return .modules backend paths

end Guard

/-! ### Running in a scope -/

namespace Runtime

variable {μ : Type}

/-- Runs a body with the context of a configuration current, or none. The context that was current
before is current again after it, however it ends. -/
def within {α : Type} (host : Host μ) (c : Option SiteConfig) (refused : RuntimeError → α)
    (body : StateM (Runtime μ) α) : StateM (Runtime μ) α :=
  Guard.during (Guard.switchTo host host.now c) refused body

end Runtime

end SiteRuntime
