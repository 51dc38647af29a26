import SiteRuntime.Config.Selection
import SiteRuntime.Context.Directories
import SiteRuntime.FileTree.Directory
import SiteRuntime.Lmod.Backend
import SiteRuntime.Machine

/-!
# The runtime

A `Runtime` is the machine together with all contexts that were built on it, each with the number
of its run, and which of them is current. A context is known by its place in the order of building,
so "the same context" is more than an equal one, and a count belongs to one context alone.
-/

namespace SiteRuntime

/-- What the surroundings of the process provide. -/
structure Host (μ : Type) where
  /-- The name of the host. -/
  name : String
  /-- The present time. -/
  now : Moment
  /-- What a module command does. -/
  lmodAt : Bytes → Lmod.Program μ
  /-- The user of the process. -/
  account : Account := .unlisted

/-- A context with the number of its run. -/
structure Running (μ : Type) where
  /-- The context. -/
  context : Context μ
  /-- How often the work was tried again. -/
  run : Nat

/-- A machine with the contexts built on it. -/
structure Runtime (μ : Type) where
  /-- The machine. -/
  machine : Machine μ
  /-- All contexts in the order of their building. -/
  contexts : List (Running μ)
  /-- The place of the current context, if there is one. -/
  current : Option Nat

namespace Runtime

variable {μ : Type}

/-- An operation of the runtime that may fail. -/
abbrev Op (μ α : Type) := EStateM RuntimeError (Runtime μ) α

/-- A runtime without contexts. -/
def onMachine (m : Machine μ) : Runtime μ := ⟨m, [], none⟩

/-- The current context with its run. -/
def current? (rt : Runtime μ) : Option (Running μ) := rt.current.bind fun i => rt.contexts[i]?

/-- The current context with its run, which has to be there. -/
def running : Op μ (Running μ) := fun rt =>
  match rt.current? with
  | some r => .ok r rt
  | none => .error .notConfigured rt

/-- The current context is there or it is missing; asking for it changes nothing. -/
theorem running_cases (rt : Runtime μ) :
    (∃ r, rt.current? = some r ∧ running rt = .ok r rt) ∨
      rt.current? = none ∧ running rt = .error .notConfigured rt := by
  cases h : rt.current? with
  | some r => exact .inl ⟨r, rfl, by rw [running, h]⟩
  | none => exact .inr ⟨rfl, by rw [running, h]⟩

/-- An action of the machine. -/
def onto {α : Type} (a : Action μ RuntimeError α) : Op μ α := fun rt =>
  match a rt.machine with
  | .ok x m => .ok x { rt with machine := m }
  | .error e m => .error e { rt with machine := m }

theorem onto_eq_ok_iff {α : Type} {a : Action μ RuntimeError α} {x : α} {rt rt' : Runtime μ} :
    onto a rt = .ok x rt' ↔
      ∃ m, a rt.machine = .ok x m ∧ rt' = { rt with machine := m } := by
  rw [onto]
  cases a rt.machine with
  | ok y m =>
    constructor
    · intro h
      cases h
      exact ⟨m, rfl, rfl⟩
    · rintro ⟨m', h, rfl⟩
      cases h
      rfl
  | error e m => simp

/-- An operation whose failure is part of its result. -/
def attempt {α : Type} (op : Op μ α) : StateM (Runtime μ) (Except RuntimeError α) := fun rt =>
  match op rt with
  | .ok x rt => (.ok x, rt)
  | .error e rt => (.error e, rt)

theorem attempt_of_ok {α : Type} {op : Op μ α} {x : α} {rt rt' : Runtime μ}
    (h : op rt = .ok x rt') : attempt op rt = (.ok x, rt') := by rw [attempt, h]

theorem attempt_of_error {α : Type} {op : Op μ α} {e : RuntimeError} {rt rt' : Runtime μ}
    (h : op rt = .error e rt') : attempt op rt = (.error e, rt') := by rw [attempt, h]

/-- A question to the configuration. -/
def asking {α : Type} : Except ConfigError α → Op μ α
  | .ok x => pure x
  | .error e => throw (.config e)

/-! ### Contexts -/

/-- The context of a configuration on a machine. -/
def buildContext (host : Host μ) (start : Moment) (c : SiteConfig) (m : Machine μ) :
    Except RuntimeError (Context μ) :=
  Context.ofConfig (fun name => Backend.ofName host.lmodAt name m) start c

/-- Builds the context of a configuration. It is not current yet. -/
def build (host : Host μ) (start : Moment) (c : SiteConfig) : Op μ (Context μ) := fun rt =>
  match buildContext host start c rt.machine with
  | .ok context => .ok context rt
  | .error e => .error e rt

theorem build_cases (host : Host μ) (start : Moment) (c : SiteConfig) (rt : Runtime μ) :
    (∃ context, build host start c rt = .ok context rt) ∨
      ∃ e, build host start c rt = .error e rt := by
  cases h : buildContext host start c rt.machine with
  | ok context => exact .inl ⟨context, by rw [build, h]⟩
  | error e => exact .inr ⟨e, by rw [build, h]⟩

/-- The runtime with a new context, which is not current. -/
def withContext (context : Context μ) (rt : Runtime μ) : Runtime μ :=
  { rt with contexts := rt.contexts ++ [⟨context, 0⟩] }

/-- The runtime with a new context, which is current. -/
def install (context : Context μ) (rt : Runtime μ) : Runtime μ :=
  { rt.withContext context with current := some rt.contexts.length }

/-- Builds the context of a configuration beside the current one. The result is its place. -/
def construct (host : Host μ) (start : Moment) (c : SiteConfig) : Op μ Nat := do
  let context ← build host start c
  modifyGet fun rt => (rt.contexts.length, rt.withContext context)

/-- A new context gets the next place. -/
theorem construct_cases (host : Host μ) (start : Moment) (c : SiteConfig) (rt : Runtime μ) :
    (∃ context, construct host start c rt =
        .ok rt.contexts.length (rt.withContext context)) ∨
      ∃ e, construct host start c rt = .error e rt := by
  rcases build_cases host start c rt with ⟨context, h⟩ | ⟨e, h⟩
  · exact .inl ⟨context, Stateful.bind_of_ok h⟩
  · exact .inr ⟨e, Stateful.bind_of_error h⟩

/-- Makes the context of a configuration current unless one is current already. -/
def init (host : Host μ) (c : SiteConfig) : Op μ (Running μ) := do
  match (← get).current? with
  | some r => return r
  | none =>
    let context ← build host host.now c
    modify (install context)
    running

/-- The runtime with the runs of the context at a place counted up. -/
def countRuns (place n : Nat) (rt : Runtime μ) : Runtime μ :=
  { rt with contexts := rt.contexts.modify place fun r => { r with run := r.run + n } }

@[simp] theorem current?_install (context : Context μ) (rt : Runtime μ) :
    (rt.install context).current? = some ⟨context, 0⟩ := by
  simp [current?, install, withContext]

/-- A context is only ever built where none is current. -/
theorem init_cases (host : Host μ) (c : SiteConfig) (rt : Runtime μ) :
    (∃ r, rt.current? = some r ∧ init host c rt = .ok r rt) ∨
      (∃ context, rt.current? = none ∧ init host c rt = .ok ⟨context, 0⟩ (rt.install context)) ∨
      ∃ e, rt.current? = none ∧ init host c rt = .error e rt := by
  cases hc : rt.current? with
  | some r =>
    refine .inl ⟨r, rfl, ?_⟩
    rw [init, Stateful.get_bind, hc]
    rfl
  | none =>
    rw [init, Stateful.get_bind, hc]
    rcases build_cases host host.now c rt with ⟨context, hb⟩ | ⟨e, hb⟩
    · refine .inr (.inl ⟨context, rfl, ?_⟩)
      simp only [Stateful.bind_of_ok hb, Stateful.modify_bind, running, current?_install]
    · exact .inr (.inr ⟨e, rfl, Stateful.bind_of_error hb⟩)

/-- Counts the runs of the current context up. -/
def nextRuns (n : Nat) : Op μ Nat := do
  let r ← running
  modify fun rt =>
    match rt.current with
    | some i => rt.countRuns i n
    | none => rt
  return r.run + n

theorem nextRuns_cases (n : Nat) (rt : Runtime μ) :
    (∃ i r, rt.current = some i ∧ rt.contexts[i]? = some r ∧
        nextRuns n rt = .ok (r.run + n) (rt.countRuns i n)) ∨
      rt.current? = none ∧ nextRuns n rt = .error .notConfigured rt := by
  rcases running_cases rt with ⟨r, hr, h⟩ | ⟨hr, h⟩
  · obtain ⟨i, hi, hri⟩ := Option.bind_eq_some_iff.1 hr
    refine .inl ⟨i, r, hi, hri, ?_⟩
    rw [nextRuns, Stateful.bind_of_ok h, Stateful.modify_bind]
    simp only [hi]
    rfl
  · exact .inr ⟨hr, Stateful.bind_of_error h⟩

/-! ### Directories -/

variable [Account]

/-- The stage directory of the current run. -/
def stagePath (segments : List String) : Op μ Path := do
  let r ← running
  asking (r.context.stagePath (← get).machine.env r.run segments)

/-- The output directory of the current run. -/
def outputPath (segments : List String) : Op μ Path := do
  let r ← running
  asking (r.context.outputPath (← get).machine.env r.run segments)

/-- An operation on the files. -/
def editing {α : Type} (path : Path) (edit : Position → FileTree.Edit α) : Op μ α := fun rt =>
  match edit rt.machine.cwd rt.machine.files with
  | .ok x files => .ok x { rt with machine := { rt.machine with files } }
  | .error cause files =>
    .error (.directory path cause) { rt with machine := { rt.machine with files } }

/-- Makes a directory, and with `wipe` empties it. -/
def makeDirectory (path : Path) (wipe : Bool) : Op μ Path := do
  editing path fun cwd => FileTree.makeDirectory cwd path wipe
  return path

/-- Makes the stage directory of the current run. -/
def makeStage (segments : List String) (wipe : Bool) : Op μ Path := do
  makeDirectory (← stagePath segments) wipe

/-- Makes the output directory of the current run. -/
def makeOutput (segments : List String) (wipe : Bool) : Op μ Path := do
  makeDirectory (← outputPath segments) wipe

end Runtime

end SiteRuntime
