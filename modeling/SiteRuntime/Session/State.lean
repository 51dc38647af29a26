import SiteRuntime.Session.Answer

/-!
# The state of a session

A session has the runtime, the guards of the scopes it is in, the snapshots it has taken, and the
module systems it has made. `Session.M` are its operations; each keeps what it changed before it
failed.
-/

namespace SiteRuntime.Session

/-- What a session works on. -/
structure State where
  /-- The runtime. -/
  runtime : Runtime Store
  /-- The guards of the current scope, oldest first. -/
  guards : List (Guard Store)
  /-- The snapshots in the order they were taken. -/
  snapshots : List Snapshot
  /-- The module systems by name. -/
  backends : SortedMap String (Backend Store)

/-- An operation of a session. -/
abbrev M (α : Type) := EStateM Failure State α

namespace State

/-- A session on a machine, before its first step. -/
def onMachine (m : Machine Store) : State := ⟨.onMachine m, [], [], ∅⟩

/-- The process environment. -/
def env (s : State) : ProcessEnv := s.runtime.machine.env

/-- The session with its machine changed. -/
def mapMachine (f : Machine Store → Machine Store) (s : State) : State :=
  { s with runtime := { s.runtime with machine := f s.runtime.machine } }

end State

/-- The process environment. -/
def env : M ProcessEnv := return (← get).env

/-- An operation of the runtime. -/
def onRuntime {α : Type} (op : Runtime.Op Store α) : M α := fun s =>
  match op s.runtime with
  | .ok x rt => .ok x { s with runtime := rt }
  | .error e rt => .error (.runtime e) { s with runtime := rt }

/-- An action of the machine with failures of its own. -/
def onMachine {ε α : Type} (failure : ε → Failure) (a : Action Store ε α) : M α := fun s =>
  match a s.runtime.machine with
  | .ok x m => .ok x (s.mapMachine fun _ => m)
  | .error e m => .error (failure e) (s.mapMachine fun _ => m)

/-- An operation on the files. -/
def onFiles {α : Type} (edit : Position → FileTree.Edit α) : M α :=
  onMachine .files fun m =>
    match edit m.cwd m.files with
    | .ok x files => .ok x { m with files }
    | .error e files => .error e { m with files }

/-- The result of a question that changes nothing. -/
def ofExcept {ε α : Type} (failure : ε → Failure) : Except ε α → M α
  | .ok x => pure x
  | .error e => throw (failure e)

/-! ### Guards -/

/-- Puts a guard on the stack. -/
def push (g : Guard Store) : M Unit := modify fun s => { s with guards := s.guards ++ [g] }

/-- Drops the guard at a place; those above it move down. -/
def dropAt (place : Nat) : M Unit := do
  match (← get).guards[place]? with
  | none => throw .noGuard
  | some g =>
    modify fun s => { s with runtime := g.drop s.runtime, guards := s.guards.eraseIdx place }

/-- Drops all guards of the scope, newest first. -/
def dropGuards (s : State) : State :=
  { s with runtime := Guard.dropAll s.guards.reverse s.runtime, guards := [] }

/-! ### Snapshots -/

/-- Keeps a snapshot and returns its number. -/
def keep (snapshot : Snapshot) : M Nat := do
  let n := (← get).snapshots.length
  modify fun s => { s with snapshots := s.snapshots ++ [snapshot] }
  return n

/-- The snapshot of a number. -/
def snapshot (n : Nat) : M Snapshot := do
  match (← get).snapshots[n]? with
  | some s => return s
  | none => throw .noSnapshot

/-! ### Module systems -/

/-- The module system of a name, or else the current one. -/
def backend : Option String → M (Backend Store)
  | some name => do
    match (← get).backends.get? name with
    | some b => return b
    | none => throw (.noBackend name)
  | none => return (← onRuntime Runtime.running).context.backend

/-- The state of one module system in memory. -/
def cell (name : String) (store : Store) : InMemory := (store.get? name).getD ⟨[], []⟩

/-- Makes a module system. -/
def makeBackend (host : Host Store) (name : String) : BackendPlan → M (Backend Store)
  | .inMemory loaded setup => do
    modify fun s => s.mapMachine fun m => { m with store := m.store.insert name ⟨loaded, []⟩ }
    return InMemory.backend (cell name) (fun d store => store.insert name d) setup
  | .lmod command => do
    let m := (← get).runtime.machine
    let l ← ofExcept .modules (Lmod.connect command (host.lmodAt command) m)
    return l.backend
  | .named kind => do
    ofExcept .modules (Backend.ofName host.lmodAt kind (← get).runtime.machine)

end SiteRuntime.Session
