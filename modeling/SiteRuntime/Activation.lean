import SiteRuntime.Context.Error
import SiteRuntime.Environment
import SiteRuntime.Expansion
import SiteRuntime.Module.Backend
import SiteRuntime.Snapshot

/-!
# Activating environments

Environments are activated in order, and in each first all modules and then all variables. What is
done is recorded as shell commands, with values as they are written, so that a shell can do the
same. A failure names the environment and keeps what was done before it; `emit` and the scoped
changes of the runtime take everything back.
-/

namespace SiteRuntime.Activation

variable {μ : Type}

/-! ### Taking it back -/

/-- A machine with its environment brought back to an image. -/
def restored (s : Snapshot) (m : Machine μ) : Machine μ := m.withEnv (s.restore m.env)

@[simp] theorem env_restored (s : Snapshot) (m : Machine μ) : (restored s m).env = s.image :=
  s.restore_eq m.env

/-! ### Modules -/

/-- An action of a module system as part of an activation. -/
def loading {α : Type} (environment module : String) (a : Action μ ModuleError α) :
    Action μ RuntimeError α :=
  EStateM.adaptExcept (.moduleLoad environment module) a

/-- The commands that do again what loading a module did. -/
def moduleCommands (b : Backend μ) (module : String) (unloaded : List String) : List String :=
  unloaded.flatMap b.unloadCommands ++ b.loadCommands module

/-- Loads modules in order; what conflicts with one is unloaded before it. -/
def loadModules (b : Backend μ) (environment : String) :
    List String → Action μ RuntimeError (List String)
  | [] => pure []
  | module :: rest => do
    let unloaded ← loading environment module (b.loadModule module true)
    let more ← loadModules b environment rest
    return moduleCommands b module unloaded ++ more

theorem loading_eq_ok_iff {α : Type} {environment module : String} {a : Action μ ModuleError α}
    {x : α} {m m' : Machine μ} :
    loading environment module a m = .ok x m' ↔ a m = .ok x m' := by
  simp only [loading, EStateM.adaptExcept]
  cases a m <;> simp

/-- A failure of the module system is reported with the environment and the module. -/
theorem loading_eq_error_iff {α : Type} {environment module : String} {a : Action μ ModuleError α}
    {e : RuntimeError} {m m' : Machine μ} :
    loading environment module a m = .error e m' ↔
      ∃ cause, a m = .error cause m' ∧ e = .moduleLoad environment module cause := by
  simp only [loading, EStateM.adaptExcept]
  cases a m with
  | ok x t => simp
  | error cause t =>
    simp only [EStateM.Result.error.injEq]
    constructor
    · rintro ⟨rfl, rfl⟩
      exact ⟨cause, ⟨rfl, rfl⟩, rfl⟩
    · rintro ⟨_, ⟨rfl, rfl⟩, rfl⟩
      exact ⟨rfl, rfl⟩

theorem loadModules_cons_eq_ok_iff {b : Backend μ} {environment module : String}
    {rest commands : List String} {m m' : Machine μ} :
    loadModules b environment (module :: rest) m = .ok commands m' ↔
      ∃ unloaded m₁ more, b.loadModule module true m = .ok unloaded m₁ ∧
        loadModules b environment rest m₁ = .ok more m' ∧
        commands = moduleCommands b module unloaded ++ more := by
  rw [loadModules, Stateful.bind_bind_pure_eq_ok_iff]
  simp only [loading_eq_ok_iff]

/-! ### Environments -/

/-- The command that sets a variable to a value as written. -/
def exportCommand (name value : String) : String := s!"export {name}={value}"

variable [Account]

/-- Sets a variable to a value, expanded against the environment as it is. -/
def setVariable (environment name value : String) : Action μ RuntimeError Unit := fun m =>
  let expanded := m.env.expand value
  if isVariableName name && isVariableValue expanded then
    .ok () (m.write [.set (Bytes.ofText name) (Bytes.ofText expanded)])
  else .error (.invalidVariable environment name) m

/-- Sets variables in order. -/
def setVariables (environment : String) :
    List (String × String) → Action μ RuntimeError (List String)
  | [] => pure []
  | (name, value) :: rest => do
    setVariable environment name value
    let more ← setVariables environment rest
    return exportCommand name value :: more

/-- Activates one environment. -/
def activate (b : Backend μ) (e : Environment) : Action μ RuntimeError (List String) := do
  let modules ← loadModules b e.name e.modules
  let assignments ← setVariables e.name e.assignments
  return modules ++ assignments

/-- Activates environments in order. The result is the commands that do the same. -/
def activateAll (b : Backend μ) : List Environment → Action μ RuntimeError (List String)
  | [] => pure []
  | e :: rest => do
    let commands ← activate b e
    let more ← activateAll b rest
    return commands ++ more

/-! ### What success means -/

/-- A variable is set if the platform takes its name and its expanded value. -/
theorem setVariable_eq_ok_iff {environment name value : String} {m m' : Machine μ} :
    setVariable environment name value m = .ok () m' ↔
      isVariableName name ∧ isVariableValue (m.env.expand value) ∧
        m' = m.write [.set (Bytes.ofText name) (Bytes.ofText (m.env.expand value))] := by
  simp only [setVariable]
  split
  next h =>
    obtain ⟨hn, hv⟩ := Bool.and_eq_true_iff.1 h
    simp [hn, hv, eq_comm]
  next h =>
    simp only [reduceCtorEq, false_iff]
    rintro ⟨hn, hv, -⟩
    exact h (Bool.and_eq_true_iff.2 ⟨hn, hv⟩)

/-- A variable that the platform does not take is reported with the environment, and nothing is
changed. -/
theorem setVariable_eq_error_iff {environment name value : String} {e : RuntimeError}
    {m m' : Machine μ} :
    setVariable environment name value m = .error e m' ↔
      ¬(isVariableName name ∧ isVariableValue (m.env.expand value)) ∧
        e = .invalidVariable environment name ∧ m' = m := by
  simp only [setVariable]
  split
  next h => simp [Bool.and_eq_true_iff.1 h]
  next h =>
    rw [Bool.and_eq_true_iff] at h
    rw [EStateM.Result.error.injEq, eq_comm (a := m), eq_comm (b := e)]
    exact (and_iff_right h).symm

theorem setVariables_cons_eq_ok_iff {environment name value : String}
    {rest : List (String × String)} {commands : List String} {m m' : Machine μ} :
    setVariables environment ((name, value) :: rest) m = .ok commands m' ↔
      ∃ m₁ more, setVariable environment name value m = .ok () m₁ ∧
        setVariables environment rest m₁ = .ok more m' ∧
        commands = exportCommand name value :: more := by
  rw [setVariables, Stateful.bind_bind_pure_eq_ok_iff]
  exact ⟨fun ⟨_, m₁, h⟩ => ⟨m₁, h⟩, fun ⟨m₁, h⟩ => ⟨⟨⟩, m₁, h⟩⟩

theorem activate_eq_ok_iff {b : Backend μ} {e : Environment} {commands : List String}
    {m m' : Machine μ} :
    activate b e m = .ok commands m' ↔
      ∃ modules m₁ assignments, loadModules b e.name e.modules m = .ok modules m₁ ∧
        setVariables e.name e.assignments m₁ = .ok assignments m' ∧
        commands = modules ++ assignments := by
  rw [activate, Stateful.bind_bind_pure_eq_ok_iff]

theorem activateAll_cons_eq_ok_iff {b : Backend μ} {e : Environment} {rest : List Environment}
    {commands : List String} {m m' : Machine μ} :
    activateAll b (e :: rest) m = .ok commands m' ↔
      ∃ first m₁ more, activate b e m = .ok first m₁ ∧ activateAll b rest m₁ = .ok more m' ∧
        commands = first ++ more := by
  rw [activateAll, Stateful.bind_bind_pure_eq_ok_iff]

/-! ### What it is made of -/

/-- **An activation is made of loads and settings.** A property that holds of them, of doing
nothing, and of sequences of which it holds part by part, holds of every activation. -/
theorem activateAll_of_parts {b : Backend μ} {P : ∀ {α : Type}, Action μ RuntimeError α → Prop}
    (hpure : ∀ {α : Type} (a : α), P (pure a : Action μ RuntimeError α))
    (hbind : ∀ {α β : Type} {x : Action μ RuntimeError α} {f : α → Action μ RuntimeError β},
      P x → (∀ a, P (f a)) → P (x >>= f))
    (hload : ∀ environment module, P (loading environment module (b.loadModule module true)))
    (hset : ∀ environment name value,
      P (setVariable environment name value : Action μ RuntimeError Unit))
    (es : List Environment) : P (activateAll b es) := by
  have hmodules : ∀ environment modules, P (loadModules b environment modules) := by
    intro environment modules
    induction modules with
    | nil => exact hpure []
    | cons module rest ih =>
      exact hbind (hload environment module) fun _ => hbind ih fun _ => hpure _
  have hassignments : ∀ environment assignments,
      P (setVariables environment assignments : Action μ RuntimeError (List String)) := by
    intro environment assignments
    induction assignments with
    | nil => exact hpure []
    | cons a rest ih => exact hbind (hset environment a.1 a.2) fun _ => hbind ih fun _ => hpure _
  have hactivate : ∀ e, P (activate b e) := fun e =>
    hbind (hmodules e.name e.modules) fun _ =>
      hbind (hassignments e.name e.assignments) fun _ => hpure _
  induction es with
  | nil => exact hpure []
  | cons e rest ih => exact hbind (hactivate e) fun _ => hbind ih fun _ => hpure _

/-! ### Using it -/

/-- What activating environments leaves to the caller. -/
structure Loaded where
  /-- The environment before the activation. -/
  before : Snapshot
  /-- The commands that do the same. -/
  commands : List String
  deriving DecidableEq

/-- Activates environments. -/
def load (b : Backend μ) (es : List Environment) : Action μ RuntimeError Loaded := do
  let before := Snapshot.capture (← get).env
  let commands ← activateAll b es
  return { before, commands }

theorem load_eq_ok_iff {b : Backend μ} {es : List Environment} {loaded : Loaded}
    {m m' : Machine μ} :
    load b es m = .ok loaded m' ↔
      loaded.before = .capture m.env ∧ activateAll b es m = .ok loaded.commands m' := by
  rw [load, Stateful.get_bind, Stateful.bind_eq_ok_iff]
  constructor
  · rintro ⟨commands, m₁, h, hl⟩
    cases hl
    exact ⟨rfl, h⟩
  · rintro ⟨hb, h⟩
    refine ⟨loaded.commands, m', h, ?_⟩
    rw [← hb]
    rfl

theorem load_eq_error_iff {b : Backend μ} {es : List Environment} {e : RuntimeError}
    {m m' : Machine μ} :
    load b es m = .error e m' ↔ activateAll b es m = .error e m' := by
  rw [load, Stateful.get_bind, Stateful.bind_eq_error_iff]
  constructor
  · rintro (h | ⟨_, _, _, hpure⟩)
    · exact h
    · cases hpure
  · exact .inl

/-- The commands that activate environments. The environment is left as it was. -/
def emit (b : Backend μ) (es : List Environment) : Action μ RuntimeError (List String) := fun m =>
  let before := Snapshot.capture m.env
  match activateAll b es m with
  | .ok commands m => .ok commands (restored before m)
  | .error e m => .error e (restored before m)

/-- Whether a variable holds a value, expanded against the environment as it is. -/
def holds (env : ProcessEnv) (name value : String) : Bool :=
  env.text? name = some (env.expand value)

/-- Whether all modules of an environment are loaded and all its variables hold their values. -/
def isLoaded (b : Backend μ) (m : Machine μ) (e : Environment) : Bool :=
  e.modules.all (b.isLoaded m) && e.assignments.all fun v => holds m.env v.1 v.2

end SiteRuntime.Activation
