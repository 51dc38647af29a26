import Mathlib.Tactic.Choose
import SiteRuntime.Proofs.Activation.Effect
import SiteRuntime.Runtime.Guard

/-!
# Three ways to activate

Environments can be activated for good, only for the commands that this takes, and for a scope. The
three agree on what comes of it, the commands or the failure, and the second one leaves no trace
(`emit_activate_eq_load`). So what is printed is what will be done.

A trace could be left in what is not restored: files, and whatever a module system keeps to itself.
The module systems meant here keep all in the process environment (`Backend.EnvOnly`), and an
activation then works on nothing else (`envOnly_activateAll`). To say so, an action is described by
one of the environment alone, which is put together along a sequence (`EnvOnly.bind`).
-/

namespace SiteRuntime

variable {μ ε α β : Type}

open Stateful (answer left)

/-! ### Actions of the process environment -/

/-- An action of the process environment, done on a machine. -/
def Machine.onEnv (f : EStateM ε ProcessEnv α) : Action μ ε α := fun m =>
  match f m.env with
  | .ok x e => .ok x (m.withEnv e)
  | .error err e => .error err (m.withEnv e)

/-- **An action that works on the process environment alone**: it reads nothing else and changes
nothing else. -/
def EnvOnly (a : Action μ ε α) : Prop := ∃ f : EStateM ε ProcessEnv α, a = Machine.onEnv f

theorem envOnly_pure (x : α) : EnvOnly (pure x : Action μ ε α) := ⟨pure x, rfl⟩

/-- In a sequence nothing else is read or changed if no part of it does. -/
theorem EnvOnly.bind {x : Action μ ε α} {g : α → Action μ ε β} (hx : EnvOnly x)
    (hg : ∀ a, EnvOnly (g a)) : EnvOnly (x >>= g) := by
  obtain ⟨f, rfl⟩ := hx
  choose h hh using hg
  refine ⟨f >>= h, funext fun m => ?_⟩
  cases hf : f m.env with
  | ok a e =>
    have hfirst : Machine.onEnv f m = .ok a (m.withEnv e) := by rw [Machine.onEnv, hf]
    rw [Stateful.bind_of_ok hfirst, hh, Machine.onEnv, Machine.onEnv, Stateful.bind_of_ok hf]
    rfl
  | error err e =>
    have hfirst : Machine.onEnv f m = .error err (m.withEnv e) := by rw [Machine.onEnv, hf]
    rw [Stateful.bind_of_error hfirst, Machine.onEnv, Stateful.bind_of_error hf]

/-- What is read off the machine may come from the process environment. -/
theorem envOnly_get_bind {read : Machine μ → β} {g : β → Action μ ε α}
    (hread : ∃ q : ProcessEnv → β, ∀ m, read m = q m.env) (hg : ∀ y, EnvOnly (g y)) :
    EnvOnly (get >>= fun m => g (read m)) := by
  obtain ⟨q, hq⟩ := hread
  choose h hh using hg
  refine ⟨fun e => h (q e) e, funext fun m => ?_⟩
  rw [Stateful.get_bind, hq, hh]
  rfl

/-- **A module system that keeps all in the process environment**, as far as activations use it. -/
structure Backend.EnvOnly (b : Backend μ) : Prop where
  isLoaded : ∀ x, ∃ q : ProcessEnv → Bool, ∀ m, b.isLoaded m x = q m.env
  loaded : ∃ q : ProcessEnv → List String, ∀ m, b.loaded m = q m.env
  conflicts : ∀ x, SiteRuntime.EnvOnly (b.conflicts x)
  load : ∀ x, SiteRuntime.EnvOnly (b.load x)
  unload : ∀ x, SiteRuntime.EnvOnly (b.unload x)

namespace Backend

variable {b : Backend μ}

theorem envOnly_unloadConflicts (hb : b.EnvOnly) (conflicts ls unloaded : List String) :
    SiteRuntime.EnvOnly (b.unloadConflicts conflicts ls unloaded) := by
  induction ls generalizing unloaded with
  | nil => exact envOnly_pure unloaded
  | cons l ls ih =>
    rw [unloadConflicts]
    split
    · exact (hb.unload l).bind fun _ => ih _
    · exact ih unloaded

theorem envOnly_loadModule (hb : b.EnvOnly) (name : String) (force : Bool) :
    SiteRuntime.EnvOnly (b.loadModule name force) := by
  have hload : ∀ unloaded : List String, SiteRuntime.EnvOnly (do b.load name; return unloaded) :=
    fun unloaded => (hb.load name).bind fun _ => envOnly_pure unloaded
  have hconflicts : ∀ conflicts, SiteRuntime.EnvOnly (get >>= fun m =>
      b.unloadConflicts conflicts (b.loaded m) [] >>= fun unloaded => do
        b.load name
        return unloaded) := fun conflicts =>
    envOnly_get_bind hb.loaded fun ls => (envOnly_unloadConflicts hb conflicts ls []).bind hload
  obtain ⟨anew, heq, hanew⟩ : ∃ anew : Action μ ModuleError (List String),
      b.loadModule name force = (get >>= fun m => if b.isLoaded m name then pure [] else anew) ∧
        SiteRuntime.EnvOnly anew := by
    refine ⟨_, rfl, ?_⟩
    cases force with
    | true => exact (hb.conflicts name).bind hconflicts
    | false => exact (envOnly_pure []).bind hload
  have hcases : ∀ found : Bool, SiteRuntime.EnvOnly (if found then pure [] else anew) := by
    intro found
    split
    · exact envOnly_pure []
    · exact hanew
  rw [heq]
  exact envOnly_get_bind (hb.isLoaded name) hcases

end Backend

namespace Activation

variable {b : Backend μ}

theorem envOnly_loading {environment module : String} {a : Action μ ModuleError α}
    (ha : EnvOnly a) : EnvOnly (loading environment module a) := by
  obtain ⟨f, rfl⟩ := ha
  refine ⟨EStateM.adaptExcept (.moduleLoad environment module) f, funext fun m => ?_⟩
  simp only [loading, EStateM.adaptExcept, Machine.onEnv]
  cases f m.env <;> rfl

variable [Account]

theorem envOnly_setVariable (environment name value : String) :
    EnvOnly (setVariable environment name value : Action μ RuntimeError Unit) := by
  refine ⟨fun e =>
    if isVariableName name && isVariableValue (e.expand value) then
      .ok () (e.set (Bytes.ofText name) (Bytes.ofText (e.expand value)))
    else .error (.invalidVariable environment name) e, funext fun m => ?_⟩
  simp only [setVariable, Machine.onEnv]
  split <;> rfl

/-- With such a module system an activation works on the process environment alone. -/
theorem envOnly_activateAll (hb : b.EnvOnly) (es : List Environment) :
    EnvOnly (activateAll b es) := by
  refine activateAll_of_parts envOnly_pure EnvOnly.bind (fun environment module => ?_)
    envOnly_setVariable es
  exact envOnly_loading (Backend.envOnly_loadModule hb module true)

end Activation

/-! ### The three ways -/

/-- In the same process environment the answer is the same. -/
theorem EnvOnly.answer_congr {a : Action μ ε α} (ha : EnvOnly a) {m m' : Machine μ}
    (h : m'.env = m.env) : answer (a m') = answer (a m) := by
  obtain ⟨f, rfl⟩ := ha
  rw [Machine.onEnv, Machine.onEnv, h]
  cases f m.env <;> rfl

/-- With the process environment restored nothing has changed. -/
theorem EnvOnly.restored_left {a : Action μ ε α} (ha : EnvOnly a) (m : Machine μ) :
    Activation.restored (.capture m.env) (left (a m)) = m := by
  obtain ⟨f, rfl⟩ := ha
  rw [Machine.onEnv, Activation.restored, Snapshot.restore_capture]
  cases f m.env <;> rfl

namespace Runtime

open Activation

section Ways

variable [Account] (b : Backend μ) (es : List Environment) (rt : Runtime μ)

/-- An activation for good gives the commands or the failure. -/
theorem commands_load : (attempt (load (some b) es) rt).1.map (·.commands) =
    answer (activateAll b es rt.machine) := by
  have hload : load (some b) es rt = onto (Activation.load b es) rt := rfl
  rw [attempt, hload, onto, Activation.load, Stateful.get_bind]
  cases h : activateAll b es rt.machine with
  | ok commands m => rw [Stateful.bind_of_ok h]; rfl
  | error err m => rw [Stateful.bind_of_error h]; rfl

/-- Asking for the commands gives them or the failure, and restores the process environment. -/
theorem attempt_emit : attempt (emit (some b) es) rt =
    (answer (activateAll b es rt.machine),
      { rt with
        machine := restored (.capture rt.machine.env) (left (activateAll b es rt.machine)) }) := by
  have hemit : emit (some b) es rt = onto (Activation.emit b es) rt := rfl
  rw [attempt, hemit, onto, Activation.emit]
  cases activateAll b es rt.machine <;> rfl

/-- An activation for a scope gives the commands or the failure. -/
theorem commands_activate (modules : List String) (assignments : List (String × String)) :
    (attempt (Guard.activate b modules assignments) rt).1.map (·.commands) =
      answer (activateAll b [⟨Guard.scopedName, modules, assignments⟩] rt.machine) := by
  rw [attempt, Guard.activate]
  cases activateAll b [⟨Guard.scopedName, modules, assignments⟩] rt.machine <;> rfl

variable {b rt}

/-- **The same comes of all three.** With a module system that keeps all in the process environment:
asking for the commands gives those of an activation in the same process environment, or its
failure, and leaves everything as it was, so that an activation afterwards goes as without it; and
an activation for a scope gives the commands or the failure of one of the one environment. -/
theorem emit_activate_eq_load (hb : b.EnvOnly) {rt' : Runtime μ}
    (henv : rt'.machine.env = rt.machine.env) :
    (∀ es, attempt (emit (some b) es) rt =
        ((attempt (load (some b) es) rt').1.map (·.commands), rt)) ∧
      (∀ es es', attempt (load (some b) es') (attempt (emit (some b) es) rt).2 =
        attempt (load (some b) es') rt) ∧
      ∀ modules assignments,
        (attempt (Guard.activate b modules assignments) rt).1.map (·.commands) =
          (attempt (load (some b) [⟨Guard.scopedName, modules, assignments⟩]) rt').1.map
            (·.commands) := by
  have hemit : ∀ es, attempt (emit (some b) es) rt =
      ((attempt (load (some b) es) rt').1.map (·.commands), rt) := by
    intro es
    have henvOnly := envOnly_activateAll hb es
    rw [attempt_emit, henvOnly.restored_left, commands_load, henvOnly.answer_congr henv]
  refine ⟨hemit, fun es es' => by rw [hemit], fun modules assignments => ?_⟩
  rw [commands_activate, commands_load, (envOnly_activateAll hb _).answer_congr henv]

end Ways

theorem envOnly_inVariable : inVariable.EnvOnly where
  isLoaded x := ⟨fun e => Backend.reportsLoaded (e.text? "LOADED").toList x, fun _ => rfl⟩
  loaded := ⟨fun e => (e.text? "LOADED").toList, fun _ => rfl⟩
  conflicts _ := envOnly_pure _
  load x := ⟨fun e => .ok () (e.set (Bytes.ofText "LOADED") (Bytes.ofText x)), rfl⟩
  unload _ := ⟨fun e => .ok () (e.unset (Bytes.ofText "LOADED")), rfl⟩

/-- A runtime on which a module is loaded that conflicts with another. -/
def withGcc (store : InMemory) : Runtime InMemory :=
  .onMachine ⟨.ofList [(Bytes.ofText "LOADED", Bytes.ofText "gcc"),
    (Bytes.ofText "PATH", Bytes.ofText "/bin")], .empty, [], store⟩

/-- An environment that needs the other module. -/
def otherCompiler : Environment := ⟨"intel", ["intel"], [("PATH", "/opt/intel:$PATH")]⟩

/-- An environment of which the variable cannot be set. -/
def unnamed : Environment := ⟨"unnamed", ["gcc"], [("A=B", "1")]⟩

attribute [local instance] Account.unlisted

/-- What is asked for can be had, or fails on its way; the runtime is the same as before. -/
theorem emit_activate_eq_load_withGcc :
    inVariable.EnvOnly ∧
      attempt (emit (some inVariable) [otherCompiler]) (withGcc ⟨[], []⟩) =
        (.ok ["module unload gcc", "module load intel", "export PATH=/opt/intel:$PATH"],
          withGcc ⟨[], []⟩) ∧
      attempt (emit (some inVariable) [otherCompiler, unnamed]) (withGcc ⟨[], []⟩) =
        (.error (.invalidVariable "unnamed" "A=B"), withGcc ⟨[], []⟩) := by
  have hsame : (withGcc ⟨["cmake"], []⟩).machine.env = (withGcc ⟨[], []⟩).machine.env := rfl
  obtain ⟨hemit, -, -⟩ := emit_activate_eq_load envOnly_inVariable hsame
  have hloaded : (attempt (load (some inVariable) [otherCompiler]) (withGcc ⟨["cmake"], []⟩)).1.map
      (·.commands) =
        .ok ["module unload gcc", "module load intel", "export PATH=/opt/intel:$PATH"] := by
    decide +kernel
  have hfailed : (attempt (load (some inVariable) [otherCompiler, unnamed])
      (withGcc ⟨["cmake"], []⟩)).1.map (·.commands) =
        .error (.invalidVariable "unnamed" "A=B") := by
    decide +kernel
  exact ⟨envOnly_inVariable, hloaded ▸ hemit _, hfailed ▸ hemit _⟩

end Runtime

end SiteRuntime
