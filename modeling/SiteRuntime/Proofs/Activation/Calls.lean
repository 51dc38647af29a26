import SiteRuntime.Lmod.Backend
import SiteRuntime.Runtime.Guard
import SiteRuntime.Proofs.Environment.Procedure
import SiteRuntime.Proofs.Environment.Text

/-!
# The calls of an activation

Three places set and remove variables: an activation for the variables of an environment, Lmod for
the statements that its command printed, and a snapshot that is restored. What they are given comes
from configurations, from another program, and from the environment itself. Each has a check of its
own, and the checks are enough: from a valid process environment on the platform takes all calls
(`safe_load` and the others).

Each operation stands here a second time as a procedure, which has its calls, and is shown to do
what the operation does (`exec_load` and the others). Module systems are those that a configuration
can name. For Lmod nothing is asked of the command, so it may print anything.
-/

namespace SiteRuntime

open Stateful (left answer)

variable {μ : Type}

/-! ### What is written -/

/-- A statement asks for nothing that the platform does not take. -/
theorem Lmod.Statement.valid_of_mem_writes {statement : Lmod.Statement} :
    ∀ w ∈ statement.writes, w.Valid := by
  cases statement with
  | set name value =>
    rw [writes]
    split
    next h =>
      obtain ⟨hname, hvalue⟩ := Bool.and_eq_true_iff.1 h
      intro w hw
      rw [List.mem_singleton.1 hw]
      exact ⟨isVariableName_iff.1 hname, isVariableValue_iff.1 hvalue⟩
    next => exact List.forall_mem_nil _
  | unset names =>
    intro w hw
    obtain ⟨name, hname, rfl⟩ := List.mem_map.1 hw
    exact isVariableName_iff.1 (List.mem_filter.1 hname).2

/-- Whatever is printed, what is written for it is valid. -/
theorem Lmod.valid_of_mem_writesOf {stdout : String} : ∀ w ∈ Lmod.writesOf stdout, w.Valid := by
  intro w hw
  obtain ⟨statement, -, hstatement⟩ := List.mem_flatMap.1 hw
  exact Lmod.Statement.valid_of_mem_writes w hstatement

/-- Restoring a valid image in a valid environment writes names and values of theirs. -/
theorem Snapshot.valid_of_mem_restoring {s : Snapshot} {e : ProcessEnv} (hs : s.image.Valid)
    (he : e.Valid) : ∀ w ∈ s.restoring e, w.Valid := by
  intro w hw
  rcases List.mem_append.1 hw with hw | hw
  · -- what is removed is in the environment
    obtain ⟨name, hname, rfl⟩ := List.mem_map.1 hw
    obtain ⟨value, hvalue⟩ := ProcessEnv.mem_names_iff.1 (List.mem_filter.1 hname).1
    exact (he name value hvalue).1
  · -- what is set is in the image
    obtain ⟨⟨name, value⟩, hassigned, rfl⟩ := List.mem_map.1 hw
    exact hs name value (ProcessEnv.mem_toList_iff.1 (List.mem_filter.1 hassigned).1)

/-! ### Module systems -/

namespace Fallible

variable {ε ε' α β : Type}

theorem bind_eq_ok_iff {x : Except ε α} {f : α → Except ε β} {b : β} :
    (x >>= f) = .ok b ↔ ∃ a, x = .ok a ∧ f a = .ok b := by
  cases x with
  | ok a => simp [bind, Except.bind]
  | error e => simp [bind, Except.bind]

theorem eq_ok_of_mapError {g : ε → ε'} {x : Except ε α} {a : α} (h : x.mapError g = .ok a) :
    x = .ok a := by
  cases x with
  | ok b =>
    cases h
    rfl
  | error e => cases h

end Fallible

/-- What a system has of the configuration that it was read off: its name, its module system and its
partitions. -/
theorem System.options_of_ofConfig {backendNamed : String → Except ModuleError (Backend μ)}
    {c : SiteConfig} {system : System μ} (h : System.ofConfig backendNamed c = .ok system) :
    c.getText (optionPath "name") = .ok (some system.name) ∧
      (∃ name, System.backendName c = .ok name ∧ backendNamed name = .ok system.backend) ∧
      ∃ entries, c.get (optionPath "partitions") = .ok entries ∧
        Partition.listOfJson entries = .ok system.partitions := by
  unfold System.ofConfig at h
  obtain ⟨found, hfound, h⟩ := Fallible.bind_eq_ok_iff.1 h
  cases found with
  | none => cases h
  | some name =>
    obtain ⟨descr, -, h⟩ := Fallible.bind_eq_ok_iff.1 h
    obtain ⟨hostnames, -, h⟩ := Fallible.bind_eq_ok_iff.1 h
    obtain ⟨backendName, hname, h⟩ := Fallible.bind_eq_ok_iff.1 h
    obtain ⟨backend, hbackend, h⟩ := Fallible.bind_eq_ok_iff.1 h
    obtain ⟨modules, -, h⟩ := Fallible.bind_eq_ok_iff.1 h
    obtain ⟨assignments, -, h⟩ := Fallible.bind_eq_ok_iff.1 h
    obtain ⟨entries, hentries, h⟩ := Fallible.bind_eq_ok_iff.1 h
    obtain ⟨partitions, hpartitions, h⟩ := Fallible.bind_eq_ok_iff.1 h
    cases h
    exact ⟨Fallible.eq_ok_of_mapError hfound,
      ⟨backendName, Fallible.eq_ok_of_mapError hname, Fallible.eq_ok_of_mapError hbackend⟩,
      entries, Fallible.eq_ok_of_mapError hentries, Fallible.eq_ok_of_mapError hpartitions⟩

/-- A module system that a configuration can name. -/
inductive ModuleSystem (μ : Type) where
  | nomod
  | lmod (l : Lmod μ)

namespace ModuleSystem

/-- The module system as the runtime uses it. -/
def backend : ModuleSystem μ → Backend μ
  | nomod => .noModules
  | lmod l => l.backend

/-- No other module system is ever made from a configuration. -/
theorem exists_of_ofName {lmodAt : Bytes → Lmod.Program μ} {name : String} {m : Machine μ}
    {b : Backend μ} (h : Backend.ofName lmodAt name m = .ok b) :
    ∃ s : ModuleSystem μ, b = s.backend := by
  unfold Backend.ofName at h
  split at h
  next =>
    cases h
    exact ⟨nomod, rfl⟩
  next =>
    split at h
    next command _ =>
      cases hl : Lmod.connect command (lmodAt command) m with
      | error e =>
        rw [hl] at h
        cases h
      | ok l =>
        rw [hl] at h
        cases h
        exact ⟨lmod l, rfl⟩
    next => cases h
  next => cases h

/-- Every context that is built has one of these module systems. -/
theorem exists_of_buildContext {host : Host μ} {start : Moment} {c : SiteConfig} {m : Machine μ}
    {context : Context μ} (h : Runtime.buildContext host start c m = .ok context) :
    ∃ s : ModuleSystem μ, context.backend = s.backend := by
  rw [Runtime.buildContext, Context.ofConfig] at h
  cases hsystem : System.ofConfig (fun name => Backend.ofName host.lmodAt name m) c with
  | error e =>
    rw [hsystem] at h
    cases h
  | ok system =>
    rw [hsystem] at h
    cases h
    obtain ⟨-, ⟨name, -, hbackend⟩, -⟩ := System.options_of_ofConfig hsystem
    exact exists_of_ofName hbackend

/-- A command to the module system, of which the statements that it prints are applied. -/
def command : ModuleSystem μ → List String → Procedure μ ModuleError Unit
  | nomod, _ => pure ()
  | lmod l, args => .look fun m =>
    match l.call args m with
    | .error e => .stop (.error e)
    | .ok (stdout, _) => .callAll (Lmod.writesOf stdout)

/-- A command on a list of paths; an empty list needs none. -/
def commandOn (s : ModuleSystem μ) (verb : String) (paths : List String) :
    Procedure μ ModuleError Unit :=
  if paths.isEmpty then pure () else s.command (verb :: paths)

/-- The conflicts declared for a module. -/
def conflicts : ModuleSystem μ → String → Procedure μ ModuleError (List String)
  | nomod, _ => pure []
  | lmod l, name => .look fun m =>
    match l.call ["show", name] m with
    | .error e => .stop (.error e)
    | .ok (_, stderr) => pure (Lmod.conflictsIn stderr.toList)

/-- Unloads what conflicts among the given loaded modules. -/
def unloadConflicts (s : ModuleSystem μ) (conflicts : List String) :
    List String → List String → Procedure μ ModuleError (List String)
  | [], unloaded => pure unloaded
  | l :: rest, unloaded =>
    if Backend.isConflict conflicts l && !unloaded.contains l then do
      s.command ["unload", l]
      s.unloadConflicts conflicts rest (unloaded ++ [l])
    else s.unloadConflicts conflicts rest unloaded

/-- Loads a module and first unloads what conflicts with it. -/
def loadModule (s : ModuleSystem μ) (name : String) : Procedure μ ModuleError (List String) :=
  .look fun m =>
    if s.backend.isLoaded m name then pure []
    else do
      let conflicts ← s.conflicts name
      .look fun m => do
        let unloaded ← s.unloadConflicts conflicts (s.backend.loaded m) []
        s.command ["load", name]
        return unloaded

variable (s : ModuleSystem μ)

theorem exec_command_lmod (l : Lmod μ) (args : List String) :
    ((lmod l).command args).exec = l.execute args := by
  funext m
  rw [command, Procedure.exec, Lmod.execute]
  cases l.call args m with
  | error e => rfl
  | ok out => exact Procedure.exec_callAll _ m

theorem exec_command_load (name : String) :
    (s.command ["load", name]).exec = s.backend.load name := by
  cases s with
  | nomod => rfl
  | lmod l => exact exec_command_lmod l _

theorem exec_command_unload (name : String) :
    (s.command ["unload", name]).exec = s.backend.unload name := by
  cases s with
  | nomod => rfl
  | lmod l => exact exec_command_lmod l _

theorem exec_conflicts (name : String) : (s.conflicts name).exec = s.backend.conflicts name := by
  cases s with
  | nomod => rfl
  | lmod l =>
    funext m
    simp only [conflicts, Procedure.exec, backend, Lmod.backend, Lmod.conflictsOf]
    cases l.call ["show", name] m <;> rfl

theorem exec_commandOn_lmod (l : Lmod μ) (verb : String) (paths : List String) :
    ((lmod l).commandOn verb paths).exec = l.executeOn verb paths := by
  rw [commandOn, Lmod.executeOn]
  split
  · rfl
  · exact exec_command_lmod l _

theorem exec_commandOn_nomod (verb : String) (paths : List String) :
    ((nomod : ModuleSystem μ).commandOn verb paths).exec = pure () := by
  rw [commandOn]
  split <;> rfl

theorem exec_addPaths (paths : List String) :
    (s.commandOn "use" paths).exec = s.backend.addPaths paths := by
  cases s with
  | nomod => exact exec_commandOn_nomod _ paths
  | lmod l => exact exec_commandOn_lmod l _ paths

theorem exec_removePaths (paths : List String) :
    (s.commandOn "unuse" paths).exec = s.backend.removePaths paths := by
  cases s with
  | nomod => exact exec_commandOn_nomod _ paths
  | lmod l => exact exec_commandOn_lmod l _ paths

theorem exec_unloadConflicts (conflicts ls unloaded : List String) :
    (s.unloadConflicts conflicts ls unloaded).exec =
      s.backend.unloadConflicts conflicts ls unloaded := by
  induction ls generalizing unloaded with
  | nil => rfl
  | cons l ls ih =>
    rw [unloadConflicts, Backend.unloadConflicts]
    split
    · simp only [Procedure.exec_bind, exec_command_unload, ih]
    · exact ih unloaded

theorem exec_loadModule (name : String) :
    (s.loadModule name).exec = s.backend.loadModule name true := by
  funext m
  rw [loadModule, Procedure.exec, Backend.loadModule, Stateful.get_bind]
  split
  · rfl
  · simp only [Procedure.exec_bind, Procedure.exec_look, exec_conflicts, exec_unloadConflicts,
      exec_command_load, if_true]
    rfl

end ModuleSystem

/-! ### Activations -/

namespace Procedure

/-- Brings the process environment back to an image. -/
def restore {ε : Type} (before : Snapshot) : Procedure μ ε Unit :=
  look fun m => callAll (before.restoring m.env)

theorem exec_restore {ε : Type} (before : Snapshot) (m : Machine μ) :
    (restore before : Procedure μ ε Unit).exec m = .ok () (Activation.restored before m) :=
  exec_callAll _ m

variable [Account]

/-- Sets a variable to a value, expanded and checked as it is. -/
def setVariable (environment name value : String) : Procedure μ RuntimeError Unit :=
  look fun m =>
    if isVariableName name && isVariableValue (m.env.expand value) then
      call (.set (Bytes.ofText name) (Bytes.ofText (m.env.expand value))) (pure ())
    else stop (.error (.invalidVariable environment name))

/-- Sets variables in order. -/
def setVariables (environment : String) :
    List (String × String) → Procedure μ RuntimeError (List String)
  | [] => pure []
  | (name, value) :: rest => do
    setVariable environment name value
    let more ← setVariables environment rest
    return Activation.exportCommand name value :: more

theorem exec_setVariable (environment name value : String) :
    (setVariable environment name value : Procedure μ _ _).exec =
      Activation.setVariable environment name value := by
  funext m
  rw [setVariable, exec, Activation.setVariable]
  split <;> rfl

theorem exec_setVariables (environment : String) (assignments : List (String × String)) :
    (setVariables environment assignments : Procedure μ _ _).exec =
      Activation.setVariables environment assignments := by
  induction assignments with
  | nil => rfl
  | cons a rest ih =>
    simp only [setVariables, Activation.setVariables, exec_bind, exec_setVariable, ih]
    rfl

end Procedure

namespace ModuleSystem

/-- Loads modules in order. -/
def loadModules (s : ModuleSystem μ) (environment : String) :
    List String → Procedure μ RuntimeError (List String)
  | [] => pure []
  | module :: rest => do
    let unloaded ← (s.loadModule module).mapError (.moduleLoad environment module)
    let more ← s.loadModules environment rest
    return Activation.moduleCommands s.backend module unloaded ++ more

theorem exec_loadModules (s : ModuleSystem μ) (environment : String) (modules : List String) :
    (s.loadModules environment modules).exec =
      Activation.loadModules s.backend environment modules := by
  induction modules with
  | nil => rfl
  | cons module rest ih =>
    simp only [loadModules, Activation.loadModules, Activation.loading, Procedure.exec_bind,
      Procedure.exec_mapError, exec_loadModule, ih]
    rfl

variable [Account]

/-- Activates one environment. -/
def activate (s : ModuleSystem μ) (e : Environment) : Procedure μ RuntimeError (List String) := do
  let modules ← s.loadModules e.name e.modules
  let assignments ← .setVariables e.name e.assignments
  return modules ++ assignments

/-- Activates environments in order. -/
def activateAll (s : ModuleSystem μ) : List Environment → Procedure μ RuntimeError (List String)
  | [] => pure []
  | e :: rest => do
    let commands ← s.activate e
    let more ← s.activateAll rest
    return commands ++ more

/-- Activates environments for good. -/
def load (s : ModuleSystem μ) (es : List Environment) :
    Procedure μ RuntimeError Activation.Loaded :=
  .look fun m => do
    let commands ← s.activateAll es
    return { before := .capture m.env, commands }

/-- Activates environments and takes everything back. -/
def emit (s : ModuleSystem μ) (es : List Environment) : Procedure μ RuntimeError (List String) :=
  .look fun m => do
    let result ← (s.activateAll es).attempt
    .restore (.capture m.env)
    .stop result

/-- Activates environments and takes everything back if that fails. -/
def activateScoped (s : ModuleSystem μ) (es : List Environment) :
    Procedure μ RuntimeError (List String) :=
  .look fun m => do
    match ← (s.activateAll es).attempt with
    | .ok commands => return commands
    | .error e =>
      .restore (.capture m.env)
      .stop (.error e)

variable (s : ModuleSystem μ)

theorem exec_activate (e : Environment) :
    (s.activate e).exec = Activation.activate s.backend e := by
  simp only [activate, Activation.activate, Procedure.exec_bind, exec_loadModules,
    Procedure.exec_setVariables]
  rfl

theorem exec_activateAll (es : List Environment) :
    (s.activateAll es).exec = Activation.activateAll s.backend es := by
  induction es with
  | nil => rfl
  | cons e rest ih =>
    simp only [activateAll, Activation.activateAll, Procedure.exec_bind, exec_activate, ih]
    rfl

theorem exec_load (es : List Environment) :
    (s.load es).exec = Activation.load s.backend es := by
  rw [load, Procedure.exec_look, Activation.load]
  simp only [Procedure.exec_bind, exec_activateAll]
  rfl

theorem exec_emit (es : List Environment) :
    (s.emit es).exec = Activation.emit s.backend es := by
  funext m
  rw [emit, Procedure.exec, Activation.emit, Procedure.exec_bind,
    Stateful.bind_of_ok (Procedure.exec_attempt _ m), Procedure.exec_bind,
    Stateful.bind_of_ok (Procedure.exec_restore _ _), exec_activateAll]
  cases Activation.activateAll s.backend es m <;> rfl

theorem exec_activateScoped (es : List Environment) (m : Machine μ) :
    (s.activateScoped es).exec m =
      match Activation.activateAll s.backend es m with
      | .ok commands m' => .ok commands m'
      | .error e m' => .error e (Activation.restored (.capture m.env) m') := by
  rw [activateScoped, Procedure.exec, Procedure.exec_bind,
    Stateful.bind_of_ok (Procedure.exec_attempt _ m), exec_activateAll]
  cases Activation.activateAll s.backend es m with
  | ok commands m' => rfl
  | error e m' =>
    change ((Procedure.restore (.capture m.env) >>= fun _ => .stop (.error e)).exec m') = _
    rw [Procedure.exec_bind, Stateful.bind_of_ok (Procedure.exec_restore _ _)]
    rfl

end ModuleSystem

/-! ### Safe calls -/

namespace Procedure

theorem safe_restore {ε : Type} {before : Snapshot} (h : before.image.Valid) :
    Safe (restore before : Procedure μ ε Unit) := by
  refine safe_look fun m hm => ?_
  rw [SafeAt, calls_callAll]
  exact Snapshot.valid_of_mem_restoring h hm

variable [Account]

/-- A variable is set only after the platform's rules have been checked. -/
theorem safe_setVariable (environment name value : String) :
    Safe (setVariable environment name value : Procedure μ _ _) := by
  refine safe_look fun m _ => ?_
  split
  next h =>
    obtain ⟨hname, hvalue⟩ := Bool.and_eq_true_iff.1 h
    refine List.forall_mem_cons.2 ⟨?_, List.forall_mem_nil _⟩
    exact ⟨isVariableName_iff.1 hname, isVariableValue_iff.1 hvalue⟩
  next => exact List.forall_mem_nil _

theorem safe_setVariables (environment : String) (assignments : List (String × String)) :
    Safe (setVariables environment assignments : Procedure μ _ _) := by
  induction assignments with
  | nil => exact safe_pure []
  | cons a rest ih =>
    exact (safe_setVariable environment a.1 a.2).bind fun _ => ih.bind fun _ => safe_pure _

end Procedure

namespace ModuleSystem

open Procedure

variable (s : ModuleSystem μ)

theorem safe_command (args : List String) : (s.command args).Safe := by
  cases s with
  | nomod => exact safe_pure ()
  | lmod l =>
    refine safe_look fun m hm => ?_
    cases l.call args m with
    | error e => exact safe_stop _ m hm
    | ok out => exact safe_callAll Lmod.valid_of_mem_writesOf m hm

theorem safe_commandOn (verb : String) (paths : List String) : (s.commandOn verb paths).Safe := by
  rw [commandOn]
  split
  · exact safe_pure ()
  · exact s.safe_command _

theorem safe_conflicts (name : String) : (s.conflicts name).Safe := by
  cases s with
  | nomod => exact safe_pure []
  | lmod l =>
    refine safe_look fun m hm => ?_
    cases l.call ["show", name] m <;> exact safe_stop _ m hm

theorem safe_unloadConflicts (conflicts ls unloaded : List String) :
    (s.unloadConflicts conflicts ls unloaded).Safe := by
  induction ls generalizing unloaded with
  | nil => exact safe_pure unloaded
  | cons l ls ih =>
    rw [unloadConflicts]
    split
    · exact (s.safe_command _).bind fun _ => ih _
    · exact ih unloaded

theorem safe_loadModule (name : String) : (s.loadModule name).Safe := by
  refine safe_look fun m hm => ?_
  split
  · exact safe_pure [] m hm
  · refine SafeAt.bind hm (s.safe_conflicts name m hm) fun conflicts => ?_
    refine safe_look fun m hm => ?_
    refine SafeAt.bind hm (s.safe_unloadConflicts conflicts _ [] m hm) fun unloaded => ?_
    exact (s.safe_command _).bind fun _ => safe_pure unloaded

theorem safe_loadModules (environment : String) (modules : List String) :
    (s.loadModules environment modules).Safe := by
  induction modules with
  | nil => exact safe_pure []
  | cons module rest ih =>
    exact ((s.safe_loadModule module).mapError _).bind fun _ => ih.bind fun _ => safe_pure _

variable [Account]

theorem safe_activateAll (es : List Environment) : (s.activateAll es).Safe := by
  have hactivate : ∀ e, (s.activate e).Safe := fun e =>
    (s.safe_loadModules e.name e.modules).bind fun _ =>
      (safe_setVariables e.name e.assignments).bind fun _ => safe_pure _
  induction es with
  | nil => exact safe_pure []
  | cons e rest ih => exact (hactivate e).bind fun _ => ih.bind fun _ => safe_pure _

theorem safe_load (es : List Environment) : (s.load es).Safe :=
  safe_look fun m hm => (s.safe_activateAll es).bind (fun _ => safe_pure _) m hm

/-- What is restored in the end is the image of a valid environment. -/
theorem safe_emit (es : List Environment) : (s.emit es).Safe := by
  refine safe_look fun m hm => ?_
  have hrestore : ∀ result, Safe (Procedure.restore (.capture m.env) >>= fun _ =>
      (stop result : Procedure μ RuntimeError (List String))) := fun result =>
    (safe_restore hm).bind fun _ => safe_stop result
  exact (s.safe_activateAll es).attempt.bind hrestore m hm

theorem safe_activateScoped (es : List Environment) : (s.activateScoped es).Safe := by
  refine safe_look fun m hm => ?_
  refine SafeAt.bind hm ((s.safe_activateAll es).attempt m hm) fun result => ?_
  cases result with
  | ok commands => exact safe_pure commands
  | error e => exact (safe_restore hm).bind fun _ => safe_stop (.error e)

end ModuleSystem

end SiteRuntime
