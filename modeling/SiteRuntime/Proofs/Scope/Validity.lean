import SiteRuntime.Proofs.Activation.Calls
import SiteRuntime.Proofs.Scope.Environment

/-!
# Calls that the platform takes

A call that sets or removes a variable under a bad name, or sets a bad value, ends the process, and
while a guard is dropped there is no way out of that. It never comes to it (`valid_of_run`). In a
process that starts with a valid environment every call of every run has a good name and a good
value, whatever is configured, and whatever the command of Lmod prints.

Runs are sequences of steps, each with the calls that it makes. A step is an operation of the
runtime, the use of a guard or of a snapshot that was had before, or something else that happens in
between. Guards and snapshots may be used in any order, again and again, and long after other
changes. The invariant `World.Valid` therefore has to speak of them too. They hold images of
environments that were there, and restoring an image makes calls for what is in the image and for
what is in the environment, so both have to be valid (`Snapshot.valid_of_mem_restoring`).
-/

namespace SiteRuntime.Scopes

open Stateful (left)

variable {μ : Type}

/-! ### Worlds -/

/-- The runtime, and what was handed out so far. -/
structure World (μ : Type) where
  /-- The runtime. -/
  runtime : Runtime μ
  /-- The guards of scopes that were entered. -/
  guards : List (Guard μ)
  /-- The snapshots that were taken. -/
  snapshots : List Snapshot

namespace World

/-- The process environment. -/
def env (w : World μ) : ProcessEnv := w.runtime.machine.env

/-- The calls of a procedure that starts here. -/
def callsOf {ε α : Type} (w : World μ) (p : Procedure μ ε α) : List Write :=
  p.calls w.runtime.machine

/-- Environments were activated for good. The snapshot from before is handed out. -/
def loaded (w : World μ) :
    EStateM.Result RuntimeError (Runtime μ) Activation.Loaded → World μ
  | .ok l rt => { w with runtime := rt, snapshots := l.before :: w.snapshots }
  | .error _ rt => { w with runtime := rt }

/-- A scope was entered. The guard is handed out. -/
def entered (w : World μ) : EStateM.Result RuntimeError (Runtime μ) (Guard μ) → World μ
  | .ok guard rt => { w with runtime := rt, guards := guard :: w.guards }
  | .error _ rt => { w with runtime := rt }

/-- **A valid world**: names and values are good in the process environment, and in every image of
it that can come back. -/
structure Valid (w : World μ) : Prop where
  env : w.env.Valid
  guards : ∀ before, .environment before ∈ w.guards → before.image.Valid
  snapshots : ∀ s ∈ w.snapshots, s.image.Valid

end World

/-! ### What a step may do -/

/-- **A step that the platform takes**: its calls are valid and are all that it does to the process
environment, and the images that it hands out are of the environment that it started from. -/
structure Taken (w : World μ) (calls : List Write) (w' : World μ) : Prop where
  valid_calls : ∀ c ∈ calls, c.Valid
  env_eq : w'.env = w.env.applyAll calls
  guards : ∀ before, .environment before ∈ w'.guards →
    .environment before ∈ w.guards ∨ before = .capture w.env
  snapshots : ∀ s ∈ w'.snapshots, s ∈ w.snapshots ∨ s = .capture w.env

theorem Taken.valid {w w' : World μ} {calls : List Write} (h : Taken w calls w')
    (hw : w.Valid) : w'.Valid where
  env := h.env_eq ▸ ProcessEnv.valid_applyAll hw.env h.valid_calls
  guards before hbefore := by
    rcases h.guards before hbefore with hold | rfl
    · exact hw.guards before hold
    · exact hw.env
  snapshots s hs := by
    rcases h.snapshots s hs with hold | rfl
    · exact hw.snapshots s hold
    · exact hw.env

/-- An action of the machine that is a procedure does to the runtime what its calls do. -/
theorem left_onto_exec {α : Type} (p : Procedure μ RuntimeError α) (rt : Runtime μ) :
    left (Runtime.onto p.exec rt) =
      { rt with machine := rt.machine.write (p.calls rt.machine) } := by
  rw [← p.left_exec, Runtime.onto]
  cases p.exec rt.machine <;> rfl

/-- Entering a scope by a procedure hands out an image of the environment that it started from, or
no image. -/
theorem taken_entered {ε α : Type} {w : World μ} (hw : w.Valid) {p : Procedure μ ε α}
    (hp : p.Safe) (guard : Guard μ) (failure : ε → RuntimeError) {enter : Runtime.Op μ (Guard μ)}
    (hguard : ∀ before, .environment before = guard → before = .capture w.env)
    (henter : enter w.runtime =
      match p.exec w.runtime.machine with
      | .ok _ m => .ok guard { w.runtime with machine := m }
      | .error e m => .error (failure e) { w.runtime with machine := m }) :
    Taken w (w.callsOf p) (w.entered (enter w.runtime)) := by
  have hcalls : ∀ c ∈ w.callsOf p, c.Valid := hp _ hw.env
  have hleft := p.left_exec w.runtime.machine
  rw [henter]
  cases h : p.exec w.runtime.machine with
  | ok a m =>
    rw [h, left] at hleft
    refine ⟨hcalls, congrArg Machine.env hleft, fun before hbefore => ?_, fun _ => .inl⟩
    rcases List.mem_cons.1 hbefore with hnew | hold
    · exact .inr (hguard before hnew)
    · exact .inl hold
  | error e m =>
    rw [h, left] at hleft
    exact ⟨hcalls, congrArg Machine.env hleft, fun _ => .inl, fun _ => .inl⟩

/-- Dropping the guard of search paths makes the calls of taking them out, also if that fails. -/
theorem drop_modules (s : ModuleSystem μ) (paths : List String) (rt : Runtime μ) :
    (Guard.modules s.backend paths).drop rt =
      { rt with machine := rt.machine.write ((s.commandOn "unuse" paths).calls rt.machine) } := by
  rw [← Procedure.left_exec, s.exec_removePaths, Guard.drop]
  cases s.backend.removePaths paths rt.machine <;> rfl

theorem taken_dropPaths {w : World μ} (hw : w.Valid) (s : ModuleSystem μ) (paths : List String) :
    Taken w (w.callsOf (s.commandOn "unuse" paths))
      { w with runtime := (Guard.modules s.backend paths).drop w.runtime } := by
  rw [drop_modules]
  exact ⟨s.safe_commandOn "unuse" paths _ hw.env, rfl, fun _ => .inl, fun _ => .inl⟩

/-- A valid image can be restored, by a guard or by hand. -/
theorem taken_restored {w : World μ} (hw : w.Valid) {before : Snapshot}
    (himage : before.image.Valid) :
    Taken w (before.restoring w.env)
      { w with runtime :=
          { w.runtime with machine := Activation.restored before w.runtime.machine } } :=
  ⟨Snapshot.valid_of_mem_restoring himage hw.env, rfl, fun _ => .inl, fun _ => .inl⟩

/-! ### Steps -/

section Steps

variable [Account]

/-- **A step**, with the calls that set and remove variables in it. A module system that is not
given is that of the current context. -/
inductive Step : World μ → List Write → World μ → Prop where
  | load {w : World μ} {b : Option (Backend μ)} {s : ModuleSystem μ}
      (hs : Runtime.backend b w.runtime = .ok s.backend w.runtime) (es : List Environment) :
      Step w (w.callsOf (s.load es)) (w.loaded (Runtime.load b es w.runtime))
  | emit {w : World μ} {b : Option (Backend μ)} {s : ModuleSystem μ}
      (hs : Runtime.backend b w.runtime = .ok s.backend w.runtime) (es : List Environment) :
      Step w (w.callsOf (s.emit es)) { w with runtime := left (Runtime.emit b es w.runtime) }
  /-- The scope of an environment is entered. -/
  | activate {w : World μ} {b : Option (Backend μ)} {s : ModuleSystem μ}
      (hs : Runtime.backend b w.runtime = .ok s.backend w.runtime) (modules : List String)
      (assignments : List (String × String)) :
      Step w (w.callsOf (s.activateScoped [⟨Guard.scopedName, modules, assignments⟩]))
        (w.entered ((Scope.environment b modules assignments).enter w.runtime))
  /-- The scope of directories that are searched for modules is entered. -/
  | use {w : World μ} {s : ModuleSystem μ}
      (hs : Runtime.backend none w.runtime = .ok s.backend w.runtime) (paths : List String) :
      Step w (w.callsOf (s.commandOn "use" paths)) (w.entered ((Scope.paths paths).enter w.runtime))
  | dropEnvironment {w : World μ} {before : Snapshot} (h : .environment before ∈ w.guards) :
      Step w (before.restoring w.env)
        { w with runtime := (Guard.environment before).drop w.runtime }
  | dropPaths {w : World μ} {s : ModuleSystem μ} {paths : List String}
      (h : .modules s.backend paths ∈ w.guards) :
      Step w (w.callsOf (s.commandOn "unuse" paths))
        { w with runtime := (Guard.modules s.backend paths).drop w.runtime }
  | capture (w : World μ) : Step w [] { w with snapshots := .capture w.env :: w.snapshots }
  | restore {w : World μ} {before : Snapshot} (h : before ∈ w.snapshots) :
      Step w (before.restoring w.env)
        { w with runtime :=
            { w.runtime with machine := Activation.restored before w.runtime.machine } }
  /-- A variable is set or removed by someone else, with a call that the platform took. -/
  | outside (w : World μ) {write : Write} (h : write.Valid) :
      Step w [write]
        { w with runtime := { w.runtime with machine := w.runtime.machine.write [write] } }
  /-- Anything that leaves the variables alone, such as switching the current context. -/
  | other (w : World μ) {rt : Runtime μ} (h : rt.machine.env = w.env) :
      Step w [] { w with runtime := rt }

/-- **A run**, with all its calls. -/
inductive Run : World μ → List Write → World μ → Prop where
  | nil (w : World μ) : Run w [] w
  | cons {w w₁ w₂ : World μ} {calls more : List Write} (h : Step w calls w₁)
      (rest : Run w₁ more w₂) : Run w (calls ++ more) w₂

theorem taken_emit {w : World μ} (hw : w.Valid) {b : Option (Backend μ)} {s : ModuleSystem μ}
    (hs : Runtime.backend b w.runtime = .ok s.backend w.runtime) (es : List Environment) :
    Taken w (w.callsOf (s.emit es)) { w with runtime := left (Runtime.emit b es w.runtime) } := by
  have hemit : Runtime.emit b es w.runtime = Runtime.onto (s.emit es).exec w.runtime := by
    rw [Runtime.emit, Stateful.bind_of_ok hs, s.exec_emit]
  rw [hemit, left_onto_exec]
  exact ⟨s.safe_emit es _ hw.env, rfl, fun _ => .inl, fun _ => .inl⟩

/-- Loading hands out an image of the environment that it started from. -/
theorem taken_load {w : World μ} (hw : w.Valid) {b : Option (Backend μ)} {s : ModuleSystem μ}
    (hs : Runtime.backend b w.runtime = .ok s.backend w.runtime) (es : List Environment) :
    Taken w (w.callsOf (s.load es)) (w.loaded (Runtime.load b es w.runtime)) := by
  have hload : Runtime.load b es w.runtime = Runtime.onto (s.load es).exec w.runtime := by
    rw [Runtime.load, Stateful.bind_of_ok hs, s.exec_load]
  have hleft := left_onto_exec (s.load es) w.runtime
  rw [← hload] at hleft
  have hcalls : ∀ c ∈ w.callsOf (s.load es), c.Valid := s.safe_load es _ hw.env
  cases h : Runtime.load b es w.runtime with
  | ok l rt =>
    rw [h, left] at hleft
    obtain ⟨found, m, -, hl, -⟩ := Runtime.load_eq_ok_iff.1 h
    have hbefore : l.before = .capture w.env := (Activation.load_eq_ok_iff.1 hl).1
    refine ⟨hcalls, hleft ▸ rfl, fun _ => .inl, fun image himage => ?_⟩
    rcases List.mem_cons.1 himage with rfl | hold
    · exact .inr hbefore
    · exact .inl hold
  | error e rt =>
    rw [h, left] at hleft
    exact ⟨hcalls, hleft ▸ rfl, fun _ => .inl, fun _ => .inl⟩

theorem taken_activate {w : World μ} (hw : w.Valid) {b : Option (Backend μ)} {s : ModuleSystem μ}
    (hs : Runtime.backend b w.runtime = .ok s.backend w.runtime) (modules : List String)
    (assignments : List (String × String)) :
    Taken w (w.callsOf (s.activateScoped [⟨Guard.scopedName, modules, assignments⟩]))
      (w.entered ((Scope.environment b modules assignments).enter w.runtime)) := by
  refine taken_entered hw (s.safe_activateScoped _) (.environment (.capture w.env)) id
    (fun before h => by cases h; rfl) ?_
  rw [Scope.enter, Stateful.bind_of_ok hs, s.exec_activateScoped]
  cases h : Activation.activateAll s.backend [⟨Guard.scopedName, modules, assignments⟩]
      w.runtime.machine with
  | ok commands m =>
    have hactivate : Guard.activate s.backend modules assignments w.runtime =
        .ok ⟨.environment (.capture w.env), ⟨Guard.scopedName, modules, assignments⟩, commands⟩
          { w.runtime with machine := m } := by
      simp only [Guard.activate, h]
      rfl
    exact Stateful.bind_of_ok hactivate
  | error e m =>
    have hactivate : Guard.activate s.backend modules assignments w.runtime =
        .error e
          { w.runtime with machine := Activation.restored (.capture w.env) m } := by
      simp only [Guard.activate, h]
      rfl
    exact Stateful.bind_of_error hactivate

theorem taken_use {w : World μ} (hw : w.Valid) {s : ModuleSystem μ}
    (hs : Runtime.backend none w.runtime = .ok s.backend w.runtime) (paths : List String) :
    Taken w (w.callsOf (s.commandOn "use" paths))
      (w.entered ((Scope.paths paths).enter w.runtime)) := by
  refine taken_entered hw (s.safe_commandOn _ _) (.modules s.backend paths) .modules
    (fun before h => nomatch h) ?_
  rcases Runtime.running_cases w.runtime with ⟨r, hr, hrunning⟩ | ⟨hr, -⟩
  · have hbackend : r.context.backend = s.backend := by
      rw [Runtime.backend_none, hr] at hs
      injection hs
    rw [Scope.enter, Guard.usePaths, Stateful.bind_of_ok hrunning, hbackend, s.exec_addPaths]
    cases h : s.backend.addPaths paths w.runtime.machine with
    | ok _ m =>
      have hadded : Runtime.onto (EStateM.adaptExcept .modules (s.backend.addPaths paths))
          w.runtime = .ok () { w.runtime with machine := m } := by
        rw [Runtime.onto, EStateM.adaptExcept, h]
      exact Stateful.bind_of_ok hadded
    | error e m =>
      have hadded : Runtime.onto (EStateM.adaptExcept .modules (s.backend.addPaths paths))
          w.runtime = .error (.modules e) { w.runtime with machine := m } := by
        rw [Runtime.onto, EStateM.adaptExcept, h]
      exact Stateful.bind_of_error hadded
  · rw [Runtime.backend_none, hr] at hs
    cases hs

/-- **Every step is taken** in a valid world. -/
theorem Step.taken {w w' : World μ} {calls : List Write} (h : Step w calls w') (hw : w.Valid) :
    Taken w calls w' := by
  cases h with
  | load hs es => exact taken_load hw hs es
  | emit hs es => exact taken_emit hw hs es
  | activate hs modules assignments => exact taken_activate hw hs modules assignments
  | use hs paths => exact taken_use hw hs paths
  | dropEnvironment hheld => exact taken_restored hw (hw.guards _ hheld)
  | dropPaths _ => exact taken_dropPaths hw _ _
  | capture =>
    exact ⟨List.forall_mem_nil _, rfl, fun _ => .inl, fun s hs => (List.mem_cons.1 hs).symm⟩
  | restore hheld => exact taken_restored hw (hw.snapshots _ hheld)
  | outside hwrite =>
    exact ⟨fun c hc => List.mem_singleton.1 hc ▸ hwrite, rfl, fun _ => .inl, fun _ => .inl⟩
  | other henv => exact ⟨List.forall_mem_nil _, henv, fun _ => .inl, fun _ => .inl⟩

/-! ### Runs -/

/-- **No call is refused.** In every run from a valid world each call that sets or removes a
variable has a good name and a good value. The calls are all that happens to the process
environment, so it is valid after each of them, and at the end so are all images that were handed
out. -/
theorem valid_of_run {w w' : World μ} {calls : List Write} (h : Run w calls w') (hw : w.Valid) :
    (∀ c ∈ calls, c.Valid) ∧ (∀ made, made <+: calls → (w.env.applyAll made).Valid) ∧
      w'.env = w.env.applyAll calls ∧ w'.Valid := by
  have hrun : (∀ c ∈ calls, c.Valid) ∧ w'.env = w.env.applyAll calls ∧ w'.Valid := by
    induction h with
    | nil w => exact ⟨List.forall_mem_nil _, rfl, hw⟩
    | @cons w w₁ w₂ calls more hstep _ ih =>
      have htaken := hstep.taken hw
      obtain ⟨hmore, henv, hvalid⟩ := ih (htaken.valid hw)
      refine ⟨List.forall_mem_append.2 ⟨htaken.valid_calls, hmore⟩, ?_, hvalid⟩
      rw [henv, htaken.env_eq, ProcessEnv.applyAll_append]
  obtain ⟨hcalls, henv, hvalid⟩ := hrun
  refine ⟨hcalls, fun made hmade => ?_, henv, hvalid⟩
  exact ProcessEnv.valid_applyAll hw.env fun c hc => hcalls c (hmade.subset hc)

end Steps

/-- A command that prints assignments and removals under bad names beside good ones, and a value
with a NUL in it. -/
def careless : Lmod Unit :=
  ⟨Bytes.ofText "lmod", "8.7", fun _ _ => .ok
    ⟨true, Bytes.ofText "export CC=gcc; CXX=\"a\x00b\"; 9=x; =y; unset PATH A=B \x00;", []⟩⟩

/-- An environment of which the last name is none. -/
def nameless : Environment := ⟨"nameless", ["gcc"], [("ROOT", "/opt"), ("", "x")]⟩

/-- A process with one variable and nothing handed out. -/
def freshWorld : World Unit :=
  ⟨.onMachine ⟨.ofList [(Bytes.ofText "PATH", Bytes.ofText "/bin")], .empty, [], ()⟩, [], []⟩

attribute [local instance] Account.unlisted

/-- Activates an environment for a scope, fails with another one half-way, and drops the guard. -/
theorem valid_of_run_careless :
    ∃ calls w', Run freshWorld calls w' ∧ freshWorld.Valid ∧ (∀ c ∈ calls, c.Valid) ∧
      w'.Valid ∧ w'.env = freshWorld.env ∧ calls ≠ [] := by
  have hstart : freshWorld.Valid :=
    ⟨by decide +kernel, fun _ h => (List.not_mem_nil h).elim, List.forall_mem_nil _⟩
  let lmod : ModuleSystem Unit := .lmod careless
  let b : Option (Backend Unit) := some lmod.backend
  let enter := (Scope.environment b ["gcc"] [("ROOT", "/opt")]).enter
  have hok : (match enter freshWorld.runtime with
      | .ok _ _ => true
      | .error _ _ => false) = true := by decide +kernel
  have hcalls : freshWorld.callsOf
      (lmod.activateScoped [⟨Guard.scopedName, ["gcc"], [("ROOT", "/opt")]⟩]) ≠ [] := by
    decide +kernel
  rcases enter_environment_cases b ["gcc"] [("ROOT", "/opt")] freshWorld.runtime with
    ⟨m, h⟩ | ⟨e, m, h, -⟩
  · let inside := freshWorld.entered (enter freshWorld.runtime)
    let failed := inside.loaded (Runtime.load b [nameless] inside.runtime)
    have hheld : .environment (.capture freshWorld.env) ∈ failed.guards := by
      have hinside : .environment (.capture freshWorld.env) ∈ inside.guards := by
        simp only [inside, enter, h]
        exact List.mem_cons_self
      simp only [failed]
      cases Runtime.load b [nameless] inside.runtime <;> exact hinside
    have hrun : Run freshWorld _ _ := .cons (.activate rfl ["gcc"] [("ROOT", "/opt")])
      (.cons (.load rfl [nameless]) (.cons (.dropEnvironment hheld) (.nil _)))
    obtain ⟨hvalid, -, -, hend⟩ := valid_of_run hrun hstart
    exact ⟨_, _, hrun, hstart, hvalid, hend, Guard.env_drop_environment _ _,
      fun hnil => hcalls (List.append_eq_nil_iff.1 hnil).1⟩
  · simp only [enter, h] at hok
    cases hok

end SiteRuntime.Scopes
