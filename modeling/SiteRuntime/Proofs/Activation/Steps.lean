import SiteRuntime.Activation

/-!
# An activation step by step

An activation goes through environments, and in each through modules and then variables, and it may
be over in the middle of any of these. Here it is told as one list of steps (`stepsOf`): to load a
module, or to assign a variable, for some environment. What a step does (`Takes`) and how it fails
(`Fails`) is said beside the operations, in terms of the module system and of the process
environment as the steps before have left it.

An activation then is the run of its steps from left to right (`activateAll_eq_runSteps`). It
succeeds if every step is taken in its turn, and it fails with the first step that does not succeed,
in the state that this step leaves (`runSteps_eq_ok_iff`, `runSteps_eq_error_iff`). That an
activation of more environments goes on where that of the first of them has ended follows from the
list alone.
-/

namespace SiteRuntime.Activation

open Stateful (left)

variable {μ : Type}

/-! ### Steps -/

/-- One step of an activation. -/
inductive Step where
  /-- A module is loaded for an environment. -/
  | load (environment module : String)
  /-- A variable is assigned for an environment. -/
  | assign (environment name value : String)
  deriving DecidableEq

/-- Whether a step assigns the variable of a name. -/
def Step.Assigns (n : Bytes) : Step → Prop
  | load _ _ => False
  | assign _ name _ => Bytes.ofText name = n

/-- The steps of one environment: all modules, then all variables. -/
def stepsOfOne (e : Environment) : List Step :=
  e.modules.map (.load e.name) ++ e.assignments.map fun a => .assign e.name a.1 a.2

/-- The steps of environments in order. -/
def stepsOf (es : List Environment) : List Step := es.flatMap stepsOfOne

theorem stepsOf_append (es more : List Environment) :
    stepsOf (es ++ more) = stepsOf es ++ stepsOf more := List.flatMap_append

variable [Account]

/-- Carries a step out. The result is the commands that do the same. -/
def Step.run (b : Backend μ) : Step → Action μ RuntimeError (List String)
  | load environment module => do
    let unloaded ← loading environment module (b.loadModule module true)
    return moduleCommands b module unloaded
  | assign environment name value => do
    setVariable environment name value
    return [exportCommand name value]

/-- Carries steps out from left to right. -/
def runSteps (b : Backend μ) : List Step → Action μ RuntimeError (List String)
  | [] => pure []
  | step :: rest => do
    let first ← step.run b
    let more ← runSteps b rest
    return first ++ more

/-- Some steps and then others. -/
theorem runSteps_append (b : Backend μ) (steps others : List Step) :
    runSteps b (steps ++ others) = do
      let first ← runSteps b steps
      let more ← runSteps b others
      return first ++ more := by
  induction steps with
  | nil =>
    rw [List.nil_append, runSteps, pure_bind]
    exact (bind_pure _).symm
  | cons step rest ih =>
    rw [List.cons_append, runSteps, runSteps, ih]
    simp only [bind_assoc, pure_bind, List.append_assoc]

/-! ### An activation is the run of its steps -/

theorem loadModules_eq_runSteps (b : Backend μ) (environment : String) (modules : List String) :
    loadModules b environment modules = runSteps b (modules.map (.load environment)) := by
  induction modules with
  | nil => rfl
  | cons module rest ih => simp [loadModules, runSteps, Step.run, ih]

theorem setVariables_eq_runSteps (b : Backend μ) (environment : String)
    (assignments : List (String × String)) :
    setVariables environment assignments =
      runSteps b (assignments.map fun a => .assign environment a.1 a.2) := by
  induction assignments with
  | nil => rfl
  | cons a rest ih => simp [setVariables, runSteps, Step.run, ih]

/-- **An activation is the run of its steps.** -/
theorem activateAll_eq_runSteps (b : Backend μ) (es : List Environment) :
    activateAll b es = runSteps b (stepsOf es) := by
  induction es with
  | nil => rfl
  | cons e rest ih =>
    have hone : activate b e = runSteps b (stepsOfOne e) := by
      rw [activate, stepsOfOne, runSteps_append, loadModules_eq_runSteps,
        setVariables_eq_runSteps b]
    have hsteps : stepsOf (e :: rest) = stepsOfOne e ++ stepsOf rest := List.flatMap_cons
    rw [activateAll, hone, ih, hsteps, runSteps_append]

/-! ### What a step does -/

/-- **A step is taken**: from one machine to another, and with the commands that do the same. -/
inductive Takes (b : Backend μ) : Step → Machine μ → List String → Machine μ → Prop
  /-- The module system loads the module and tells what it has unloaded for it. -/
  | load {environment module unloaded m m'} : b.loadModule module true m = .ok unloaded m' →
    Takes b (.load environment module) m (moduleCommands b module unloaded) m'
  /-- The variable gets the value as it is expanded where the step has its turn. -/
  | assign {environment name value m} : isVariableName name → isVariableValue (m.env.expand value) →
    Takes b (.assign environment name value) m [exportCommand name value]
      (m.write [.set (Bytes.ofText name) (Bytes.ofText (m.env.expand value))])

/-- **A step fails**: with an error that names the environment and what the step was about, and with
a machine that it leaves. -/
inductive Fails (b : Backend μ) : Step → Machine μ → RuntimeError → Machine μ → Prop
  /-- What the module system has done before it failed is kept. -/
  | load {environment module cause m m'} : b.loadModule module true m = .error cause m' →
    Fails b (.load environment module) m (.moduleLoad environment module cause) m'
  /-- A variable that the platform does not take is not assigned, and nothing else is done. -/
  | assign {environment name value m} :
    ¬(isVariableName name ∧ isVariableValue (m.env.expand value)) →
    Fails b (.assign environment name value) m (.invalidVariable environment name) m

section Steps

variable {b : Backend μ} {step : Step} {steps : List Step} {commands : List String}
  {e : RuntimeError} {m m' : Machine μ}

theorem run_eq_ok_iff : step.run b m = .ok commands m' ↔ Takes b step m commands m' := by
  cases step with
  | load environment module =>
    rw [Step.run, Stateful.bind_eq_ok_iff]
    constructor
    · rintro ⟨unloaded, m₁, h, hpure⟩
      cases hpure
      exact .load (loading_eq_ok_iff.1 h)
    · intro h
      cases h with
      | load hload => exact ⟨_, m', loading_eq_ok_iff.2 hload, rfl⟩
  | assign environment name value =>
    rw [Step.run, Stateful.bind_eq_ok_iff]
    constructor
    · rintro ⟨_, m₁, h, hpure⟩
      cases hpure
      obtain ⟨hname, hvalue, rfl⟩ := setVariable_eq_ok_iff.1 h
      exact .assign hname hvalue
    · intro h
      cases h with
      | assign hname hvalue =>
        exact ⟨⟨⟩, _, setVariable_eq_ok_iff.2 ⟨hname, hvalue, rfl⟩, rfl⟩

theorem run_eq_error_iff : step.run b m = .error e m' ↔ Fails b step m e m' := by
  cases step with
  | load environment module =>
    rw [Step.run, Stateful.bind_eq_error_iff]
    constructor
    · rintro (h | ⟨_, _, _, hpure⟩)
      · obtain ⟨cause, hload, rfl⟩ := loading_eq_error_iff.1 h
        exact .load hload
      · cases hpure
    · intro h
      cases h with
      | load hload => exact .inl (loading_eq_error_iff.2 ⟨_, hload, rfl⟩)
  | assign environment name value =>
    rw [Step.run, Stateful.bind_eq_error_iff]
    constructor
    · rintro (h | ⟨_, _, _, hpure⟩)
      · obtain ⟨hinvalid, rfl, rfl⟩ := setVariable_eq_error_iff.1 h
        exact .assign hinvalid
      · cases hpure
    · intro h
      cases h with
      | assign hinvalid => exact .inl (setVariable_eq_error_iff.2 ⟨hinvalid, rfl, rfl⟩)

end Steps

/-! ### What a run of steps does -/

/-- **Steps are done**: each is taken, from left to right, where the one before has ended. -/
inductive Done (b : Backend μ) : List Step → Machine μ → List String → Machine μ → Prop
  | nil {m} : Done b [] m [] m
  | cons {step rest first more m m₁ m'} : Takes b step m first m₁ → Done b rest m₁ more m' →
    Done b (step :: rest) m (first ++ more) m'

/-- **Steps break off**: some of them are done, and the next one fails. Those behind it have no part
in the error nor in the machine that is left. -/
def BreaksOff (b : Backend μ) (steps : List Step) (m : Machine μ) (e : RuntimeError)
    (m' : Machine μ) : Prop :=
  ∃ done step rest commands m₁, steps = done ++ step :: rest ∧ Done b done m commands m₁ ∧
    Fails b step m₁ e m'

/-- **The executed steps**: those that are done, up to the end or to one that fails. -/
def Executed (b : Backend μ) (steps done : List Step) (m : Machine μ) : Prop :=
  ∃ rest commands m₁, steps = done ++ rest ∧ Done b done m commands m₁ ∧
    ∀ step ∈ rest.head?, ∃ e m', Fails b step m₁ e m'

section Steps

variable {b : Backend μ} {step : Step} {steps rest : List Step} {commands : List String}
  {e : RuntimeError} {m m' : Machine μ}

/-- Steps break off at the first one, or it is taken and they break off later. -/
theorem breaksOff_cons_iff :
    BreaksOff b (step :: rest) m e m' ↔
      Fails b step m e m' ∨ ∃ first m₁, Takes b step m first m₁ ∧ BreaksOff b rest m₁ e m' := by
  constructor
  · rintro ⟨done, failing, behind, commands, m₁, hsteps, hdone, hfails⟩
    -- either nothing has been done before the failure, or the first step has
    cases hdone with
    | nil =>
      cases hsteps
      exact .inl hfails
    | cons htakes hdone =>
      cases hsteps
      exact .inr ⟨_, _, htakes, _, _, _, _, _, rfl, hdone, hfails⟩
  · rintro (hfails | ⟨first, m₁, htakes, done, failing, behind, more, m₂, rfl, hdone, hfails⟩)
    · exact ⟨[], step, rest, [], m, rfl, .nil, hfails⟩
    · exact ⟨step :: done, failing, behind, first ++ more, m₂, rfl, .cons htakes hdone, hfails⟩

/-- **A run succeeds** if all its steps are done. -/
theorem runSteps_eq_ok_iff : runSteps b steps m = .ok commands m' ↔ Done b steps m commands m' := by
  induction steps generalizing m commands with
  | nil =>
    constructor
    · intro h
      cases h
      exact .nil
    · rintro ⟨⟩
      rfl
  | cons step rest ih =>
    rw [runSteps, Stateful.bind_bind_pure_eq_ok_iff]
    constructor
    · rintro ⟨first, m₁, more, hstep, hrest, rfl⟩
      exact .cons (run_eq_ok_iff.1 hstep) (ih.1 hrest)
    · intro h
      cases h with
      | cons htakes hdone =>
        exact ⟨_, _, _, run_eq_ok_iff.2 htakes, ih.2 hdone, rfl⟩

/-- **A run fails** where its steps break off. -/
theorem runSteps_eq_error_iff : runSteps b steps m = .error e m' ↔ BreaksOff b steps m e m' := by
  -- along the steps, from wherever the ones before have led
  induction steps generalizing m with
  | nil =>
    constructor
    · intro h
      cases h
    · rintro ⟨done, step, rest, _, _, hsteps, -⟩
      exact absurd hsteps.symm (List.append_ne_nil_of_right_ne_nil _ (List.cons_ne_nil _ _))
  | cons step rest ih =>
    rw [runSteps, Stateful.bind_bind_pure_eq_error_iff, breaksOff_cons_iff]
    simp only [run_eq_error_iff, run_eq_ok_iff, ih]

end Steps

/-! ### Activations in sequence -/

/-- **More environments.** Their activation goes on where that of the first ones has ended, if it
has not failed. -/
theorem load_append (b : Backend μ) (es others : List Environment) :
    load b (es ++ others) = do
      let first ← load b es
      let more ← load b others
      return ⟨first.before, first.commands ++ more.commands⟩ := by
  simp only [load, activateAll_eq_runSteps, stepsOf_append, runSteps_append, bind_assoc, pure_bind]
  -- the second image of the environment is not used
  rfl

/-! ### Without a module system -/

/-- Steps that are done without a module system leave a variable alone that none of them assigns. -/
theorem Done.value?_eq {steps : List Step} {commands : List String} {m m' : Machine μ} {n : Bytes}
    (h : Done .noModules steps m commands m') (hn : ∀ step ∈ steps, ¬step.Assigns n) :
    m'.env.value? n = m.env.value? n := by
  induction h with
  | nil => rfl
  | cons htakes _ ih =>
    obtain ⟨hfirst, hrest⟩ := List.forall_mem_cons.1 hn
    rw [ih hrest]
    cases htakes with
    | load hload =>
      cases hload
      rfl
    | assign hname hvalue =>
      exact (ProcessEnv.value?_set ..).trans (if_neg fun h => hfirst h.symm)

/-- Without a module system a step that fails changes nothing. -/
theorem Fails.eq_of_noModules {step : Step} {e : RuntimeError} {m m' : Machine μ}
    (h : Fails .noModules step m e m') : m' = m := by
  cases h with
  | load hload => cases hload
  | assign => rfl

/-- An activation without a module system ends where its executed steps have led. -/
theorem exists_executed (es : List Environment) (m : Machine μ) :
    ∃ done commands, Executed .noModules (stepsOf es) done m ∧
      Done .noModules done m commands (left (load .noModules es m)) := by
  cases h : load .noModules es m with
  | ok loaded m' =>
    have hrun := (load_eq_ok_iff.1 h).2
    rw [activateAll_eq_runSteps, runSteps_eq_ok_iff] at hrun
    have hall : stepsOf es = stepsOf es ++ [] := (List.append_nil _).symm
    exact ⟨stepsOf es, _, ⟨[], _, _, hall, hrun, fun _ hnone => nomatch hnone⟩, hrun⟩
  | error e m' =>
    have hrun := load_eq_error_iff.1 h
    rw [activateAll_eq_runSteps, runSteps_eq_error_iff] at hrun
    obtain ⟨done, step, rest, commands, m₁, hsteps, hdone, hfails⟩ := hrun
    -- the step that fails is not executed, and it leaves what the executed ones have left
    refine ⟨done, commands, ⟨step :: rest, commands, m₁, hsteps, hdone, ?_⟩, ?_⟩
    · rintro _ ⟨⟩
      exact ⟨e, m', hfails⟩
    · rw [left, hfails.eq_of_noModules]
      exact hdone

/-! ### Activations -/

/-- **What an activation comes to.** Its steps are taken from left to right. It succeeds if all of
them are done, and it fails where they break off, with the error of that step and in the state that
this step leaves. An activation of more environments is one of the first and then one of the others.
Without a module system a variable keeps its value if no executed step assigns it. -/
theorem load_stepwise (b : Backend μ) (es : List Environment) (m : Machine μ) :
    (∀ loaded m', load b es m = .ok loaded m' ↔
      loaded.before = .capture m.env ∧ Done b (stepsOf es) m loaded.commands m') ∧
    (∀ e m', load b es m = .error e m' ↔ BreaksOff b (stepsOf es) m e m') ∧
    (∀ others, load b (es ++ others) = do
      let first ← load b es
      let more ← load b others
      return ⟨first.before, first.commands ++ more.commands⟩) ∧
    ∃ done, Executed .noModules (stepsOf es) done m ∧
      ∀ n, (∀ step ∈ done, ¬step.Assigns n) →
        (left (load .noModules es m)).env.value? n = m.env.value? n := by
  refine ⟨fun loaded m' => ?_, fun e m' => ?_, load_append b es, ?_⟩
  · rw [load_eq_ok_iff, activateAll_eq_runSteps, runSteps_eq_ok_iff]
  · rw [load_eq_error_iff, activateAll_eq_runSteps, runSteps_eq_error_iff]
  · obtain ⟨done, commands, hexecuted, hdone⟩ := exists_executed es m
    exact ⟨done, hexecuted, fun n hn => hdone.value?_eq hn⟩

end SiteRuntime.Activation
