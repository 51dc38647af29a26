import SiteRuntime.CommandLine.Execute
import SiteRuntime.Proofs.Runtime.WorkDirectory
import SiteRuntime.Proofs.Scope.Contexts

/-!
# What the parts of a command leave alone

A command is a sequence of operations, most of which touch one thing and leave the rest of the
console as it is. `Stateful.Fixes` says so for a part of the state, and is put together along the
sequence. Of the runtime two parts matter: the contexts and which of them is current
(`Runtime.places`), and these together with the process environment (`Runtime.ground`). With either
goes what was printed (`Console.beside`). What only looks things up leaves everything as it is.

With that a program that is started is known to be in the first run of its context when a command
begins, on the machine that it found, with nothing printed (`enterContext_cases`).
-/

namespace SiteRuntime

open Stateful (answer left Fixes fixes_pure fixes_throw)

variable {μ α τ : Type}

/-! ### Operations of the runtime -/

namespace Runtime

/-- The contexts, and which of them is current. -/
def places (rt : Runtime μ) : List (Running μ) × Option Nat := (rt.contexts, rt.current)

/-- The ground that every attempt at a job starts from: the contexts, which of them is current, and
the process environment. -/
def ground (rt : Runtime μ) : (List (Running μ) × Option Nat) × ProcessEnv :=
  (rt.places, rt.machine.env)

theorem current?_congr {rt rt' : Runtime μ} (h : rt'.places = rt.places) :
    rt'.current? = rt.current? := by
  obtain ⟨hcontexts, hcurrent⟩ := Prod.mk.inj h
  rw [current?, current?, hcontexts, hcurrent]

theorem attempt_eq (op : Op μ α) (rt : Runtime μ) :
    attempt op rt = (answer (op rt), left (op rt)) := by
  rw [attempt]
  cases op rt <;> rfl

theorem Keeps.fixes {op : Op μ α} (h : Keeps op) : Fixes places op := by
  intro rt
  have hrt := h rt
  rw [attempt_eq] at hrt
  exact Prod.ext hrt.contexts hrt.current

theorem fixes_workPath (part : Runtime μ → τ)
    (below : Context μ → ProcessEnv → Except ConfigError Path) (segments : List String) :
    Fixes part (workPath below segments) := by
  intro rt
  rcases workPath_cases below segments rt with ⟨r, p, -, -, h⟩ | ⟨e, h⟩ <;> rw [h] <;> rfl

/-- Making a directory changes only files. -/
theorem fixes_makeDirectory (path : Path) (wipe : Bool) :
    Fixes ground (makeDirectory path wipe : Op μ Path) := by
  refine Fixes.bind (fun rt => ?_) fun _ => fixes_pure path
  rw [editing]
  split <;> rfl

theorem fixes_makeStage [Account] (segments : List String) (wipe : Bool) :
    Fixes ground (makeStage segments wipe : Op μ Path) := by
  rw [makeStage, stagePath_eq]
  exact (fixes_workPath ground _ _).bind fun path => fixes_makeDirectory path wipe

/-- A directory that was made is that of the current run. -/
theorem eq_ok_of_makeDirectory_workPath
    {below : Context μ → ProcessEnv → Except ConfigError Path} {segments : List String}
    {wipe : Bool} {rt rt' : Runtime μ} {r : Running μ} {q : Path} (hr : rt.current? = some r)
    (h : (workPath below segments >>= fun path => makeDirectory path wipe) rt = .ok q rt') :
    ((below r.context rt.machine.env).map fun p => Context.runPath p r.run segments) = .ok q := by
  rcases workPath_cases below segments rt with ⟨r', p, hr', hp, hpath⟩ | ⟨e, hpath⟩
  · obtain rfl : r = r' := Option.some.inj (hr.symm.trans hr')
    rw [Stateful.bind_of_ok hpath] at h
    obtain ⟨-, rt₁, -, hq⟩ := Stateful.bind_eq_ok_iff.1 h
    cases hq
    rw [hp]
    rfl
  · rw [Stateful.bind_of_error hpath] at h
    cases h

/-- The next run of the current context. -/
theorem nextRuns_one {rt : Runtime μ} {context : Context μ} {run : Nat}
    (h : rt.current? = some ⟨context, run⟩) :
    ∃ rt', nextRuns 1 rt = .ok (run + 1) rt' ∧ rt'.current? = some ⟨context, run + 1⟩ ∧
      rt'.machine = rt.machine := by
  rcases nextRuns_cases 1 rt with ⟨i, r, hi, hri, hnext⟩ | ⟨hnone, -⟩
  · obtain rfl : r = ⟨context, run⟩ := by
      rw [current?, hi, Option.bind_some, hri] at h
      exact Option.some.inj h
    refine ⟨rt.countRuns i 1, hnext, ?_, rfl⟩
    rw [current?, countRuns, hi, Option.bind_some, List.getElem?_modify_eq, hri]
    rfl
  · rw [hnone] at h
    cases h

end Runtime

namespace CommandLine

open Console SiteRuntime.Runtime

/-! ### Operations of a command -/

/-- A part of the runtime together with what was printed. -/
def Console.beside (part : Runtime μ → τ) (c : Console μ) : τ × String := (part c.runtime, c.stdout)

theorem left_onRuntime (op : Op μ α) (c : Console μ) :
    left (onRuntime op c) = c.withRuntime (left (op c.runtime)) := by
  rw [onRuntime]
  cases op c.runtime <;> rfl

theorem fixes_onRuntime {part : Runtime μ → τ} {op : Op μ α} (h : Fixes part op) :
    Fixes (beside part) (onRuntime op) := by
  intro c
  rw [left_onRuntime]
  exact congrArg (·, c.stdout) (h c.runtime)

theorem onRuntime_of_ok {op : Op μ α} {x : α} {c : Console μ} {rt : Runtime μ}
    (h : op c.runtime = .ok x rt) : onRuntime op c = .ok x (c.withRuntime rt) := by
  rw [onRuntime, h]

theorem onRuntime_of_error {op : Op μ α} {e : RuntimeError} {c : Console μ} {rt : Runtime μ}
    (h : op c.runtime = .error e rt) : onRuntime op c = .error e.trail (c.withRuntime rt) := by
  rw [onRuntime, h]

theorem during_eq_ok_iff {what : String} {op : M μ α} {x : α} {c c' : Console μ} :
    during what op c = .ok x c' ↔ op c = .ok x c' := by
  rw [during, EStateM.adaptExcept]
  cases op c <;> simp

theorem during_of_error {what : String} {op : M μ α} {e : Trouble} {c c' : Console μ}
    (h : op c = .error e c') : during what op c = .error (what :: e) c' := by
  rw [during, EStateM.adaptExcept, h]

theorem left_during (what : String) (op : M μ α) (c : Console μ) :
    left (during what op c) = left (op c) := by
  rw [during, EStateM.adaptExcept]
  cases op c <;> rfl

theorem fixes_during {part : Console μ → τ} {op : M μ α} (h : Fixes part op) (what : String) :
    Fixes part (during what op) := by
  intro c
  rw [left_during]
  exact h c

theorem fixes_consoleRunning (part : Console μ → τ) :
    Fixes part (Console.running : M μ (Running μ)) := by
  intro c
  rw [Console.running, onRuntime]
  rcases running_cases c.runtime with ⟨r, -, h⟩ | ⟨-, h⟩ <;> rw [h] <;> rfl

theorem fixes_editing (edit : Machine μ → Except OsError (α × FileTree)) :
    Fixes (beside places) (Console.editing edit) := by
  intro c
  rw [Console.editing]
  split <;> rfl

/-- Whatever becomes of a job, it changes only files. -/
theorem fixes_awaiting (spawn : Spawner μ) (job : Job) :
    Fixes (beside places) (awaiting spawn job) := by
  intro c
  rw [awaiting]
  split <;> rfl

/-- A message is no output. -/
theorem fixes_say (part : Runtime μ → τ) (tone : Tone) (text : String) :
    Fixes (beside part) (say tone text : M μ Unit) := fun _ => rfl

theorem fixes_asking (part : Console μ → τ) (x : Except ConfigError α) :
    Fixes part (Console.asking x : M μ α) := by
  cases x with
  | ok x => exact fixes_pure x
  | error e => exact fixes_throw e.trail

theorem consoleRunning_of_current? {c : Console μ} {r : Running μ}
    (h : c.runtime.current? = some r) : Console.running c = .ok r c := by
  rcases running_cases c.runtime with ⟨s, hs, hrun⟩ | ⟨hnone, -⟩
  · obtain rfl : r = s := Option.some.inj (h.symm.trans hs)
    exact onRuntime_of_ok hrun
  · rw [hnone] at h
    cases h

theorem fixes_environmentsOf (part : Console μ → τ) (names : List String)
    (partition : Option String) :
    Fixes part (environmentsOf names partition : M μ (List Environment)) := by
  refine (fixes_consoleRunning part).bind fun r => ?_
  have hnamed : ∀ base : List Environment, Fixes part (do
      let named ← names.mapM fun name =>
        during s!"Unknown environment '{name}'" (asking (r.context.config.environment name))
      return base ++ named) := fun base =>
    (Fixes.mapM (fun name => fixes_during (fixes_asking part _) _) names).bind fun named =>
      fixes_pure _
  cases partition with
  | none => exact (fixes_pure _).bind hnamed
  | some name =>
    dsimp only
    split
    · exact (fixes_pure _).bind hnamed
    · exact (fixes_throw _).bind hnamed

/-! ### The start of the program -/

theorem fixes_siteConfig (part : Console μ → τ) (around : Surroundings μ) (g : Globals) :
    Fixes part (siteConfig around g) := by
  have hselect : ∀ c : SiteConfig, Fixes part (do
      let c ← during "Failed to select system configuration"
        (asking (c.selectFor around.host.name g.system))
      return g.options.foldl (fun c o => c.addSticky o.1 o.2) c : M μ SiteConfig) := fun c =>
    (fixes_during (fixes_asking part _) _).bind fun _ => fixes_pure _
  have hmachine : Fixes part (machine : M μ (Machine μ)) := fun _ => rfl
  refine hmachine.bind fun m => ?_
  dsimp only
  split
  · exact (fixes_pure _).bind hselect
  · exact (fixes_asking part _).bind hselect

/-- A program that is started enters a context in its first run, or fails without a trace. -/
theorem enterContext_cases (around : Surroundings μ) (g : Globals) (m : Machine μ) :
    (∃ e, enterContext around g (.onMachine m) = .error e (.onMachine m)) ∨
      ∃ context, enterContext around g (.onMachine m) =
        .ok () ((Console.onMachine m).withRuntime ((Runtime.onMachine m).install context)) := by
  have hsame := fixes_siteConfig id around g (.onMachine m)
  cases hconfig : siteConfig around g (.onMachine m) with
  | error e c =>
    rw [hconfig] at hsame
    obtain rfl : c = .onMachine m := hsame
    exact .inl ⟨e, Stateful.bind_of_error hconfig⟩
  | ok config c =>
    rw [hconfig] at hsame
    obtain rfl : c = .onMachine m := hsame
    rw [enterContext, Stateful.bind_of_ok hconfig]
    -- no context is current yet, so one is built
    rcases init_cases around.host config (Runtime.onMachine m) with
      ⟨r, hr, -⟩ | ⟨context, -, hinit⟩ | ⟨e, -, hinit⟩
    · cases hr
    · have hentered := onRuntime_of_ok (c := .onMachine m) hinit
      exact .inr ⟨context, Stateful.bind_of_ok (during_eq_ok_iff.2 hentered)⟩
    · have hfailed := onRuntime_of_error (c := .onMachine m) hinit
      exact .inl ⟨_, Stateful.bind_of_error (during_of_error hfailed)⟩

end CommandLine

end SiteRuntime
