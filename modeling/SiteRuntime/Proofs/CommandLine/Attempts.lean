import SiteRuntime.Proofs.CommandLine.Frame
import SiteRuntime.Proofs.Job.Retry

/-!
# Attempts at a job

A job that fails is tried again, in a run of its own each time. One attempt makes the stage
directory of its run, activates environments, starts the job and brings the process environment
back, and any of that can fail. `Attempted` says so, with one case for each way that an attempt can
end. Nothing is assumed of the job, of the module system or of what becomes of either.

What an attempt leaves alone (`fixes_tryJob`) and what going on to a retry does (`tryAgain_eq_ok`)
make an invariant for each number of a run, `InRun`. So the attempts that are made are numbered from
0 on without a gap, and all of them start from the process environment that the job was given, with
nothing printed so far but messages (`exists_course_tryJob`).
-/

namespace SiteRuntime.CommandLine

open Stateful (answer left Fixes fixes_pure fixes_throw)

open Console Retry SiteRuntime.Runtime

variable {μ α τ : Type}

/-! ### A job inside its environments -/

/-- The process environment is brought back, whatever an operation did to it. -/
theorem fixes_keepingEnv {op : M μ α} (h : Fixes (beside places) op) :
    Fixes (beside ground) (keepingEnv op) := by
  intro c
  have hleft : left (keepingEnv op c) = (left (op c)).withRuntime
      { (left (op c)).runtime with
        machine := Activation.restored (.capture c.runtime.machine.env)
          (left (op c)).runtime.machine } := by
    rw [keepingEnv]
    cases op c <;> rfl
  rw [hleft]
  obtain ⟨hplaces, hprinted⟩ := Prod.mk.inj (h c)
  -- what is restored is the image, so nothing has to be known of what became of the environment
  exact Prod.ext (Prod.ext hplaces (Activation.env_restored _ _)) hprinted

theorem files_keepingEnv {op : M μ α} {c c' : Console μ} {x : α}
    (h : keepingEnv op c = .ok x c') :
    ∃ c₁, op c = .ok x c₁ ∧ c'.runtime.machine.files = c₁.runtime.machine.files := by
  rw [keepingEnv] at h
  cases hop : op c with
  | ok y c₁ =>
    rw [hop] at h
    cases h
    exact ⟨c₁, rfl, rfl⟩
  | error e c₁ =>
    rw [hop] at h
    cases h

theorem awaiting_eq_ok_iff {spawn : Spawner μ} {job : Job} {how : JobEnd} {c c' : Console μ} :
    awaiting spawn job c = .ok how c' ↔
      ∃ files, spawn job c.runtime.machine = .ended how files ∧ c' = c.withFiles files := by
  rw [awaiting]
  cases spawn job c.runtime.machine with
  | ended how' files =>
    constructor
    · intro h
      cases h
      exact ⟨files, rfl, rfl⟩
    · rintro ⟨files', h, rfl⟩
      cases h
      rfl
  | notStarted cause => simp
  | lost cause files => simp
  | notStopped cause files => simp

theorem fixes_activateAndSpawn [Account] (around : Surroundings μ) (stage : Path)
    (environments : List Environment) (plan : RunPlan) :
    Fixes (beside places) (activateAndSpawn around stage environments plan) := by
  have hwrite : ∀ path content, Fixes (beside places) (writeFile path content : M μ Unit) :=
    fun path content => fixes_editing _
  refine (fixes_consoleRunning _).bind fun r => ?_
  refine (fixes_during (fixes_onRuntime (keeps_load _ _).fixes) _).bind fun loaded => ?_
  refine (fixes_during (hwrite _ _) _).bind fun _ => ?_
  refine (fixes_during (hwrite _ _) _).bind fun _ => ?_
  refine (fixes_during (hwrite _ _) _).bind fun _ => ?_
  split
  · exact fixes_throw _
  · exact fixes_awaiting _ _

theorem RunPlan.eq_of_job? {plan : RunPlan} {job : Job} {stage : Path}
    (h : plan.job? stage = some job) :
    job.directory = stage ∧ plan.command = job.program :: job.arguments := by
  rw [RunPlan.job?] at h
  cases hcommand : plan.command with
  | nil => rw [hcommand] at h; cases h
  | cons program arguments =>
    rw [hcommand] at h
    cases h
    exact ⟨rfl, rfl⟩

/-- Where a job came to its end, it was the one that the plan asks for, and its end and its files
are what is left. -/
theorem exists_spawn_of_activateAndSpawn [Account] {around : Surroundings μ} {stage : Path}
    {environments : List Environment} {plan : RunPlan} {c c' : Console μ} {how : JobEnd}
    (h : activateAndSpawn around stage environments plan c = .ok how c') :
    ∃ job m, plan.job? stage = some job ∧
      around.spawn job m = .ended how c'.runtime.machine.files := by
  obtain ⟨_, _, -, h⟩ := Stateful.bind_eq_ok_iff.1 h
  obtain ⟨_, _, -, h⟩ := Stateful.bind_eq_ok_iff.1 h
  obtain ⟨_, _, -, h⟩ := Stateful.bind_eq_ok_iff.1 h
  obtain ⟨_, _, -, h⟩ := Stateful.bind_eq_ok_iff.1 h
  obtain ⟨_, c₁, -, h⟩ := Stateful.bind_eq_ok_iff.1 h
  cases hjob : plan.job? stage with
  | none => rw [hjob] at h; cases h
  | some job =>
    rw [hjob] at h
    obtain ⟨files, hspawn, rfl⟩ := awaiting_eq_ok_iff.1 h
    exact ⟨job, _, rfl, hspawn⟩

/-! ### One attempt -/

/-- The console after an attempt was told of. -/
def told (json : Bool) (a : Attempt) (c : Console μ) : Console μ :=
  if json then c else { c with stderr := c.stderr ++ s!"{Tone.info.sign} {a.text}\n" }

@[simp] theorem runtime_told (json : Bool) (a : Attempt) (c : Console μ) :
    (told json a c).runtime = c.runtime := by
  cases json <;> rfl

section Attempt

variable [Account] (around : Surroundings μ) (plan : RunPlan) (json : Bool) (setting : JobSetting)

/-- **One attempt** in the run of a number. -/
inductive Attempted (run : Nat) : Trial Trouble (Console μ) Attempt → Prop
  /-- Its stage directory is not made. -/
  | noStage {c : Console μ} {e : RuntimeError} {rt : Runtime μ} :
    makeStage setting.segments true c.runtime = .error e rt →
    Attempted run ⟨c, .error e.trail, c.withRuntime rt⟩
  /-- It fails inside the environments, or in activating them. -/
  | aborted {c c' : Console μ} {stage : Path} {rt : Runtime μ} {e : Trouble} :
    makeStage setting.segments true c.runtime = .ok stage rt →
    keepingEnv (activateAndSpawn around stage setting.environments plan) (c.withRuntime rt) =
      .error e c' →
    Attempted run ⟨c, .error e, c'⟩
  /-- Its job was started and came to an end. -/
  | completed {c c' : Console μ} {stage : Path} {rt : Runtime μ} {how : JobEnd} {job : Job}
      {m : Machine μ} {a : Attempt} :
    makeStage setting.segments true c.runtime = .ok stage rt →
    keepingEnv (activateAndSpawn around stage setting.environments plan) (c.withRuntime rt) =
      .ok how c' →
    plan.job? stage = some job → around.spawn job m = .ended how c'.runtime.machine.files →
    a = ⟨run, stage, { how with elapsed := around.clock how.elapsed }⟩ →
    Attempted run ⟨c, .ok a, told json a c'⟩

/-- However an attempt ends, the next one starts from the same ground. -/
theorem fixes_tryJob : Fixes (beside ground) (tryJob around plan json setting) := by
  have hattempt : Fixes (beside ground)
      (attemptJob around setting.segments setting.environments plan) := by
    refine (fixes_onRuntime (fixes_makeStage _ true)).bind fun stage => ?_
    refine (fixes_keepingEnv (fixes_activateAndSpawn _ _ _ _)).bind fun ended => ?_
    exact (fixes_consoleRunning _).bind fun _ => fixes_pure _
  refine hattempt.bind fun a => ?_
  cases json with
  | true => exact fixes_pure a
  | false => exact (fixes_say ground _ _).bind fun _ => fixes_pure a

variable {context : Context μ} {run : Nat} {c : Console μ}

/-- What is tried is one attempt, in the run that the runtime is in. -/
theorem attempted_make (hc : c.runtime.current? = some ⟨context, run⟩) :
    Attempted around plan json setting run (.make (tryJob around plan json setting) c) := by
  cases hstage : makeStage setting.segments true c.runtime with
  | error e rt =>
    have htried : tryJob around plan json setting c = .error e.trail (c.withRuntime rt) :=
      Stateful.bind_of_error (Stateful.bind_of_error (onRuntime_of_error hstage))
    rw [Trial.make, htried]
    exact .noStage hstage
  | ok stage rt =>
    have hbegun := onRuntime_of_ok hstage
    cases hjob : keepingEnv (activateAndSpawn around stage setting.environments plan)
        (c.withRuntime rt) with
    | error e c' =>
      have htried : tryJob around plan json setting c = .error e c' :=
        Stateful.bind_of_error ((Stateful.bind_of_ok hbegun).trans (Stateful.bind_of_error hjob))
      rw [Trial.make, htried]
      exact .aborted hstage hjob
    | ok how c' =>
      obtain ⟨c₁, hspawned, hfiles⟩ := files_keepingEnv hjob
      obtain ⟨job, m, hasked, hended⟩ := exists_spawn_of_activateAndSpawn hspawned
      -- neither the directory nor the job has touched the count that is asked for at the end
      have hmade := fixes_onRuntime (fixes_makeStage setting.segments true) c
      have hkept := fixes_keepingEnv
        (fixes_activateAndSpawn around stage setting.environments plan) (c.withRuntime rt)
      rw [hbegun] at hmade
      rw [hjob] at hkept
      have hplaces : c'.runtime.places = c.runtime.places :=
        (congrArg (·.1.1) hkept).trans (congrArg (·.1.1) hmade)
      have hrunning := consoleRunning_of_current? ((current?_congr hplaces).trans hc)
      obtain ⟨a, ha⟩ : ∃ a : Attempt,
        a = ⟨run, stage, { how with elapsed := around.clock how.elapsed }⟩ := ⟨_, rfl⟩
      have hattempt : attemptJob around setting.segments setting.environments plan c = .ok a c' :=
        ha ▸ (Stateful.bind_of_ok hbegun).trans
          ((Stateful.bind_of_ok hjob).trans (Stateful.bind_of_ok hrunning))
      have htried : tryJob around plan json setting c = .ok a (told json a c') := by
        rw [tryJob, Stateful.bind_of_ok hattempt]
        cases json <;> rfl
      rw [Trial.make, htried]
      exact .completed hstage hjob hasked (hfiles ▸ hended) ha

variable {around plan json setting} in
/-- An attempt that came to something bears the number of its run, and was made in the stage
directory of that run. -/
theorem Attempted.eq_of_came {t : Trial Trouble (Console μ) Attempt} {a : Attempt}
    (h : Attempted around plan json setting run t) (ha : t.came = .ok a)
    (ht : t.start.runtime.current? = some ⟨context, run⟩) :
    a.run = run ∧
      context.stagePath t.start.runtime.machine.env run setting.segments = .ok a.stage := by
  cases h with
  | noStage hstage => cases ha
  | aborted hstage hjob => cases ha
  | completed hstage hjob hasked hended hmade =>
    cases ha
    cases hmade
    exact ⟨rfl, eq_ok_of_makeDirectory_workPath ht hstage⟩

end Attempt

/-! ### Between attempts -/

/-- Going on to a retry counts the run up and changes nothing else. -/
theorem tryAgain_eq_ok {plan : RunPlan} {json : Bool} {c : Console μ} {context : Context μ}
    {run : Nat} (hc : c.runtime.current? = some ⟨context, run⟩) (number : Nat) :
    ∃ c', tryAgain plan json number c = .ok () c' ∧
      c'.runtime.current? = some ⟨context, run + 1⟩ ∧ c'.runtime.machine = c.runtime.machine ∧
      c'.stdout = c.stdout := by
  obtain ⟨rt, hnext, hcurrent, hmachine⟩ := nextRuns_one hc
  rw [tryAgain, Stateful.bind_of_ok (onRuntime_of_ok hnext)]
  cases json <;> exact ⟨_, rfl, hcurrent, hmachine, rfl⟩

/-! ### Before the first attempt -/

/-- Finding out what a job is run with changes nothing. -/
theorem fixes_prepareJob (part : Console μ → τ) (plan : RunPlan) :
    Fixes part (prepareJob plan : M μ JobSetting) := by
  refine (fixes_consoleRunning part).bind fun r => ?_
  have hrest : ∀ partition, Fixes part (do
      let environments ← environmentsOf plan.environments (some partition)
      let segments :=
        [r.context.system.name, partition, environmentLabel plan.environments, plan.name]
      return (⟨segments, environments⟩ : JobSetting)) := fun partition =>
    (fixes_environmentsOf part _ _).bind fun _ => fixes_pure _
  dsimp only
  split
  · exact (fixes_pure _).bind hrest
  · exact (fixes_throw _).bind hrest

/-! ### All attempts -/

/-- The runtime is in a run of a context, with a process environment, and so much was printed. -/
structure InRun (context : Context μ) (env : ProcessEnv) (printed : String) (run : Nat)
    (c : Console μ) : Prop where
  /-- The context is current, in its run. -/
  current : c.runtime.current? = some ⟨context, run⟩
  /-- The process environment is that one. -/
  env : c.runtime.machine.env = env
  /-- What was printed. -/
  printed : c.stdout = printed

theorem inRun_tryAgain (plan : RunPlan) (json : Bool) {context : Context μ} {env : ProcessEnv}
    {printed : String} {run : Nat} {c : Console μ} (h : InRun context env printed run c)
    (number : Nat) :
    ∃ c', tryAgain plan json number c = .ok () c' ∧ InRun context env printed (run + 1) c' := by
  obtain ⟨c', hagain, hcurrent, hmachine, hprinted⟩ := tryAgain_eq_ok h.current number
  exact ⟨c', hagain, hcurrent, hmachine ▸ h.env, hprinted.trans h.printed⟩

section Course

variable [Account] (around : Surroundings μ) (plan : RunPlan) (json : Bool)
  (setting : JobSetting) (context : Context μ) (env : ProcessEnv) (printed : String)

/-- **An attempt with a number**: it starts and ends in the run of that number, in the given process
environment, and what it comes to has that number and the stage directory of that run. -/
structure Numbered (run : Nat) (t : Trial Trouble (Console μ) Attempt) : Prop where
  /-- It starts in the run. -/
  start : InRun context env printed run t.start
  /-- It ends in the run. -/
  finish : InRun context env printed run t.finish
  /-- It is an attempt at the job. -/
  attempted : Attempted around plan json setting run t
  /-- It has the number and the stage directory of the run. -/
  came : ∀ a, t.came = .ok a →
    a.run = run ∧ context.stagePath env run setting.segments = .ok a.stage

variable {context env printed}

theorem inRun_tryJob {run : Nat} {c : Console μ} (h : InRun context env printed run c) :
    InRun context env printed run (left (tryJob around plan json setting c)) := by
  obtain ⟨hground, hprinted⟩ := Prod.mk.inj (fixes_tryJob around plan json setting c)
  obtain ⟨hplaces, henv⟩ := Prod.mk.inj hground
  exact ⟨(current?_congr hplaces).trans h.current, henv.trans h.env, hprinted.trans h.printed⟩

/-- The attempts at a job from the first run on. -/
theorem exists_course_tryJob {c : Console μ} (h : InRun context env printed 0 c) (retries : Nat) :
    ∃ bad last, Course (tryJob around plan json setting) (tryAgain plan json) Attempt.succeeded 0
        retries c bad last ∧
      (∀ i t, (bad ++ [last])[i]? = some t →
        Numbered around plan json setting context env printed i t) ∧
      Retry.run (tryJob around plan json setting) (tryAgain plan json) Attempt.succeeded retries c =
        outcome bad last := by
  have hattempt : ∀ run c, InRun context env printed run c →
      InRun context env printed run (left (tryJob around plan json setting c)) :=
    fun _ _ => inRun_tryJob around plan json setting
  have hagain : ∀ run (c c' : Console μ), InRun context env printed run c →
      tryAgain plan json (run + 1) c = .ok () c' → InRun context env printed (run + 1) c' := by
    intro run c c' hc hc'
    obtain ⟨c'', hagain, hc''⟩ := inRun_tryAgain plan json hc (run + 1)
    rw [hagain] at hc'
    cases hc'
    exact hc''
  obtain ⟨bad, last, hcourse, hout⟩ := exists_course Attempt.succeeded hattempt
    (fun _ _ hrun => inRun_tryAgain plan json hrun _) retries h
  refine ⟨bad, last, hcourse, fun i t ht => ?_, hout⟩
  obtain ⟨hstart, hfinish⟩ := hcourse.invariant hattempt hagain h ht
  rw [Nat.zero_add] at hstart hfinish
  have hmade := hcourse.made t (List.mem_of_getElem? ht)
  have htried : Attempted around plan json setting i t :=
    hmade ▸ attempted_make around plan json setting hstart.current
  exact ⟨hstart, hfinish, htried, fun a ha => hstart.env ▸ htried.eq_of_came ha hstart.current⟩

end Course

end SiteRuntime.CommandLine
