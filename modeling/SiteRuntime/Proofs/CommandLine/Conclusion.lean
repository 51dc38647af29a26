import Mathlib.Data.List.Forall2
import SiteRuntime.Proofs.CommandLine.Attempts

/-!
# How a job ends

When no other attempt is made, a job is concluded by what the last one came to. If that failed, the
job fails likewise and nothing is printed. If it was a success, the output directory of its run is
made, once, and takes the files of the attempt; if it was not, no output directory is made. Either
way a report follows, which lists all attempts in order, and without a success the job fails
afterwards.

`JobCourse` has the parts of this as its fields, and every job has such a course unless it cannot
even be prepared (`runJob_course`). The program enters a context in its first run and does nothing
else before, so the same is true of the program as it is started (`runCommand_course`).
-/

namespace SiteRuntime.CommandLine

open Stateful (answer left Fixes)

open Console Retry SiteRuntime.Runtime

variable {μ α : Type}

/-! ### Reports -/

/-- A value reports on an attempt. -/
structure Attempt.IsReport (a : Attempt) (v : Json) : Prop where
  /-- It has the number of the run. -/
  run : v.get? "run" = some (.ofNat a.run)
  /-- It has the stage directory. -/
  stage : v.get? "stagedir" = some (.string a.stage.text)
  /-- It has the exit code if there is one. -/
  exitCode : v.get? "exit_code" =
    some ((if a.outcome.timedOut then none else a.outcome.exitCode).elim .null .ofNat)
  /-- It says whether the job ran out of time. -/
  timedOut : v.get? "timed_out" = some (.bool a.outcome.timedOut)
  /-- It has the time that the job took. -/
  elapsed : v.get? "elapsed_ms" = some (.ofNat a.outcome.elapsed)

/-- A value reports on all attempts at a job and on what was kept. -/
structure IsReport (output : Option Path) (attempts : List Attempt) (v : Json) : Prop where
  /-- It says whether the job was a success. -/
  success : v.get? "success" = some (.bool output.isSome)
  /-- It has the output directory if there is one. -/
  output : v.get? "outputdir" = some (output.elim .null fun p => .string p.text)
  /-- It lists every attempt once, in order. -/
  attempts : ∃ entries, v.itemsAt? "attempts" = some entries ∧
    List.Forall₂ Attempt.IsReport attempts entries

/-- A report is printed if values are asked for, and else nothing. -/
def Reported (json : Bool) (output : Option Path) (attempts : List Attempt)
    (before after : String) : Prop :=
  if json then ∃ v, IsReport output attempts v ∧ after = before ++ v.pretty ++ "\n"
  else after = before

theorem Attempt.isReport_report (a : Attempt) : a.IsReport a.report where
  run := rfl
  stage := rfl
  exitCode := by
    obtain ⟨run, stage, exitCode, timedOut, elapsed⟩ := a
    cases timedOut with
    | true => rfl
    | false => cases exitCode <;> rfl
  timedOut := rfl
  elapsed := rfl

theorem isReport_runReport (output : Option Path) (attempts : List Attempt) :
    IsReport output attempts (runReport output attempts) where
  success := rfl
  output := by cases output <;> rfl
  attempts := by
    refine ⟨attempts.map Attempt.report, rfl, ?_⟩
    exact List.forall₂_map_right_iff.2 (List.forall₂_same.2 fun a _ => a.isReport_report)

/-! ### After the last attempt -/

section Conclusion

variable (plan : RunPlan) (json : Bool)

/-- With output a job is concluded without a failure, after the report. -/
theorem concludeJob_some (attempts : List Attempt) (output : Path) (c : Console μ) :
    ∃ c', concludeJob plan json attempts (some output) c = .ok () c' ∧ c'.runtime = c.runtime ∧
      Reported json (some output) attempts c.stdout c'.stdout := by
  cases json with
  | true => exact ⟨_, rfl, rfl, _, isReport_runReport _ _, rfl⟩
  | false => exact ⟨_, rfl, rfl, rfl⟩

/-- Without output it fails after the report, and tells the number of attempts. -/
theorem concludeJob_none (attempts : List Attempt) (c : Console μ) :
    ∃ c', concludeJob plan json attempts none c =
        .error [s!"Command failed after {attempts.length} attempt(s): " ++
          " ".intercalate plan.command] c' ∧
      c'.runtime = c.runtime ∧ Reported json none attempts c.stdout c'.stdout := by
  cases json with
  | true => exact ⟨_, rfl, rfl, _, isReport_runReport _ _, rfl⟩
  | false => exact ⟨_, rfl, rfl, rfl⟩

theorem succeeded_iff (a : Attempt) :
    a.succeeded ↔ a.outcome.timedOut = false ∧ a.outcome.exitCode = some 0 := by
  simp [Attempt.succeeded, JobEnd.succeeded]

/-- Copying files prints nothing. -/
theorem fixes_copyKept (stage output : Path) :
    Fixes (beside places) (copyKept stage output : M μ Unit) :=
  Fixes.forM (fun _ => fixes_during (fixes_editing _) _) keptFiles

variable [Account]

/-- The files of the last attempt are kept if it was successful, and the report follows. -/
theorem keepLast_bind {attempts : List Attempt} {a : Attempt} (h : attempts.getLast? = some a)
    (segments : List String) (f : Option Path → M μ α) :
    (keepLast segments attempts >>= f) =
      if a.succeeded then keepOutput segments a.stage >>= fun output => f (some output)
      else f none := by
  rw [keepLast, h]
  dsimp only
  split
  · rw [map_eq_pure_bind, bind_assoc]
    simp only [pure_bind]
  · rw [pure_bind]

/-- **What follows a success.** The output directory of the run is made and emptied, once. -/
inductive Kept (context : Context μ) (env : ProcessEnv) (json : Bool) (segments : List String)
    (attempts : List Attempt) (a : Attempt) (c : Console μ) :
    EStateM.Result Trouble (Console μ) Unit → Prop
  /-- It is not made, and the job fails without a report. -/
  | noOutput {e : RuntimeError} {rt : Runtime μ} :
    makeOutput segments true c.runtime = .error e rt →
    Kept context env json segments attempts a c (.error e.trail (c.withRuntime rt))
  /-- It does not take the files, and the job fails without a report. -/
  | notCopied {output : Path} {rt : Runtime μ} {e : Trouble} {c' : Console μ} :
    makeOutput segments true c.runtime = .ok output rt →
    context.outputPath env a.run segments = .ok output →
    copyKept a.stage output (c.withRuntime rt) = .error e c' → c'.stdout = c.stdout →
    Kept context env json segments attempts a c (.error e c')
  /-- It takes the files, and the report follows. -/
  | copied {output : Path} {rt : Runtime μ} {c₁ c' : Console μ} :
    makeOutput segments true c.runtime = .ok output rt →
    context.outputPath env a.run segments = .ok output →
    copyKept a.stage output (c.withRuntime rt) = .ok () c₁ → c'.runtime = c₁.runtime →
    Reported json (some output) attempts c.stdout c'.stdout →
    Kept context env json segments attempts a c (.ok () c')

/-- What is kept of a successful attempt, and what is told of it. -/
theorem kept_keepOutput {context : Context μ} {env : ProcessEnv} {printed : String} {a : Attempt}
    {c : Console μ} (h : InRun context env printed a.run c) (segments : List String)
    (attempts : List Attempt) :
    Kept context env json segments attempts a c ((do
      let output ← keepOutput segments a.stage
      concludeJob plan json attempts (some output)) c) := by
  rw [keepOutput, bind_assoc]
  cases hmake : makeOutput segments true c.runtime with
  | error e rt =>
    rw [Stateful.bind_of_error (onRuntime_of_error hmake)]
    exact .noOutput hmake
  | ok output rt =>
    have houtput : context.outputPath env a.run segments = .ok output :=
      h.env ▸ eq_ok_of_makeDirectory_workPath h.current hmake
    have hprinted := congrArg Prod.snd (fixes_copyKept a.stage output (c.withRuntime rt))
    rw [Stateful.bind_of_ok (onRuntime_of_ok hmake), bind_assoc]
    cases hcopy : copyKept a.stage output (c.withRuntime rt) with
    | error e c' =>
      rw [hcopy] at hprinted
      rw [Stateful.bind_of_error hcopy]
      exact .notCopied hmake houtput hcopy hprinted
    | ok _ c₁ =>
      -- what the report follows is what was printed before the files were copied
      rw [hcopy] at hprinted
      rw [Stateful.bind_of_ok hcopy, pure_bind]
      obtain ⟨c', hconcluded, hruntime, hreported⟩ :=
        concludeJob_some plan json attempts output c₁
      rw [hconcluded]
      have hbefore : c₁.stdout = c.stdout := hprinted
      exact .copied hmake houtput hcopy hruntime (hbefore ▸ hreported)

end Conclusion

/-! ### The whole job -/

section Job

variable [Account] (around : Surroundings μ) (plan : RunPlan) (json : Bool) (setting : JobSetting)
  (context : Context μ) (c : Console μ) (bad : List (Trial Trouble (Console μ) Attempt))
  (last : Trial Trouble (Console μ) Attempt)

/-- **The course of a job** that was prepared: the attempts that were no success, and the last
one. -/
structure JobCourse : Prop where
  /-- Attempts are made until one fails, one is a success, or none are left. -/
  course : Course (tryJob around plan json setting) (tryAgain plan json) Attempt.succeeded 0
    plan.retries c bad last
  /-- All but the last one were no success. -/
  vain : ∀ t ∈ bad, ∃ a, t.came = .ok a ∧
    ¬(a.outcome.timedOut = false ∧ a.outcome.exitCode = some 0)
  /-- They are numbered from 0, and each has the process environment from before the job. -/
  numbered : ∀ i t, (bad ++ [last])[i]? = some t →
    Numbered around plan json setting context c.runtime.machine.env c.stdout i t
  /-- If the last one failed, the job fails likewise, and that is all. -/
  failed : ∀ e, last.came = .error e → runJob around plan json c = .error e last.finish
  /-- If it did not, each of them has come to something. -/
  listed : ∀ a, last.came = .ok a →
    (answers (bad ++ [last])).map .ok = (bad ++ [last]).map (·.came)
  /-- If it was a success, its files are kept and the report follows. -/
  kept : ∀ a, last.came = .ok a → a.outcome.timedOut = false → a.outcome.exitCode = some 0 →
    Kept context c.runtime.machine.env json setting.segments (answers (bad ++ [last])) a
      last.finish (runJob around plan json c)
  /-- If it was not, it was the last retry, and the job fails after the report. -/
  exhausted : ∀ a, last.came = .ok a →
    ¬(a.outcome.timedOut = false ∧ a.outcome.exitCode = some 0) → bad.length = plan.retries ∧
      ∃ c', runJob around plan json c =
          .error [s!"Command failed after {plan.retries + 1} attempt(s): " ++
            " ".intercalate plan.command] c' ∧
        c'.runtime = last.finish.runtime ∧
        Reported json none (answers (bad ++ [last])) c.stdout c'.stdout

variable {around plan json setting context c bad last}

/-- A job fails as its last attempt does. -/
theorem runJob_of_error {e : Trouble} (hprepare : prepareJob plan c = .ok setting c)
    (hrun : Retry.run (tryJob around plan json setting) (tryAgain plan json) Attempt.succeeded
      plan.retries c = outcome bad last) (he : last.came = .error e) :
    runJob around plan json c = .error e last.finish := by
  rw [outcome, he] at hrun
  rw [runJob, Stateful.bind_of_ok hprepare, Stateful.bind_of_error hrun]

/-- Where the last attempt did not fail, its files are kept if it was successful, and a report
follows. -/
theorem runJob_of_ok {a : Attempt} (hprepare : prepareJob plan c = .ok setting c)
    (hrun : Retry.run (tryJob around plan json setting) (tryAgain plan json) Attempt.succeeded
      plan.retries c = outcome bad last) (ha : last.came = .ok a) :
    runJob around plan json c =
      (if a.succeeded then do
        let output ← keepOutput setting.segments a.stage
        concludeJob plan json (answers (bad ++ [last])) (some output)
      else concludeJob plan json (answers (bad ++ [last])) none) last.finish := by
  have hgetLast : (answers (bad ++ [last])).getLast? = some a := by
    rw [answers_append_singleton ha, List.getLast?_append, List.getLast?_singleton]
    rfl
  rw [outcome, ha] at hrun
  rw [runJob, Stateful.bind_of_ok hprepare, Stateful.bind_of_ok hrun, keepLast_bind hgetLast]

/-- What is made of the attempts at a job is its course. -/
theorem JobCourse.of_run (hprepare : prepareJob plan c = .ok setting c)
    (hcourse : Course (tryJob around plan json setting) (tryAgain plan json) Attempt.succeeded 0
      plan.retries c bad last)
    (hnumbered : ∀ i t, (bad ++ [last])[i]? = some t →
      Numbered around plan json setting context c.runtime.machine.env c.stdout i t)
    (hrun : Retry.run (tryJob around plan json setting) (tryAgain plan json) Attempt.succeeded
      plan.retries c = outcome bad last) :
    JobCourse around plan json setting context c bad last where
  course := hcourse
  vain t ht := by
    obtain ⟨a, ha, hbad⟩ := hcourse.notGood t ht
    refine ⟨a, ha, fun hgood => ?_⟩
    rw [(succeeded_iff a).2 hgood] at hbad
    cases hbad
  numbered := hnumbered
  failed _ he := runJob_of_error hprepare hrun he
  listed _ ha := map_ok_answers (hcourse.came_ok ha)
  kept a ha htime hcode := by
    -- the last attempt stands behind all others, so its number is theirs
    obtain ⟨-, hfinish, -, hcame⟩ := hnumbered bad.length last (by simp)
    have hjob := runJob_of_ok hprepare hrun ha
    rw [if_pos ((succeeded_iff a).2 ⟨htime, hcode⟩)] at hjob
    rw [hjob]
    exact kept_keepOutput plan json ((hcame a ha).1 ▸ hfinish) _ _
  exhausted a ha hbad := by
    have hgood : ¬a.succeeded := fun h => hbad ((succeeded_iff a).1 h)
    -- no attempt failed or was a success, so only the number of retries can have ended them
    have hall : bad.length = plan.retries := (hcourse.ended a ha).resolve_left hgood
    have hlength : (answers (bad ++ [last])).length = plan.retries + 1 := by
      simpa [hall] using congrArg List.length (map_ok_answers (hcourse.came_ok ha))
    have hjob := runJob_of_ok hprepare hrun ha
    obtain ⟨c', hconcluded, hruntime, hreported⟩ :=
      concludeJob_none plan json (answers (bad ++ [last])) last.finish
    obtain ⟨-, hfinish, -, -⟩ := hnumbered bad.length last (by simp)
    rw [if_neg hgood, hconcluded, hlength] at hjob
    exact ⟨hall, c', hjob, hruntime, hfinish.printed ▸ hreported⟩

end Job

/-- **How a job is run** in the first run of a context. Unless it cannot be prepared, it has a
course. -/
theorem runJob_course [Account] (around : Surroundings μ) (plan : RunPlan) (json : Bool)
    {c : Console μ} {context : Context μ} (hc : c.runtime.current? = some ⟨context, 0⟩) :
    (∃ e, prepareJob plan c = .error e c ∧ runJob around plan json c = .error e c) ∨
      ∃ setting bad last, prepareJob plan c = .ok setting c ∧
        JobCourse around plan json setting context c bad last := by
  have hsame := fixes_prepareJob id plan c
  cases hprepare : prepareJob plan c with
  | error e c' =>
    rw [hprepare] at hsame
    obtain rfl : c' = c := hsame
    exact .inl ⟨e, rfl, by rw [runJob, Stateful.bind_of_error hprepare]⟩
  | ok setting c' =>
    rw [hprepare] at hsame
    obtain rfl : c' = c := hsame
    obtain ⟨bad, last, hcourse, hnumbered, hrun⟩ :=
      exists_course_tryJob around plan json setting ⟨hc, rfl, rfl⟩ plan.retries
    exact .inr ⟨setting, bad, last, rfl, .of_run hprepare hcourse hnumbered hrun⟩

/-- **How the program runs a job.** If no context can be entered or the job cannot be prepared, that
is all. Otherwise the job has a course on the machine that the program found, from the first run of
a context on, and the program ends as the job does. -/
theorem runCommand_course [Account] (around : Surroundings μ) (g : Globals) (plan : RunPlan)
    (m : Machine μ) :
    (∃ e, enterContext around g (.onMachine m) = .error e (.onMachine m) ∧
        runCommand around g (.run plan) m = .ofResult (.error e (.onMachine m))) ∨
      ∃ context c, enterContext around g (.onMachine m) = .ok () c ∧
        c.runtime.current? = some ⟨context, 0⟩ ∧ c.runtime.machine = m ∧ c.stdout = "" ∧
        runCommand around g (.run plan) m = .ofResult (runJob around plan g.json c) ∧
        ((∃ e, prepareJob plan c = .error e c ∧ runJob around plan g.json c = .error e c) ∨
          ∃ setting bad last, prepareJob plan c = .ok setting c ∧
            JobCourse around plan g.json setting context c bad last) := by
  rcases enterContext_cases around g m with ⟨e, h⟩ | ⟨context, h⟩
  · exact .inl ⟨e, h, congrArg Outcome.ofResult (Stateful.bind_of_error h)⟩
  · have hcurrent := current?_install context (Runtime.onMachine m)
    exact .inr ⟨context, _, h, hcurrent, rfl, rfl,
      congrArg Outcome.ofResult (Stateful.bind_of_ok h), runJob_course around plan g.json hcurrent⟩

/-! ### A job that is tried twice -/

attribute [local instance] Account.unlisted

/-- A job that does what it should on the first retry only. -/
def flakyJob : Spawner Unit := fun job m =>
  let retry : Path := .ofText "/site/stage/ts/generic/default/default/build_retry1"
  .ended ⟨some (if job.directory = retry then 0 else 2), false, 5⟩ m.files

/-- Surroundings in which all jobs are like that. -/
def flakySurroundings : Surroundings Unit where
  host := { name := "login1", now := ⟨0, 0, 0⟩, lmodAt := fun _ _ _ => .error .notFound }
  spawn := flakyJob
  clock := id

/-- A job with two retries. -/
def buildPlan : RunPlan := ⟨[], none, "build", 2, none, ["make"]⟩

/-- A site below `/site`, with values as output. -/
def siteGlobals : Globals where
  json := true
  configFile := none
  system := some "generic"
  options := [("systems/prefix", .string "/site"), ("general/timestamp", .string "ts")]

/-- A machine with nothing on it. -/
def bareMachine : Machine Unit := ⟨.empty, .empty, [], ()⟩

/-- The console when the program is started. -/
def startedConsole : Console Unit :=
  left (enterContext flakySurroundings siteGlobals (.onMachine bareMachine))

/-- What is printed for this job. -/
def buildReport : String := "\n".intercalate
  ["\x7b", "  \"success\": true,",
    "  \"outputdir\": \"/site/output/ts/generic/default/default/build_retry1\",",
    "  \"attempts\": [", "    \x7b", "      \"run\": 0,",
    "      \"stagedir\": \"/site/stage/ts/generic/default/default/build\",",
    "      \"exit_code\": 2,", "      \"timed_out\": false,", "      \"elapsed_ms\": 5",
    "    \x7d,", "    \x7b", "      \"run\": 1,",
    "      \"stagedir\": \"/site/stage/ts/generic/default/default/build_retry1\",",
    "      \"exit_code\": 0,", "      \"timed_out\": false,", "      \"elapsed_ms\": 5",
    "    \x7d", "  ]", "\x7d", ""]

/-- The first attempt is no success and the second one is. The report lists both, and the output
directory of the second run is made and takes its files. -/
theorem runCommand_course_buildPlan :
    (runCommand flakySurroundings siteGlobals (.run buildPlan) bareMachine).stdout = buildReport ∧
      (runCommand flakySurroundings siteGlobals (.run buildPlan) bareMachine).machine.files.find?
          ["site", "output", "ts", "generic", "default", "default", "build_retry1", "job.out"] =
        some (.file [] false) ∧
      ∃ context setting bad last a, startedConsole.runtime.current? = some ⟨context, 0⟩ ∧
        JobCourse flakySurroundings buildPlan true setting context startedConsole bad last ∧
        bad ≠ [] ∧ last.came = .ok a ∧ ∃ output rt c',
          makeOutput setting.segments true last.finish.runtime = .ok output rt ∧
          context.outputPath .empty a.run setting.segments = .ok output ∧
          runJob flakySurroundings buildPlan true startedConsole = .ok () c' ∧
          Reported true (some output) (answers (bad ++ [last])) "" c'.stdout := by
  have hdone : (runCommand flakySurroundings siteGlobals (.run buildPlan) bareMachine).code = 0 ∧
      (runCommand flakySurroundings siteGlobals (.run buildPlan) bareMachine).stdout =
        buildReport ∧
      (runCommand flakySurroundings siteGlobals (.run buildPlan) bareMachine).machine.files.find?
          ["site", "output", "ts", "generic", "default", "default", "build_retry1", "job.out"] =
        some (.file [] false) := by decide +kernel
  obtain ⟨hcode, hprinted, hfile⟩ := hdone
  refine ⟨hprinted, hfile, ?_⟩
  rcases runCommand_course flakySurroundings siteGlobals buildPlan bareMachine with
    ⟨e, -, hout⟩ | ⟨context, c, henter, hcurrent, hmachine, hnothing, hout, hjob⟩
  · rw [hout] at hcode
    cases hcode
  obtain rfl : startedConsole = c := by rw [startedConsole, henter, left]
  have hjson : siteGlobals.json = true := rfl
  rw [hjson] at hout hjob
  obtain ⟨c', hok⟩ : ∃ c', runJob flakySurroundings buildPlan true startedConsole = .ok () c' := by
    cases hrun : runJob flakySurroundings buildPlan true startedConsole with
    | ok _ c' => exact ⟨c', rfl⟩
    | error e c' =>
      rw [hout, hrun] at hcode
      cases hcode
  rcases hjob with ⟨e, -, hjob⟩ | ⟨setting, bad, last, hprepare, hcourse⟩
  · cases hjob.symm.trans hok
  have hfirst : (answer ((do
      let setting ← prepareJob buildPlan
      tryJob flakySurroundings buildPlan true setting) startedConsole)).toOption.map
        Attempt.succeeded = some false := by decide +kernel
  rw [Stateful.bind_of_ok hprepare] at hfirst
  refine ⟨context, setting, bad, last, ?_⟩
  cases hlast : last.came with
  | error e => cases (hcourse.failed e hlast).symm.trans hok
  | ok a =>
    by_cases hgood : a.outcome.timedOut = false ∧ a.outcome.exitCode = some 0
    · refine ⟨a, hcurrent, hcourse, ?_, rfl, ?_⟩
      · rintro rfl
        -- were there only one attempt, it would be the first one
        have hcame : last.came =
            answer (tryJob flakySurroundings buildPlan true setting startedConsole) := by
          rw [hcourse.course.made last (by simp), hcourse.course.begun last rfl, Trial.make]
        have hsucceeded := (succeeded_iff a).2 hgood
        rw [← hcame, hlast] at hfirst
        simp [Except.toOption, hsucceeded] at hfirst
      · obtain ⟨-, hfinish, -, -⟩ := hcourse.numbered bad.length last (by simp)
        have hkept := hcourse.kept a hlast hgood.1 hgood.2
        rw [hok, hmachine] at hkept
        cases hkept with
        | copied hmake houtput hcopy hruntime hreported =>
          exact ⟨_, _, _, hmake, houtput, hok, hnothing ▸ hfinish.printed ▸ hreported⟩
    · obtain ⟨-, c', hfailed, -⟩ := hcourse.exhausted a hlast hgood
      cases hfailed.symm.trans hok

end SiteRuntime.CommandLine
