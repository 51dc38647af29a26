import SiteRuntime.CommandLine.Show
import SiteRuntime.Job.Retry

/-!
# Running a job

A job is run in a stage directory of its own for each attempt, inside the environments asked for.
What it prints is kept in files beside the commands that activated the environments; after a
successful attempt these files are copied to the output directory.
-/

namespace SiteRuntime.CommandLine

open Console

variable {μ : Type} [Account]

/-- The file that takes what a job prints. -/
def stdoutFile : String := "job.out"

/-- The file that takes the messages of a job. -/
def stderrFile : String := "job.err"

/-- The file of the commands that activated the environments of a job. -/
def envFile : String := "job.env"

/-- One attempt at a job. -/
structure Attempt where
  /-- The number of the run. -/
  run : Nat
  /-- The stage directory. -/
  stage : Path
  /-- How the job ended. -/
  outcome : JobEnd
  deriving DecidableEq, Repr

namespace Attempt

/-- Whether the job did what it should. -/
def succeeded (a : Attempt) : Bool := a.outcome.succeeded

/-- How the job ended, in words. -/
def outcomeText (a : Attempt) : String :=
  if a.outcome.timedOut then "timed out"
  else
    match a.outcome.exitCode with
    | some code => s!"exit code {code}"
    | none => "killed by signal"

/-- The line printed for an attempt. -/
def text (a : Attempt) : String :=
  let elapsed := (Duration.mk (a.outcome.elapsed * 1000000)).text
  s!"Run {a.run} → {a.stage} ({a.outcomeText}, {elapsed})"

/-- An attempt as a value. -/
def report (a : Attempt) : Json :=
  let code := match a.outcome.exitCode with
    | some code => .ofNat code
    | none => .null
  .object
    [("run", .ofNat a.run), ("stagedir", ofPath a.stage),
      ("exit_code", if a.outcome.timedOut then .null else code),
      ("timed_out", .bool a.outcome.timedOut), ("elapsed_ms", .ofNat a.outcome.elapsed)]

end Attempt

/-! ### One attempt -/

/-- The script of the commands that activated the environments. -/
def envScript (commands : List String) : String := "\n".intercalate commands ++ "\n"

/-- The job that a plan asks for in a stage directory, if there is a command. -/
def RunPlan.job? (plan : RunPlan) (stage : Path) : Option Job :=
  match plan.command with
  | [] => none
  | program :: arguments => some
    { directory := stage, program, arguments
      stdout := stage.joinText stdoutFile
      stderr := stage.joinText stderrFile
      limit := plan.limit.map (·.nanos) }

/-- Runs a job and waits for its end. -/
def awaiting (spawn : Spawner μ) (job : Job) : M μ JobEnd := fun c =>
  match spawn job c.runtime.machine with
  | .notStarted cause => .error [s!"Failed to spawn '{job.program}'", cause.message] c
  | .lost cause files => .error [cause.message] (c.withFiles files)
  | .notStopped cause files =>
    .error ["Failed to kill timed out job", cause.message] (c.withFiles files)
  | .ended how files => .ok how (c.withFiles files)

/-- Activates the environments and runs the job in a directory. -/
def activateAndSpawn (around : Surroundings μ) (stage : Path) (environments : List Environment)
    (plan : RunPlan) : M μ JobEnd := do
  let backend := (← running).context.backend
  let loaded ← during activating (onRuntime (Runtime.load (some backend) environments))
  during "Failed to write environment script"
    (writeFile (stage.joinText envFile) (Bytes.ofText (envScript loaded.commands)))
  during "Failed to create job.out" (writeFile (stage.joinText stdoutFile) [])
  during "Failed to create job.err" (writeFile (stage.joinText stderrFile) [])
  match plan.job? stage with
  | none => throw ["No command given"]
  | some job => awaiting around.spawn job

/-- An operation after which the process environment is as it was before, however it ends. -/
def keepingEnv {α : Type} (op : M μ α) : M μ α := fun c =>
  let before := Snapshot.capture c.runtime.machine.env
  let restored := fun (c : Console μ) =>
    c.withRuntime { c.runtime with machine := Activation.restored before c.runtime.machine }
  match op c with
  | .ok x c => .ok x (restored c)
  | .error e c => .error e (restored c)

/-- One attempt, in a fresh stage directory. -/
def attemptJob (around : Surroundings μ) (segments : List String)
    (environments : List Environment) (plan : RunPlan) : M μ Attempt := do
  let stage ← onRuntime (Runtime.makeStage segments true)
  let outcome ← keepingEnv (activateAndSpawn around stage environments plan)
  let run := (← running).run
  return { run, stage, outcome := { outcome with elapsed := around.clock outcome.elapsed } }

/-! ### All attempts -/

/-- The partition that a job runs on: the one asked for, or else the first. -/
def partitionOf (s : System μ) (asked : Option String) : Except Trouble String :=
  match asked, s.partitions with
  | some name, _ => .ok name
  | none, p :: _ => .ok p.name
  | none, [] => .error [s!"System '{s.name}' has no partitions"]

/-- What the environments of a job are called together. -/
def environmentLabel (names : List String) : String :=
  if names.isEmpty then "default" else "+".intercalate names

/-- The files of an attempt that are kept. -/
def keptFiles : List String := [stdoutFile, stderrFile, envFile]

/-- Copies these files from one directory to another. -/
def copyKept (stage output : Path) : M μ Unit :=
  keptFiles.forM fun name =>
    during s!"Failed to copy {name} to {output}"
      (copyFile (stage.joinText name) (output.joinText name))

/-- Keeps the files of a successful attempt in the output directory. -/
def keepOutput (segments : List String) (stage : Path) : M μ Path := do
  let output ← onRuntime (Runtime.makeOutput segments true)
  copyKept stage output
  return output

/-- The outcome of all attempts as a value. -/
def runReport (output : Option Path) (attempts : List Attempt) : Json :=
  .object
    [("success", .bool output.isSome),
      ("outputdir", match output with
        | some p => ofPath p
        | none => .null),
      ("attempts", .array (attempts.map Attempt.report))]

/-- What a job is run with. -/
structure JobSetting where
  /-- The segments of its directories. -/
  segments : List String
  /-- The environments that are active around it. -/
  environments : List Environment

/-- Finds out what a job is run with. -/
def prepareJob (plan : RunPlan) : M μ JobSetting := do
  let system := (← running).context.system
  let partition ← match partitionOf system plan.partition with
    | .ok name => pure name
    | .error e => throw e
  let environments ← environmentsOf plan.environments (some partition)
  let segments := [system.name, partition, environmentLabel plan.environments, plan.name]
  return { segments, environments }

/-- Makes one attempt and tells of it. -/
def tryJob (around : Surroundings μ) (plan : RunPlan) (json : Bool) (setting : JobSetting) :
    M μ Attempt := do
  let a ← attemptJob around setting.segments setting.environments plan
  if !json then say .info a.text
  return a

/-- Goes on to the retry of a number. -/
def tryAgain (plan : RunPlan) (json : Bool) (number : Nat) : M μ Unit := do
  let _ ← onRuntime (Runtime.nextRuns 1)
  if !json then say .warning s!"Retrying ({number} of {plan.retries})"

/-- Keeps the files of the last attempt if it was successful. -/
def keepLast (segments : List String) (attempts : List Attempt) : M μ (Option Path) :=
  match attempts.getLast? with
  | some last =>
    if last.succeeded then (some <$> keepOutput segments last.stage) else pure none
  | none => pure none

/-- Reports on all attempts. The job has failed unless there is output. -/
def concludeJob (plan : RunPlan) (json : Bool) (attempts : List Attempt) (output : Option Path) :
    M μ Unit := do
  if json then printJson (runReport output attempts)
  match output with
  | some p => if !json then say .success s!"Output saved in {p}"
  | none =>
    let line := " ".intercalate plan.command
    throw [s!"Command failed after {attempts.length} attempt(s): {line}"]

/-- Runs a job and tries it again if it fails. -/
def runJob (around : Surroundings μ) (plan : RunPlan) (json : Bool) : M μ Unit := do
  let setting ← prepareJob plan
  let attempts ← Retry.run (tryJob around plan json setting) (tryAgain plan json)
    Attempt.succeeded plan.retries
  let output ← keepLast setting.segments attempts
  concludeJob plan json attempts output

end SiteRuntime.CommandLine
