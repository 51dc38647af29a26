import SiteRuntime.Job.Basic
import SiteRuntime.Shell.Evaluate

/-!
# Jobs run by known programs

What jobs do here: one of a small set of programs runs, among them the shell. Time passes only where
a program waits, so that a time limit has a definite meaning: when it has passed, the job is stopped
and what it did before remains.
-/

namespace SiteRuntime.Job

/-- The names of the programs that do their work here. -/
def programNames : List String := ["cat", "echo", "false", "sh", "sleep", "true", "wc"]

/-- The directories in which these programs are installed. -/
def programDirectories : List Position := [["bin"], ["usr", "bin"]]

/-- Directories that are there for any job. -/
def standardDirectories : List Position :=
  [["bin"], ["dev"], ["etc"], ["home"], ["root"], ["tmp"], ["usr"], ["usr", "bin"], ["usr", "lib"],
    ["var"]]

/-- A tree with these programs and directories. -/
def withPrograms (t : FileTree) : FileTree :=
  let t := standardDirectories.foldl (fun t directory => t.put directory .directory) t
  programDirectories.foldl (fun t directory =>
    programNames.foldl (fun t name => t.put (directory ++ [name]) (.file [] true)) t) t

/-- What a file leads to as a stream that is written. -/
def channelOf (files : FileTree) (cwd : Position) (p : Path) : Shell.Channel :=
  match files.resolve cwd p with
  | .ok (position, .file _ _) => .file position 0 ⟨false, true, false⟩
  | _ => .null

/-- The number of the first process of a job. -/
def firstProcess : Nat := 4711

/-- The start of a job in a directory. -/
def start {μ : Type} (job : Job) (m : Machine μ) (directory : Position) : Shell.State :=
  let world : Shell.World :=
    { files := m.files
      channels := #[.null, channelOf m.files m.cwd job.stdout, channelOf m.files m.cwd job.stderr]
      elapsed := 0, limit := job.limit, nextProcess := firstProcess + 1, alive := [firstProcess]
      signals := [] }
  .start world directory m.env [(0, 0), (1, 1), (2, 2)] firstProcess (firstProcess - 1)
    (Shell.Chars.ofText job.program)

/-- How a job ended whose first process ended in a way, after some nanoseconds. -/
def endOf (nanos : Nat) : Shell.End → JobEnd
  | .exited code => ⟨some code, false, nanos / 1000000⟩
  | .killed _ => ⟨none, false, nanos / 1000000⟩
  | .outOfTime => ⟨none, true, nanos / 1000000⟩

/-- How a job ended and the files that it left, told what its program came to. -/
def outcome : EStateM.Result Shell.Halt Shell.State Nat → JobEnd × FileTree
  | .ok code s => (endOf s.world.elapsed (.exited code), s.world.files)
  | .error halt s => (endOf s.world.elapsed halt.asEnd, s.world.files)

/-- Runs a job with the programs that are known here, unless there is no such directory or program.
A job without any time is stopped before it does anything. -/
def runProgram {μ : Type} (job : Job) (m : Machine μ) : Except OsError (JobEnd × FileTree) := do
  let (directory, _) ← m.files.resolve m.cwd job.directory
  let m' := { m with cwd := directory }
  let found ← m'.program (Bytes.ofText job.program) job.arguments
  if job.limit = some 0 then return (⟨none, true, 0⟩, m.files)
  let run := Shell.beProgram (Shell.evaluate Shell.depth) (firstProcess - 1)
    (found.getLast?.getD "") (Shell.Chars.ofText job.program)
    (job.arguments.map Shell.Chars.ofText)
  return outcome (run (job.start m directory))

/-- What becomes of a job here. Once it is started, its end is always learnt. -/
def spawn {μ : Type} : Spawner μ := fun job m =>
  match runProgram job m with
  | .ok (how, files) => .ended how files
  | .error cause => .notStarted cause

end SiteRuntime.Job
