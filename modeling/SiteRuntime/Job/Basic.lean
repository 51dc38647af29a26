import SiteRuntime.Machine

/-!
# Jobs

A job is a command that runs in a directory, apart from the process that starts it: it sees the
environment and changes files, and all that comes back is how it ended. That need not come back
either: the process may fail to start the job, to wait for its end or to stop it. What a job does is
a parameter of everything here, `Spawner`.
-/

namespace SiteRuntime

/-- A command to be run as a job. -/
structure Job where
  /-- The directory it runs in. -/
  directory : Path
  /-- The program. -/
  program : String
  /-- The arguments of the program. -/
  arguments : List String
  /-- The file that takes what it prints. -/
  stdout : Path
  /-- The file that takes its messages. -/
  stderr : Path
  /-- After how many nanoseconds it is stopped. -/
  limit : Option Nat

/-- How a job ended. -/
structure JobEnd where
  /-- The exit code, unless a signal ended it. -/
  exitCode : Option Nat
  /-- Whether it ran out of time. -/
  timedOut : Bool
  /-- How long it ran, in milliseconds. -/
  elapsed : Nat
  deriving DecidableEq, Repr

/-- Whether a job did what it should. -/
def JobEnd.succeeded (e : JobEnd) : Bool := !e.timedOut && e.exitCode = some 0

/-- What becomes of a job. -/
inductive Fate where
  /-- It was not started, and changed no file. -/
  | notStarted (cause : OsError)
  /-- It was started, but its end was not learnt. -/
  | lost (cause : OsError) (files : FileTree)
  /-- It ran out of time, but was not stopped. -/
  | notStopped (cause : OsError) (files : FileTree)
  /-- It ended. -/
  | ended (how : JobEnd) (files : FileTree)

/-- What jobs do on a machine. -/
abbrev Spawner (μ : Type) := Job → Machine μ → Fate

end SiteRuntime
