import SiteRuntime.Context.Basic
import SiteRuntime.Expansion
import SiteRuntime.Timestamp.Written

/-!
# Directories of a context

Where work is staged and where its output goes. Both lie in a directory named for the start of the
work, below a configured directory or else below the prefix of the installation. The directories of
one piece of work are named by segments, the last of which tells retries apart.
-/

namespace SiteRuntime.Context

variable {μ : Type}

/-! ### Runs -/

/-- What tells a retry from the first run. -/
def retryMark (run : Nat) : String := if run = 0 then "" else s!"_retry{run}"

/-- The segments of a run: the last one bears the mark of the retry. -/
def runSegments (run : Nat) : List String → List String
  | [] => []
  | [last] => [last ++ retryMark run]
  | segment :: rest => segment :: runSegments run rest

@[simp] theorem runSegments_zero (segments : List String) : runSegments 0 segments = segments := by
  induction segments with
  | nil => rfl
  | cons s rest ih =>
    cases rest with
    | nil => simp [runSegments, retryMark]
    | cons t more => simpa [runSegments] using ih

/-- The path of a run below a directory. -/
def runPath (below : Path) (run : Nat) (segments : List String) : Path :=
  below.join (.ofSegments (runSegments run segments))

/-! ### Configured directories -/

variable [Account]

/-- A directory that the configuration names for the system, expanded; an empty name is none. -/
def configuredDirectory (c : Context μ) (e : ProcessEnv) (name : String) :
    Except ConfigError (Option Path) :=
  (c.config.getText (System.optionPath name)).map fun value =>
    (value.filter fun v => !v.isEmpty).map fun v => .ofText (e.expand v)

/-- The prefix of the installation. -/
def prefixPath (c : Context μ) (e : ProcessEnv) : Except ConfigError Path :=
  (c.configuredDirectory e "prefix").map fun p => p.getD (.ofText ".")

/-- The start of the work as the configuration formats it. -/
def timestamp (c : Context μ) : Except ConfigError String := do
  let format := (← c.config.getText "general/0/timestamp").getD ""
  match Timestamp.text? format c.start with
  | some text => return text
  | none => throw (.invalidTimestampFormat format)

/-- A configured directory, or else one below the prefix. -/
def baseDirectory (c : Context μ) (e : ProcessEnv) (configured fallback : String) :
    Except ConfigError Path := do
  match ← c.configuredDirectory e configured with
  | some path => return path
  | none => return (← c.prefixPath e).joinText fallback

/-- A base directory with the start of the work below it. -/
def timedDirectory (c : Context μ) (e : ProcessEnv) (configured fallback : String) :
    Except ConfigError Path := do
  let base ← c.baseDirectory e configured fallback
  return base.joinText (← c.timestamp)

/-- Where stage directories lie. -/
def stagePrefix (c : Context μ) (e : ProcessEnv) : Except ConfigError Path :=
  c.timedDirectory e "stagedir" "stage"

/-- Where output directories lie. -/
def outputPrefix (c : Context μ) (e : ProcessEnv) : Except ConfigError Path :=
  c.timedDirectory e "outputdir" "output"

/-- Where performance logs lie, for all work alike. -/
def perflogPrefix (c : Context μ) (e : ProcessEnv) : Except ConfigError Path :=
  c.baseDirectory e "perflogdir" "perflogs"

/-! ### Directories of one piece of work -/

/-- The stage directory of a run. -/
def stagePath (c : Context μ) (e : ProcessEnv) (run : Nat) (segments : List String) :
    Except ConfigError Path :=
  (c.stagePrefix e).map fun below => runPath below run segments

/-- The output directory of a run. -/
def outputPath (c : Context μ) (e : ProcessEnv) (run : Nat) (segments : List String) :
    Except ConfigError Path :=
  (c.outputPrefix e).map fun below => runPath below run segments

end SiteRuntime.Context
