import SiteRuntime.CommandLine.Console

/-!
# Showing the runtime

The commands that show the system, the directories of a run, and what activates environments.
-/

namespace SiteRuntime.CommandLine

open Console

variable {μ : Type} [Account]

/-! ### The system -/

/-- A partition as the system is shown with it. -/
def partitionReport (s : System μ) (p : Partition) : Json :=
  .ofMembers
    [("name", .string p.name), ("fullname", .string (s.fullName p)),
      ("scheduler", .string p.scheduler), ("launcher", .string p.launcher),
      ("environs", .ofStrings p.environs)]

/-- A path as a value. -/
def ofPath (p : Path) : Json := .string p.text

/-- The system and its directories as a value. -/
def systemReport (c : Context μ) (e : ProcessEnv) : Except ConfigError Json := do
  let timestamp ← c.timestamp
  let installed ← c.prefixPath e
  let stage ← c.stagePrefix e
  let output ← c.outputPrefix e
  let perflog ← c.perflogPrefix e
  return .ofMembers
    [("system", .string c.system.name), ("descr", .string c.system.descr),
      ("hostnames", .ofStrings c.system.hostnames),
      ("modules_system", .string c.backend.name),
      ("partitions", .array (c.system.partitions.map (partitionReport c.system))),
      ("environments", .ofStrings c.config.environmentNames),
      ("timestamp", .string timestamp), ("prefix", ofPath installed),
      ("stage_prefix", ofPath stage), ("output_prefix", ofPath output),
      ("perflog_prefix", ofPath perflog)]

/-- Shows the system and its directories. -/
def showInfo (json : Bool) : M μ Unit := do
  let c := (← running).context
  let e := (← machine).env
  if json then printJson (← asking (systemReport c e))
  else
    printLine c.system.text
    printLine ""
    printStat "Prefix" (← asking (c.prefixPath e)).text
    printStat "Stage prefix" (← asking (c.stagePrefix e)).text
    printStat "Output prefix" (← asking (c.outputPrefix e)).text
    printStat "Perflog prefix" (← asking (c.perflogPrefix e)).text
    printStat "Environments" (", ".intercalate c.config.environmentNames)

/-! ### Directories -/

/-- Shows the directories of a run, and makes them if asked to. -/
def showDirs (segments : List String) (run : Nat) (create keep json : Bool) : M μ Unit := do
  let run ← onRuntime (Runtime.nextRuns run)
  let (stage, output) ← onRuntime (
    if create then return (← Runtime.makeStage segments !keep, ← Runtime.makeOutput segments !keep)
    else return (← Runtime.stagePath segments, ← Runtime.outputPath segments))
  if json then
    printJson (.object
      [("run", .ofNat run), ("stagedir", ofPath stage), ("outputdir", ofPath output),
        ("created", .bool create)])
  else
    printStat "Stage" stage.text
    printStat "Output" output.text

/-! ### Environments -/

/-- The environments of the names, after what the system and a partition need. -/
def environmentsOf (names : List String) (partition : Option String) :
    M μ (List Environment) := do
  let c := (← running).context
  let base ← match partition with
    | none => pure []
    | some name =>
      match c.system.partition? name with
      | some p => pure [c.system.preload, c.system.localEnvironment p]
      | none => throw [s!"System '{c.system.name}' has no partition '{name}'"]
  let named ← names.mapM fun name =>
    during s!"Unknown environment '{name}'" (asking (c.config.environment name))
  return base ++ named

/-- What is said to fail when environments cannot be activated. -/
def activating : String := "Failed to activate environments"

/-- Shows the commands that activate environments. -/
def showEnv (names : List String) (partition : Option String) (json : Bool) : M μ Unit := do
  let environments ← environmentsOf names partition
  let backend := (← running).context.backend
  let commands ← during activating
    (onRuntime (Runtime.emit (some backend) environments))
  if json then printJson (.ofStrings commands) else commands.forM printLine

end SiteRuntime.CommandLine
