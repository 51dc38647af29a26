import SiteRuntime.Session.State

/-!
# Running a session

`perform` does one step and `runSteps` a list of them. The two call each other, because the body of
a scope is itself a list of steps, with guards of its own that are dropped when it ends.
-/

namespace SiteRuntime.Session

/-! ### Configurations -/

/-- The configuration that a plan makes on a machine. -/
def ConfigPlan.make (host : String) (m : Machine Store) (plan : ConfigPlan) :
    Except ConfigError SiteConfig := do
  let c ← match plan.source with
    | .file path => SiteConfig.load m.files m.cwd path
    | .document value => SiteConfig.ofDocument value
    | .generic => pure .generic
  let c ← match plan.narrowing with
    | .none => pure c
    | .forHost => c.selectForHost host
    | .to selection => c.select selection
  let c ← match plan.host with
    | some host => c.selectForHost host
    | none => pure c
  return plan.options.foldl (fun c o => c.addSticky o.1 o.2) c

/-- The configuration that a plan makes now. -/
def configOf (host : Host Store) (plan : ConfigPlan) : M SiteConfig := do
  ofExcept .config (plan.make host.name (← get).runtime.machine)

/-! ### Environments -/

/-- The environment that a reference stands for. -/
def environmentOf : EnvironmentRef → M Environment
  | .given e => return e
  | .configured name => do
    ofExcept .config ((← onRuntime Runtime.running).context.config.environment name)
  | .preload => return (← onRuntime Runtime.running).context.system.preload
  | .partition name => do
    let system := (← onRuntime Runtime.running).context.system
    match system.partition? name with
    | some p => return system.localEnvironment p
    | none => throw (.noPartition name)

/-! ### Steps of the process -/

/-- The answer to a call of a module system. -/
def performCall (b : Backend Store) (call : ModuleCall) : M Value := do
  let m := (← get).runtime.machine
  match call with
  | .loadModule name force => return .texts (← onMachine .modules (b.loadModule name force))
  | .load name => onMachine .modules (b.load name); return .nothing
  | .unload name => onMachine .modules (b.unload name); return .nothing
  | .isLoaded name => return .flag (b.isLoaded m name)
  | .loaded => return .texts (b.loaded m)
  | .conflicts name => return .texts (← onMachine .modules (b.conflicts name))
  | .loadCommands name => return .texts (b.loadCommands name)
  | .unloadCommands name => return .texts (b.unloadCommands name)
  | .searchPath => return .texts (b.searchPath m)
  | .addPaths paths => onMachine .modules (b.addPaths paths); return .nothing
  | .removePaths paths => onMachine .modules (b.removePaths paths); return .nothing

/-- The directory of the scripted module command, which listings leave out. -/
def hiddenName : String := ".lmod"

/-- Whether a listed name is the hidden directory or lies below it. -/
def isHidden (name : String) : Bool :=
  (Text.splitOn '/' name.toList).head? = some hiddenName.toList

/-- The listing of everything below the working directory. -/
def listing (m : Machine Store) : List String :=
  (m.files.listing m.cwd).filter fun name => !isHidden name

/-- Writes a file and makes its directory. -/
def writeFile (path : Path) (content : Bytes) (cwd : Position) : FileTree.Edit Unit := do
  match path.parent? with
  | some parent => FileTree.makeAll cwd parent
  | none => pure ()
  fun t =>
    match t.write cwd path content with
    | .ok t => .ok () t
    | .error e => .error e t

section Steps

variable [Account]

/-- All that the current context says of itself. -/
def reportOf (r : Running Store) (e : ProcessEnv) : Report where
  system := r.context.system.name
  run := r.run
  prefixPath := r.context.prefixPath e
  stage := r.context.configuredDirectory e "stagedir"
  output := r.context.configuredDirectory e "outputdir"
  perflog := r.context.configuredDirectory e "perflogdir"
  stagePrefix := r.context.stagePrefix e
  outputPrefix := r.context.outputPrefix e
  perflogPrefix := r.context.perflogPrefix e
  timestamp := r.context.timestamp

/-- The current context in brief; nothing if there is none. -/
def briefOf (rt : Runtime Store) : Value :=
  match rt.current? with
  | some r => .brief r.context.system.name r.run
  | none => .nothing

/-- What one call of a function that switches the runtime does in its scope. -/
def switchedBody (call : SwitchedCall) : Runtime.Op Store Json := do
  let _ ← Runtime.nextRuns call.runs
  match call.option with
  | some path => Runtime.asking ((← Runtime.running).context.config.get path)
  | none => return .string (← Runtime.stagePath call.segments).text

/-- One call of a function that switches the runtime. -/
def switchedCall (host : Host Store) (c : Option SiteConfig) (call : SwitchedCall) :
    StateM (Runtime Store) (Except RuntimeError Json) :=
  Runtime.within host c .error (Runtime.attempt (switchedBody call))

/-- The results of calls of a function that switches the runtime. -/
def switchedCalls (host : Host Store) (c : Option SiteConfig) (calls : List SwitchedCall) :
    StateM (Runtime Store) (List (Except RuntimeError Json)) :=
  calls.mapM (switchedCall host c)

/-- The option that no site sets. -/
def unsetOption : String := "systems/0/no_such_option"

/-- How the body of a scope ends. -/
def endingOf (rt : Runtime Store) : Ending → Ended
  | .ok => .ok
  | .abrupt => .abrupt
  | .failure =>
    match rt.current? with
    | none => .failed .notConfigured
    | some r =>
      match r.context.option unsetOption with
      | .ok _ => .ok
      | .error e => .failed e

/-- A body run in a scope with a context of its own, or none. Its guards are dropped when it ends,
and then the scope is left. -/
def inScope (host : Host Store) (c : Option SiteConfig) (body : State → List Answer × State)
    (ending : Ending) : M Value := fun s =>
  match Guard.switchTo host host.now c s.runtime with
  | .error e rt => .ok (.within [] (.failed e)) { s with runtime := rt }
  | .ok guard rt =>
    let (answers, s') := body { s with runtime := rt, guards := [] }
    let ended := endingOf s'.runtime ending
    let s' := dropGuards s'
    .ok (.within answers ended) { s' with runtime := guard.drop s'.runtime, guards := s.guards }

/-- A step together with the changes it makes to the process environment. -/
def answering (op : M Value) (s : State) : Answer × State :=
  match op s with
  | .ok v s' => (.done v (changes s.env s'.env), s')
  | .error e s' => (.failed e (changes s.env s'.env), s')

mutual

/-- Does a step. -/
def perform (host : Host Store) : Step → M Value
  | .set name value => do
    modify fun s => s.mapMachine fun m => m.write [.set name value]
    return .nothing
  | .unset name => do
    modify fun s => s.mapMachine fun m => m.write [.unset name]
    return .nothing
  | .processEnv => return .processEnv (← env)
  | .expand input => return .text ((← env).expand input)
  | .capture => return .number (← keep (.capture (← env)))
  | .restore n => do
    let image ← snapshot n
    modify fun s => s.mapMachine (Activation.restored image)
    return .nothing
  | .image n name => do
    let image ← snapshot n
    return .image image.size image.isEmpty (image.value? name)
  | .diff older newer => do
    let older ← snapshot older
    let newer ← snapshot newer
    return .diff (older.diff newer)
  | .write path content => do
    onFiles (writeFile path content)
    return .nothing
  | .tree => return .texts (listing (← get).runtime.machine)
  | .makeDirectory path wipe => do
    onFiles fun cwd => FileTree.makeDirectory cwd path wipe
    return .nothing
  | .removeDirectory path => do
    onFiles fun cwd => FileTree.removeIfThere cwd path
    return .nothing
  | .init plan => do
    let c ← configOf host plan
    let r ← onRuntime (Runtime.init host c)
    return .brief r.context.system.name r.run
  | .pushRuntime plan start => do
    let c ← plan.mapM (configOf host)
    push (← onRuntime (Guard.switchTo host (start.getD host.now) c))
    return briefOf (← get).runtime
  | .pushFile path system options => do
    push (← onRuntime (Guard.switchToFile host path system options))
    return briefOf (← get).runtime
  | .pushEnvironment name modules assignments => do
    let b ← backend name
    let entered ← onRuntime (Guard.activate b modules assignments)
    push entered.guard
    return .entered entered.environment entered.commands
  | .pushPaths paths => do
    push (← onRuntime (Guard.usePaths paths))
    return .nothing
  | .pop place => do
    match place, (← get).guards.length with
    | some place, _ => dropAt place
    | none, 0 => throw .noGuard
    | none, n + 1 => dropAt n
    return .number (← get).guards.length
  | .within plan steps ending => do
    let c ← plan.mapM (configOf host)
    inScope host c (runSteps host steps) ending
  | .switch plan calls => do
    let c ← plan.mapM (configOf host)
    fun s =>
      let (results, rt) := switchedCalls host c calls s.runtime
      .ok (.calls results) { s with runtime := rt }
  | .report => do
    let r ← onRuntime Runtime.running
    return .report (reportOf r (← env))
  | .timestamp => do
    let r ← onRuntime Runtime.running
    return .text (← onRuntime (Runtime.asking r.context.timestamp))
  | .describe => return .text (← onRuntime Runtime.running).context.system.text
  | .system => return .system (← onRuntime Runtime.running).context.system
  | .option path => do
    let r ← onRuntime Runtime.running
    return .json (← onRuntime (Runtime.asking (r.context.config.get path)))
  | .nextRuns n => return .number (← onRuntime (Runtime.nextRuns n))
  | .paths segments => do
    let r ← onRuntime Runtime.running
    let e ← env
    return .paths (r.context.stagePath e r.run segments) (r.context.outputPath e r.run segments)
  | .makeStage segments wipe => return .path (← onRuntime (Runtime.makeStage segments wipe))
  | .makeOutput segments wipe => return .path (← onRuntime (Runtime.makeOutput segments wipe))
  | .load refs name => do
    let es ← refs.mapM environmentOf
    let b ← backend name
    let loaded ← onRuntime (Runtime.load (some b) es)
    return .loaded loaded.commands (← keep loaded.before)
  | .emit refs name => do
    let es ← refs.mapM environmentOf
    let b ← backend name
    return .texts (← onRuntime (Runtime.emit (some b) es))
  | .isLoaded refs name => do
    let es ← refs.mapM environmentOf
    let loaded ← es.mapM fun e => do
      let b ← backend name
      return .bool (← onRuntime (Runtime.isLoaded (some b) e))
    return .json (.array loaded)
  | .newBackend name plan => do
    let b ← makeBackend host name plan
    modify fun s => { s with backends := s.backends.insert name b }
    let command := match plan with
      | .lmod command => some command
      | _ => none
    return .backend b.name b.version command
  | .call name call => do performCall (← backend name) call

/-- Does steps in order, each whatever the others answer. -/
def runSteps (host : Host Store) : List Step → State → List Answer × State
  | [], s => ([], s)
  | step :: rest, s =>
    let (answer, s) := answering (perform host step) s
    let (answers, s) := runSteps host rest s
    (answer :: answers, s)

end

end Steps

/-- A whole session: the answers, and the process environment after the guards that are left have
been dropped. -/
def run (host : Host Store) (m : Machine Store) (steps : List Step) : List Answer × ProcessEnv :=
  letI := host.account
  let (answers, s) := runSteps host steps (.onMachine m)
  (answers, (dropGuards s).env)

end SiteRuntime.Session
