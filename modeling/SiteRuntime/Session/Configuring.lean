import SiteRuntime.Config.Update
import SiteRuntime.Session.Run

/-!
# Working on a configuration

Steps on a configuration alone. Each starts from the configuration that the one before it left,
which a step that fails has not changed.
-/

namespace SiteRuntime.Session

/-- The system that a configuration describes on a machine. -/
def systemOf (host : Host Store) (m : Machine Store) (c : SiteConfig) :
    Except Failure (System Store) :=
  (System.ofConfig (fun name => Backend.ofName host.lmodAt name m) c).mapError .system

/-- A step on a configuration. -/
abbrev ConfigM (α : Type) := EStateM Failure SiteConfig α

/-- A change of the configuration. -/
def updating {α : Type} (u : SiteConfig.Update α) : ConfigM α := fun c =>
  match u c with
  | .ok x c => .ok x c
  | .error e c => .error (.config e) c

/-- A question to the configuration. -/
def asked (question : SiteConfig → Except ConfigError Value) : ConfigM Value :=
  updating (SiteConfig.Update.asking question)

/-- A question to the system that the configuration describes. -/
def askedSystem (host : Host Store) (m : Machine Store) (question : System Store → Value) :
    ConfigM Value := fun c =>
  match systemOf host m c with
  | .ok s => .ok (question s) c
  | .error e => .error e c

/-- What a step on a configuration answers. -/
def performOn (host : Host Store) (m : Machine Store) : ConfigStep → ConfigM Value
  | .select selection => do
    updating (SiteConfig.Update.selectFor (.ok host.name) selection)
    return .text? (← get).system
  | .selectForHost h => do
    updating (SiteConfig.Update.selectForHost h)
    return .text? (← get).system
  | .systemName => return .text? (← get).system
  | .source => return .text? ((← get).source.map Path.text)
  | .get path => asked fun c => (c.get path).map .json
  | .getText path => asked fun c => (c.getText path).map .text?
  | .getTexts path => asked fun c => (c.getTexts path).map .texts
  | .add path value => do
    updating (SiteConfig.Update.addSticky path value)
    return .nothing
  | .remove path => do
    match ← updating (SiteConfig.Update.removeSticky path) with
    | some v => return .removed v
    | none => return .nothing
  | .environmentNames => return .texts (← get).environmentNames
  | .environment name => asked fun c => (c.environment name).map .environment
  | .system => askedSystem host m .system
  | .partition name => askedSystem host m fun s => .text? ((s.partition? name).map s.fullName)

/-- Does steps on a configuration in order, each on what the one before it left. -/
def runConfigSteps (host : Host Store) (m : Machine Store) :
    List ConfigStep → SiteConfig → List Answer
  | [], _ => []
  | step :: rest, c =>
    match performOn host m step c with
    | .ok v c => .done v [] :: runConfigSteps host m rest c
    | .error e c => .failed e [] :: runConfigSteps host m rest c

/-- The answers to steps on the configuration that a plan makes. -/
def configure (host : Host Store) (m : Machine Store) (plan : ConfigPlan)
    (steps : List ConfigStep) : Except ConfigError (List Answer) :=
  (plan.make host.name m).map (runConfigSteps host m steps)

end SiteRuntime.Session
