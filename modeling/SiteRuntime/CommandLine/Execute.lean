import SiteRuntime.CommandLine.Run

/-!
# The program

The program as a function of its surroundings, the machine and its arguments. It ends with 0 if it
did what was asked, with 1 if that failed, and with 2 if the arguments were not understood.
-/

namespace SiteRuntime.CommandLine

open Console

variable {μ : Type}

/-- The version of the program. -/
def version : String := "0.1.0"

/-- What the program left behind. -/
structure Outcome (μ : Type) where
  /-- The exit code. -/
  code : Nat
  /-- What was printed. -/
  stdout : String
  /-- The messages. -/
  stderr : String
  /-- The machine. -/
  machine : Machine μ

/-- What a program leaves behind that did a command. -/
def Outcome.ofResult : EStateM.Result Trouble (Console μ) Unit → Outcome μ
  | .ok _ c => ⟨0, c.stdout, c.stderr, c.runtime.machine⟩
  | .error e c =>
    ⟨1, c.stdout, c.stderr ++ s!"{Tone.error.sign} {troubleText e}\n", c.runtime.machine⟩

/-- The configuration that the shared options ask for. -/
def siteConfig (around : Surroundings μ) (g : Globals) : M μ SiteConfig := do
  let m ← machine
  let c ← match g.configFile with
    | none => pure .generic
    | some path =>
      let path := (m.files.canonical m.cwd path).toOption.getD path
      asking (SiteConfig.load m.files m.cwd path)
  let c ← during "Failed to select system configuration"
    (asking (c.selectFor around.host.name g.system))
  return g.options.foldl (fun c o => c.addSticky o.1 o.2) c

/-- Makes the context that the shared options ask for current. -/
def enterContext (around : Surroundings μ) (g : Globals) : M μ Unit := do
  let c ← siteConfig around g
  let _ ← during "Failed to initialize runtime" (onRuntime (Runtime.init around.host c))

section Commands

variable [Account]

/-- Does a command. -/
def Command.perform (around : Surroundings μ) (g : Globals) : Command → M μ Unit
  | .info => showInfo g.json
  | .dirs segments runs create keep => showDirs segments runs create keep g.json
  | .env names partition => showEnv names partition g.json
  | .run plan => runJob around plan g.json

/-- Does a command on a machine. -/
def runCommand (around : Surroundings μ) (g : Globals) (command : Command) (m : Machine μ) :
    Outcome μ :=
  .ofResult ((do enterContext around g; command.perform around g : M μ Unit) (.onMachine m))

end Commands

/-- The text shown when help is asked for. -/
def helpText : String :=
  s!"{summary}\n\nUsage: {programName} [OPTIONS] <COMMAND>\n\nCommands: " ++
    ", ".intercalate commandNames ++ "\n"

/-- Runs the program. -/
def execute (around : Surroundings μ) (args : List String) (m : Machine μ) : Outcome μ :=
  letI := around.host.account
  match Request.read ((m.env.value? (Bytes.ofText configFileVariable)).map Bytes.lossy) args with
  | .error e => ⟨2, "", e.message ++ "\n", m⟩
  | .ok .version => ⟨0, s!"{programName} {version}\n", "", m⟩
  | .ok .help => ⟨0, helpText, "", m⟩
  | .ok (.command g command) => runCommand around g command m

end SiteRuntime.CommandLine
