import SiteRuntime.System.Error

/-!
# Failures of the runtime

Why a runtime context, the activation of an environment or a scoped change failed.
-/

namespace SiteRuntime

/-- Why an operation of the runtime failed. -/
inductive RuntimeError where
  /-- No context is current. -/
  | notConfigured
  /-- The system could not be described. -/
  | fatal (cause : SystemError)
  | config (cause : ConfigError)
  /-- A module of an environment could not be loaded. -/
  | moduleLoad (environment module : String) (cause : ModuleError)
  /-- A variable of an environment has a name or a value that the platform does not take. -/
  | invalidVariable (environment name : String)
  | modules (cause : ModuleError)
  /-- A directory could not be made. -/
  | directory (path : Path) (cause : OsError)
  deriving DecidableEq, Repr

namespace RuntimeError

/-- The text of a failure. -/
def message : RuntimeError → String
  | .notConfigured => "no runtime context is configured"
  | .fatal cause => s!"could not create system descriptor: {cause.message}"
  | .config cause => cause.message
  | .moduleLoad environment module cause =>
    s!"could not load environment '{environment}': module '{module}': {cause.message}"
  | .invalidVariable environment name =>
    s!"could not load environment '{environment}': invalid variable '{name}'"
  | .modules cause => cause.message
  | .directory path cause => s!"could not create directory {path}: {cause.message}"

/-- The texts of a failure and of what caused it, outermost first. -/
def trail : RuntimeError → List String
  | .fatal cause => message (.fatal cause) :: cause.trail
  | .config cause => cause.trail
  | .moduleLoad environment module cause =>
    message (.moduleLoad environment module cause) :: cause.trail
  | .modules cause => cause.trail
  | .directory path cause => [message (.directory path cause), cause.message]
  | e => [e.message]

/-- Whether a failure should end the operation around it. -/
def isFatal : RuntimeError → Bool
  | .notConfigured => true
  | .fatal _ => true
  | _ => false

end RuntimeError

end SiteRuntime
