import SiteRuntime.OsError

/-!
# Failures of module systems
-/

namespace SiteRuntime

/-- Why a module system could not be set up or a module operation failed. -/
inductive ModuleError where
  /-- No module system goes by that name. -/
  | unknownBackend (name : String)
  /-- The module system is known but cannot be used here. -/
  | unavailable (backend reason : String)
  /-- The module command ran and failed. -/
  | command (command stderr : String)
  /-- The module command could not be started. -/
  | spawn (command : String) (cause : OsError)
  deriving DecidableEq, Repr

namespace ModuleError

/-- The text of a failure. -/
def message : ModuleError → String
  | .unknownBackend name => s!"unknown modules system: {name}"
  | .unavailable backend reason => s!"modules system '{backend}' is not available: {reason}"
  | .command line stderr => s!"module command failed: {line}: {stderr}"
  | .spawn line cause => s!"could not run module command '{line}': {cause.message}"

/-- The texts of a failure and of what caused it, outermost first. -/
def trail : ModuleError → List String
  | .spawn line cause => [message (.spawn line cause), cause.message]
  | e => [e.message]

end ModuleError

end SiteRuntime
