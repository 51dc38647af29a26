import SiteRuntime.Config.Error
import SiteRuntime.Module.Error

/-!
# Failures of describing a system
-/

namespace SiteRuntime

/-- Why the selected system could not be described. -/
inductive SystemError where
  | config (cause : ConfigError)
  | modules (cause : ModuleError)
  /-- The definition of a partition has not the expected form. -/
  | invalidPartition (system : String) (cause : Json.DecodeError)
  deriving DecidableEq, Repr

namespace SystemError

/-- The text of a failure. -/
def message : SystemError → String
  | .config cause => cause.message
  | .modules cause => cause.message
  | .invalidPartition system cause =>
    s!"invalid partition definition for system '{system}': {cause.message}"

/-- The texts of a failure and of what caused it, outermost first. -/
def trail : SystemError → List String
  | .config cause => cause.trail
  | .modules cause => cause.trail
  | .invalidPartition system cause => [message (.invalidPartition system cause), cause.message]

end SystemError

end SiteRuntime
