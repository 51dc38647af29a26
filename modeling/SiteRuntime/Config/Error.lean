import SiteRuntime.Json.Decode
import SiteRuntime.OsError
import SiteRuntime.Path

/-!
# Failures of the configuration

Why a configuration could not be read, narrowed to a system or asked for an option.
-/

namespace SiteRuntime

/-- What is wrong with a configuration document. -/
inductive ConfigFlaw where
  | notAnObject
  | noSystemsSection
  | noSystems
  | namelessSystem
  /-- A section is a list and not all of its items are objects. -/
  | notAllObjects (sectionName : String)
  /-- A system has a pattern for host names that is malformed. -/
  | badHostPattern (system : String)
  deriving DecidableEq, Repr

/-- What an option has to hold to be read in a certain way. -/
inductive OptionForm where
  | text
  | texts
  | pairs
  deriving DecidableEq, Repr

/-- Why the configuration does not answer. -/
inductive ConfigError where
  /-- The file could not be read. -/
  | unreadable (path : Path) (cause : OsError)
  /-- The file does not hold JSON. -/
  | unparsable (path : Path)
  | invalid (flaw : ConfigFlaw)
  | optionNotFound (path : String)
  /-- The option holds something of another form. -/
  | invalidOption (path : String) (expected : OptionForm)
  | systemNotFound (name : String)
  | partitionNotFound (system partition : String)
  | invalidTimestampFormat (format : String)
  | environmentNotFound (name : String)
  /-- The definition of an environment has not the expected form. -/
  | invalidEnvironment (name : String) (cause : Json.DecodeError)
  deriving DecidableEq, Repr

/-- The text of a flaw. -/
def ConfigFlaw.message : ConfigFlaw → String
  | .notAnObject => "top level must be an object"
  | .noSystemsSection => "missing 'systems' section"
  | .noSystems => "no systems defined"
  | .namelessSystem => "system without a name"
  | .notAllObjects name => s!"section '{name}' must be a list of objects"
  | .badHostPattern system => s!"system '{system}': bad hostname pattern: <regex error>"

/-- The text of a form. -/
def OptionForm.phrase : OptionForm → String
  | .text => "string"
  | .texts => "list of strings"
  | .pairs => "list of [name, value] pairs"

namespace ConfigError

/-- The text of a failure. -/
def message : ConfigError → String
  | .unreadable path cause => s!"could not read configuration file {path}: {cause.message}"
  | .unparsable path => s!"could not parse configuration file {path}: <json error>"
  | .invalid flaw => s!"invalid configuration: {flaw.message}"
  | .optionNotFound path => s!"no such configuration option: {path}"
  | .invalidOption path expected =>
    s!"configuration option '{path}' is not a " ++ expected.phrase
  | .systemNotFound name => s!"could not find a configuration entry for system '{name}'"
  | .partitionNotFound system partition => s!"system '{system}' has no partition '{partition}'"
  | .invalidTimestampFormat format => s!"invalid timestamp format: {format}"
  | .environmentNotFound name => s!"environment '{name}' is not defined for the current system"
  | .invalidEnvironment name cause =>
    s!"invalid definition of environment '{name}': {cause.message}"

/-- The texts of a failure and of what caused it, outermost first. -/
def trail : ConfigError → List String
  | .unreadable path cause => [message (.unreadable path cause), cause.message]
  | .unparsable path => [message (.unparsable path), "<json error>"]
  | .invalidEnvironment name cause => [message (.invalidEnvironment name cause), cause.message]
  | e => [e.message]

end ConfigError

end SiteRuntime
