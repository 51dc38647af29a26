/-!
# Command lines that are not understood
-/

namespace SiteRuntime.CommandLine

/-- The name of the program. -/
def programName : String := "hpcrt"

/-- Why a command line is not understood. Options are given as their usage shows them. -/
inductive UsageError where
  /-- Nothing takes this argument. -/
  | unexpectedArgument (argument : String)
  /-- An option that needs a value has none. -/
  | missingValue (option : String)
  /-- An option that may stand once stands again. -/
  | repeated (option : String)
  /-- An option that takes no value has one. -/
  | unexpectedValue (value option : String)
  /-- A value is none of those allowed. -/
  | notAllowed (value option : String)
  /-- A value cannot be read. -/
  | invalidValue (value option reason : String)
  | unknownCommand (name : String)
  | noCommand
  /-- Something required is missing. -/
  | missingArguments
  /-- There are no arguments at all. -/
  | nothingGiven
  deriving DecidableEq, Repr

/-- What the program is, in one line. -/
def summary : String := s!"{programName} - runtime context for HPC test runs"

/-- What is wrong. -/
def UsageError.reason : UsageError → String
  | .unexpectedArgument argument => s!"unexpected argument '{argument}' found"
  | .missingValue option => s!"a value is required for '{option}' but none was supplied"
  | .repeated option => s!"the argument '{option}' cannot be used multiple times"
  | .unexpectedValue value option =>
    s!"unexpected value '{value}' for '{option}' found; no more were expected"
  | .notAllowed value option => s!"invalid value '{value}' for '{option}'"
  | .invalidValue value option reason => s!"invalid value '{value}' for '{option}': {reason}"
  | .unknownCommand name => s!"unrecognized subcommand '{name}'"
  | .noCommand => s!"'{programName}' requires a subcommand but one was not provided"
  | .missingArguments => "the following required arguments were not provided:"
  | .nothingGiven => summary

/-- The line printed for a command line that is not understood. -/
def UsageError.message : UsageError → String
  | .nothingGiven => summary
  | e => s!"error: {e.reason}"

end SiteRuntime.CommandLine
