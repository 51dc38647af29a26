/-!
# Failures of the operating system

The causes for which file operations and the start of programs fail here, with the text that the
platform gives each.
-/

namespace SiteRuntime

/-- A failure of the operating system. -/
inductive OsError where
  | notFound
  | permissionDenied
  | busy
  | fileExists
  | notDirectory
  | isDirectory
  | invalidArgument
  | nameTooLong
  | notEmpty
  /-- A path with a NUL in it. -/
  | nulInPath
  /-- A program name or argument with a NUL in it. -/
  | nulInArgument
  /-- A file that should be text and is not UTF-8. -/
  | notText
  /-- The source of a copy that is no file. -/
  | notCopyable
  deriving DecidableEq, Repr

namespace OsError

/-- A platform text with its number. -/
def numbered (text : String) (code : Nat) : String := s!"{text} (os error {code})"

/-- The text of a failure. -/
def message : OsError → String
  | .notFound => numbered "No such file or directory" 2
  | .permissionDenied => numbered "Permission denied" 13
  | .busy => numbered "Device or resource busy" 16
  | .fileExists => numbered "File exists" 17
  | .notDirectory => numbered "Not a directory" 20
  | .isDirectory => numbered "Is a directory" 21
  | .invalidArgument => numbered "Invalid argument" 22
  | .nameTooLong => numbered "File name too long" 36
  | .notEmpty => numbered "Directory not empty" 39
  | .nulInPath => "file name contained an unexpected NUL byte"
  | .nulInArgument => "nul byte found in provided data"
  | .notText => "stream did not contain valid UTF-8"
  | .notCopyable => "the source path is neither a regular file nor a symlink to a regular file"

end OsError

end SiteRuntime
