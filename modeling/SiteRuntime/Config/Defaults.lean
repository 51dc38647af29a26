import SiteRuntime.Config.Key
import SiteRuntime.Json.Basic

/-!
# Defaults

The values of options that a site does not set, and the configuration of a site without one.
-/

namespace SiteRuntime

/-- The value of an option that is not set. -/
def OptionKey.default? (key : OptionKey) : Option Json :=
  match key.segments with
  | ["systems", "descr"] => some (.string "")
  | ["systems", "hostnames"] => some (.array [])
  | ["systems", "prefix"] => some (.string ".")
  | ["systems", "stagedir"] => some .null
  | ["systems", "outputdir"] => some .null
  | ["systems", "perflogdir"] => some .null
  | ["systems", "modules_system"] => some (.string "nomod")
  | ["systems", "modules"] => some (.array [])
  | ["systems", "variables"] => some (.array [])
  | ["systems", "partitions"] => some (.array [])
  | ["general", "timestamp"] => some (.string "%FT%T")
  | ["general", "verbose"] => some (.ofNat 0)
  | _ => none

/-- The configuration of a site without one: a single system for any host, without modules, with
one local partition and one environment. -/
def ConfigDocument.generic : Json :=
  let partition := .ofMembers
    [("name", .string "default"), ("descr", .string "Login nodes"), ("scheduler", .string "local"),
      ("launcher", .string "local"), ("environs", .ofStrings ["builtin"])]
  let system := .ofMembers
    [("name", .string "generic"), ("descr", .string "Generic example system"),
      ("hostnames", .ofStrings [".*"]), ("modules_system", .string "nomod"),
      ("partitions", .array [partition])]
  let environment := .ofMembers
    [("name", .string "builtin"), ("cc", .string "cc"), ("cxx", .string ""), ("ftn", .string "")]
  .ofMembers [("systems", .array [system]), ("environments", .array [environment])]

end SiteRuntime
