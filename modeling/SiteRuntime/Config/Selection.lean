import SiteRuntime.Config.Basic
import SiteRuntime.Pattern.Reader
import SiteRuntime.Pattern.Search

/-!
# Selecting a system

A configuration is narrowed to one system, given by name, by name and partition, or by the name of
the host: then the first system with a pattern that matches is taken. A selection starts from the
whole document each time, so an earlier one leaves no trace in it.
-/

namespace SiteRuntime

namespace SiteConfig

/-! ### By name -/

/-- The name of a system and perhaps of one of its partitions, as written `system:partition`. -/
def splitSelection (selection : String) : String × Option String :=
  match Text.splitOnce? ':' selection.toList with
  | some (system, partition) => (String.ofList system, some (String.ofList partition))
  | none => (selection, none)

/-- The entry of a system, with only the partition asked for. -/
def selectedEntry (document : Json) (system : String) (partition : Option String) :
    Except ConfigError Json :=
  match (ConfigDocument.systems document).find? (ConfigDocument.isNamed system), partition with
  | none, _ => .error (.systemNotFound system)
  | some entry, none => .ok entry
  | some entry, some partition =>
    match ConfigDocument.withPartition? partition entry with
    | some entry => .ok entry
    | none => .error (.partitionNotFound system partition)

/-- The configuration narrowed to a system or to one of its partitions. -/
def select (c : SiteConfig) (selection : String) : Except ConfigError SiteConfig :=
  let (system, partition) := splitSelection selection
  (selectedEntry c.document system partition).map fun entry =>
    { c with
      resolved := ConfigDocument.narrowed system entry c.document
      system := some system }

/-! ### By host name -/

/-- Whether a host name matches a pattern from its start; none if the pattern is malformed. -/
def hostMatches? (pattern host : String) : Option Bool :=
  (Pattern.read? ("^(?:".toList ++ pattern.toList ++ [')'])).map fun p => p.occursIn host.toList

/-- The patterns for host names of a system. -/
def hostPatterns (system : Json) : List String :=
  ((system.itemsAt? "hostnames").getD []).filterMap Json.text?

/-- Whether one of the patterns matches, told by the first that does or is malformed. -/
def anyMatches? (test : String → Option Bool) : List String → Option Bool
  | [] => some false
  | p :: rest =>
    match test p with
    | none => none
    | some true => some true
    | some false => anyMatches? test rest

/-- The first system with a matching pattern. -/
def systemMatching (test : String → Option Bool) : List Json → Except ConfigError (Option String)
  | [] => .ok none
  | system :: rest =>
    match ConfigDocument.systemName? system with
    | none => .error (.invalid .namelessSystem)
    | some name =>
      match anyMatches? test (hostPatterns system) with
      | none => .error (.invalid (.badHostPattern name))
      | some true => .ok (some name)
      | some false => systemMatching test rest

/-- The configuration narrowed to the first system with a pattern that a test accepts for the host
name. -/
def selectMatching (test : String → String → Option Bool) (c : SiteConfig) (host : String) :
    Except ConfigError SiteConfig := do
  match ← systemMatching (test · host) (ConfigDocument.systems c.document) with
  | some name => c.select name
  | none => throw (.systemNotFound host)

/-- The configuration narrowed to the system of a host. -/
def selectForHost (c : SiteConfig) (host : String) : Except ConfigError SiteConfig :=
  c.selectMatching hostMatches? host

/-- The configuration narrowed to a system, or without one to the system of the host. -/
def selectFor (c : SiteConfig) (host : String) : Option String → Except ConfigError SiteConfig
  | some selection => c.select selection
  | none => c.selectForHost host

end SiteConfig

end SiteRuntime
