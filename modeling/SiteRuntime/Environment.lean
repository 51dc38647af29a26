import SiteRuntime.Json.Decode

/-!
# Environments

An environment is a named bundle of modules to load and variables to set, both in the order in
which they are applied. Values may refer to other variables; they are expanded when the environment
is activated.
-/

namespace SiteRuntime

/-- A named bundle of modules and variables. -/
structure Environment where
  /-- The name of the environment. -/
  name : String
  /-- The modules to load, in order. -/
  modules : List String
  /-- Names and values of variables to set, in order. -/
  assignments : List (String × String)
  deriving DecidableEq, Repr

namespace Environment

/-- Whether an environment does nothing. -/
def isEmpty (e : Environment) : Bool := e.modules.isEmpty && e.assignments.isEmpty

instance : ToString Environment := ⟨name⟩

/-- The environment that a configuration entry defines. Only the name is required. -/
def ofJson (v : Json) : Except Json.DecodeError Environment := do
  let modules ← v.decodeMember? "modules" Json.decodeTexts
  let name ← v.decodeMember? "name" Json.decodeText
  let assignments ← v.decodeMember? "variables" Json.decodePairs
  let name ← Json.required "name" name
  return { name, modules := modules.getD [], assignments := assignments.getD [] }

end Environment

end SiteRuntime
