import SiteRuntime.Json.Decode

/-!
# Partitions

A partition is a part of a system with a scheduler of its own: login nodes, a queue for GPU jobs.
Its definition in the configuration is an object of which only the name is required, or an array of
its fields in a fixed order.
-/

namespace SiteRuntime

/-- A part of a system. -/
structure Partition where
  /-- The name within the system. -/
  name : String
  /-- A description. -/
  descr : String
  /-- What queues the jobs. -/
  scheduler : String
  /-- What starts the processes of a job. -/
  launcher : String
  /-- Options for access to the queue. -/
  access : List String
  /-- The names of the environments that are valid here. -/
  environs : List String
  /-- Modules that every job here needs. -/
  modules : List String
  /-- Variables that every job here needs. -/
  assignments : List (String × String)
  deriving DecidableEq, Repr

namespace Partition

/-- The scheduler and launcher of a partition that names none. -/
def localName : String := "local"

/-- The number of fields in the array form. -/
def fieldCount : Nat := 8

/-- A partition from its fields, as far as they are given. -/
def ofFields? (name descr scheduler launcher : Option String)
    (access environs modules : Option (List String))
    (assignments : Option (List (String × String))) : Option Partition :=
  name.map fun name =>
    { name
      descr := descr.getD ""
      scheduler := scheduler.getD localName
      launcher := launcher.getD localName
      access := access.getD []
      environs := environs.getD []
      modules := modules.getD []
      assignments := assignments.getD [] }

/-- The partition that an object defines. -/
def ofObject (v : Json) : Except Json.DecodeError Partition := do
  let access ← v.decodeMember? "access" Json.decodeTexts
  let descr ← v.decodeMember? "descr" Json.decodeText
  let environs ← v.decodeMember? "environs" Json.decodeTexts
  let launcher ← v.decodeMember? "launcher" Json.decodeText
  let modules ← v.decodeMember? "modules" Json.decodeTexts
  let name ← v.decodeMember? "name" Json.decodeText
  let scheduler ← v.decodeMember? "scheduler" Json.decodeText
  let assignments ← v.decodeMember? "variables" Json.decodePairs
  Json.required "name"
    (ofFields? name descr scheduler launcher access environs modules assignments)

/-- The partition that an array of fields defines. -/
def ofArray (items : List Json) : Except Json.DecodeError Partition := do
  let name ← items[0]?.mapM Json.decodeText
  let descr ← items[1]?.mapM Json.decodeText
  let scheduler ← items[2]?.mapM Json.decodeText
  let launcher ← items[3]?.mapM Json.decodeText
  let access ← items[4]?.mapM Json.decodeTexts
  let environs ← items[5]?.mapM Json.decodeTexts
  let modules ← items[6]?.mapM Json.decodeTexts
  let assignments ← items[7]?.mapM Json.decodePairs
  match ofFields? name descr scheduler launcher access environs modules assignments with
  | none => throw (.tooShort 0 s!"struct PartitionConfig with {fieldCount} elements")
  | some p => if fieldCount < items.length then throw (.tooLong items.length) else return p

/-- The partition that a configuration entry defines. -/
def ofJson : Json → Except Json.DecodeError Partition
  | .object members => ofObject (.object members)
  | .array items => ofArray items
  | v => .error (.wrongType v.shown "struct PartitionConfig")

/-- The partitions that a list of entries defines. -/
def listOfJson : Json → Except Json.DecodeError (List Partition) := Json.decodeList ofJson

end Partition

end SiteRuntime
