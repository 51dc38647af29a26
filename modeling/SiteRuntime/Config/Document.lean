import SiteRuntime.Config.Error
import SiteRuntime.Config.Key
import SiteRuntime.Json.Basic

/-!
# Configuration documents

A document is an object of sections. The section `systems` is a list of named systems; any other
section that is a list holds objects, each of which may say in `target_systems` for which systems
it is meant. `flaw?` checks a document, `narrowed` cuts it down to one of its systems.
-/

namespace SiteRuntime

/-! ### Paths into a value -/

namespace Json

/-- The value one segment further: a member of an object or an item of an array. -/
def step? (v : Json) (segment : String) : Option Json :=
  match v with
  | .array items => (index? segment).bind fun i => items[i]?
  | .object members => members.lookup segment
  | _ => none

/-- The value at the end of a path. -/
def at? (v : Json) (segments : List String) : Option Json := segments.foldlM step? v

@[simp] theorem at?_nil (v : Json) : v.at? [] = some v := rfl

@[simp] theorem at?_cons (v : Json) (s : String) (rest : List String) :
    v.at? (s :: rest) = (v.step? s).bind fun w => w.at? rest := by
  simp [at?, bind]

end Json

namespace ConfigDocument

/-! ### Systems -/

/-- The systems of a document. -/
def systems (document : Json) : List Json := (document.itemsAt? "systems").getD []

/-- The environments that a document defines. -/
def environments (document : Json) : List Json := (document.itemsAt? "environments").getD []

/-- The name of a system; an empty one does not count. -/
def systemName? (system : Json) : Option String :=
  (system.textAt? "name").filter fun name => !name.isEmpty

/-- Whether an entry has a name. -/
def isNamed (name : String) (entry : Json) : Bool := entry.textAt? "name" = some name

/-! ### Checking -/

/-- Whether a section is a list with something else than objects in it. -/
def isMixed : Json → Bool
  | .array entries => entries.any fun e => !e.isObject
  | _ => false

theorem isMixed_array_eq_false_iff {entries : List Json} :
    isMixed (.array entries) = false ↔ ∀ e ∈ entries, e.isObject := by
  simp [isMixed]

/-- What is wrong with a document, if anything is: first the systems are checked, then the sections
in order of their names. -/
def flaw? (document : Json) : Option ConfigFlaw :=
  match document with
  | .object sections =>
    match document.itemsAt? "systems" with
    | none => some .noSystemsSection
    | some [] => some .noSystems
    | some systems =>
      if systems.any fun s => (systemName? s).isNone then some .namelessSystem
      else (sections.find? fun s => isMixed s.2).map fun s => .notAllObjects s.1
  | _ => some .notAnObject

/-! ### Targets -/

/-- How an entry of a section names the systems it is meant for. -/
inductive Target where
  /-- It names the system itself, or one of its partitions. -/
  | explicit
  /-- It is meant for every system. -/
  | wildcard
  deriving DecidableEq, Repr

/-- The rank of an entry among those for a system: what names it comes first. -/
def Target.rank : Target → Nat
  | .explicit => 0
  | .wildcard => 1

/-- Whether a target text names a system or one of its partitions. -/
def namesSystem (system target : String) : Bool :=
  target = system || Text.startsWith (system.toList ++ [':']) target.toList

/-- How target texts name a system, read in order. The first that names it decides; a star is kept
in mind until the end. -/
def scanTargets (system : String) : Bool → List String → Option Target
  | starred, [] => if starred then some .wildcard else none
  | starred, target :: rest =>
    if namesSystem system target then some .explicit
    else scanTargets system (starred || target = "*") rest

/-- How an entry targets a system, if it does. -/
def target? (system : String) (entry : Json) : Option Target :=
  match entry.itemsAt? "target_systems" with
  | none => some .wildcard
  | some targets => scanTargets system false (targets.filterMap Json.text?)

/-- The entries meant for a system, sorted by rank; entries of one rank stay in order. -/
def entriesFor (system : String) (entries : List Json) : List Json :=
  let ranked := entries.filterMap fun entry =>
    (target? system entry).map fun target => (target.rank, entry)
  (ranked.mergeSort fun a b => a.1 ≤ b.1).map (·.2)

/-! ### Narrowing -/

/-- A member of an object replaced in its place. -/
def replaceMember (name : String) (value : Json) : Json → Json
  | .object members => .object (members.map fun m => if m.1 = name then (m.1, value) else m)
  | v => v

/-- Members replaced value by value keep their names. -/
theorem lookup_map_value (f : String → Json → Json) (members : List (String × Json)) (k : String) :
    (members.map fun m => (m.1, f m.1 m.2)).lookup k = (members.lookup k).map (f k) := by
  induction members with
  | nil => rfl
  | cons m rest ih =>
    rw [List.map_cons, List.lookup_cons, List.lookup_cons, ih]
    by_cases h : k = m.1
    · subst h
      simp
    · rw [beq_false_of_ne h]

/-- A member that is there gets the new value, the others keep theirs. -/
theorem get?_replaceMember (name : String) (value v : Json) (k : String) :
    (replaceMember name value v).get? k =
      (v.get? k).map fun old => if k = name then value else old := by
  cases v with
  | object members =>
    have hmap : (members.map fun m => if m.1 = name then (m.1, value) else m) =
        members.map fun m => (m.1, if m.1 = name then value else m.2) :=
      List.map_congr_left fun m _ => by split <;> rfl
    rw [replaceMember, Json.get?_object, hmap,
      lookup_map_value (fun k v => if k = name then value else v), Json.get?_object]
  | null | bool | number | string | array => rfl

theorem get?_replaceMember_of_ne {name k : String} (h : k ≠ name) (value v : Json) :
    (replaceMember name value v).get? k = v.get? k := by
  rw [get?_replaceMember]
  simp [h]

/-- A system with only the partitions of a name, if it has any. -/
def withPartition? (partition : String) (system : Json) : Option Json :=
  match (system.itemsAt? "partitions").map (List.filter (isNamed partition)) with
  | none => none
  | some [] => none
  | some partitions => some (replaceMember "partitions" (.array partitions) system)

/-- A section as it is for one system. -/
def narrowedSection (name : String) (selected : Json) (sectionName : String) (value : Json) :
    Json :=
  if sectionName = "systems" then .array [selected]
  else
    match value with
    | .array entries => .array (entriesFor name entries)
    | other => other

/-- A document cut down to one system, given by name and by entry. -/
def narrowed (name : String) (selected : Json) : Json → Json
  | .object sections =>
    .object (sections.map fun s => (s.1, narrowedSection name selected s.1 s.2))
  | _ => .object []

theorem get?_narrowed (name : String) (selected document : Json) (k : String) :
    (narrowed name selected document).get? k =
      (document.get? k).map (narrowedSection name selected k) := by
  cases document with
  | object sections => exact lookup_map_value (narrowedSection name selected) sections k
  | null | bool | number | string | array => rfl

end ConfigDocument

end SiteRuntime
