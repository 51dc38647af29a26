import Mathlib.Data.List.Forall2
import SiteRuntime.Proofs.Activation.Calls
import SiteRuntime.Proofs.Config.Narrowing
import SiteRuntime.Proofs.Config.Options
import SiteRuntime.Proofs.Runtime.WorkDirectory

/-!
# The partitions of a selected system

On its way into a `System` the definition of a partition is picked out of the document, narrowed,
looked up as an option and decoded. What comes out is told here from the definition in the document
(`definitions`, `Represents`): each partition is that of one definition, in the same order, and
where one partition was asked for there is at least one, all of its name
(`partitions_of_selectFor`).

A definition has its fields either as members of an object or as items of an array (`field?`). What
can be decoded has just one form (`decodeText_eq_ok_iff`, `eq_ofList_of_decodeList`), so a field
that is there is known by what was read from it.
-/

namespace SiteRuntime

/-! ### What was decoded -/

namespace Json

variable {α : Type} {v : Json}

theorem decodeText_eq_ok_iff {s : String} : decodeText v = .ok s ↔ v = .string s := by
  cases v <;> simp [decodeText]

theorem eq_of_decodePair {x : String × String} (h : decodePair v = .ok x) :
    v = .array [.string x.1, .string x.2] := by
  unfold decodePair at h
  split at h
  next items =>
    split at h
    next a b rest =>
      obtain ⟨first, hfirst, h⟩ := Fallible.bind_eq_ok_iff.1 h
      obtain ⟨second, hsecond, h⟩ := Fallible.bind_eq_ok_iff.1 h
      rw [decodeText_eq_ok_iff.1 hfirst, decodeText_eq_ok_iff.1 hsecond]
      split at h
      next hrest =>
        cases h
        rw [List.isEmpty_iff.1 hrest]
      next => cases h
    next =>
      obtain ⟨_, -, h⟩ := Fallible.bind_eq_ok_iff.1 h
      cases h
    next => cases h
  next => cases h

/-- Items that can all be decoded, one by one. -/
theorem forall₂_of_mapM {item : Json → Except DecodeError α} {items : List Json} {out : List α}
    (h : items.mapM item = .ok out) : List.Forall₂ (fun v a => item v = .ok a) items out := by
  induction items generalizing out with
  | nil =>
    cases h
    exact .nil
  | cons v items ih =>
    rw [List.mapM_cons] at h
    obtain ⟨a, ha, h⟩ := Fallible.bind_eq_ok_iff.1 h
    obtain ⟨rest, hrest, h⟩ := Fallible.bind_eq_ok_iff.1 h
    cases h
    exact .cons ha (ih hrest)

theorem exists_items_of_decodeList {item : Json → Except DecodeError α} {out : List α}
    (h : decodeList item v = .ok out) :
    ∃ items, v = .array items ∧ List.Forall₂ (fun v a => item v = .ok a) items out := by
  cases v with
  | array items => exact ⟨items, rfl, forall₂_of_mapM h⟩
  | null | bool | number | string | object => cases h

/-- Where items can be decoded from one form only, so can lists of them. -/
theorem eq_ofList_of_decodeList {item : Json → Except DecodeError α} {form : α → Json}
    (hform : ∀ v a, item v = .ok a → v = form a) {out : List α}
    (h : decodeList item v = .ok out) : v = .array (out.map form) := by
  obtain ⟨items, rfl, hitems⟩ := exists_items_of_decodeList h
  have heq : List.Forall₂ (· = ·) items (out.map form) :=
    List.forall₂_map_right_iff.2 (hitems.imp hform)
  rw [List.forall₂_eq_eq_eq] at heq
  rw [heq]

theorem decodeMember?_eq (v : Json) (name : String) (decode : Json → Except DecodeError α) :
    v.decodeMember? name decode = (v.get? name).mapM decode := by
  rw [decodeMember?]
  cases v.get? name <;> rfl

end Json

/-! ### Definitions -/

namespace Partition

/-- A field of a definition: a member of an object, or an item of an array. -/
def field? (definition : Json) (name : String) (i : Nat) : Option Json :=
  (definition.get? name).or (definition.items?.bind fun items => items[i]?)

/-- A field holds the items of a list. A field that is not there holds none. -/
def Holds (field : Option Json) (items : List Json) : Prop :=
  field = some (.array items) ∨ field = none ∧ items = []

/-- A pair of strings as it is written in a definition. -/
def pair (x : String × String) : Json := .array [.string x.1, .string x.2]

theorem holds_of_mapM {α : Type} {decode : Json → Except Json.DecodeError (List α)}
    {form : α → Json} (hform : ∀ v out, decode v = .ok out → v = .array (out.map form))
    {field : Option Json} {out : Option (List α)} (h : field.mapM decode = .ok out) :
    Holds field ((out.getD []).map form) := by
  cases field with
  | none =>
    cases h
    exact .inr ⟨rfl, rfl⟩
  | some v =>
    rw [Option.mapM_some, map_eq_pure_bind] at h
    obtain ⟨items, hitems, h⟩ := Fallible.bind_eq_ok_iff.1 h
    cases h
    exact .inl (congrArg some (hform v items hitems))

theorem eq_string_of_mapM {field : Option Json} {s : String}
    (h : field.mapM Json.decodeText = .ok (some s)) : field = some (.string s) := by
  cases field with
  | none => cases h
  | some v =>
    rw [Option.mapM_some, map_eq_pure_bind] at h
    obtain ⟨text, htext, h⟩ := Fallible.bind_eq_ok_iff.1 h
    cases h
    rw [Json.decodeText_eq_ok_iff.1 htext]

/-- **A partition is that of a definition**: it has the name, the modules and the variables that the
definition says, the latter in the order of the definition. -/
structure IsDefinedBy (definition : Json) (p : Partition) : Prop where
  name : field? definition "name" 0 = some (.string p.name)
  modules : Holds (field? definition "modules" 6) (p.modules.map .string)
  assignments : Holds (field? definition "variables" 7) (p.assignments.map pair)

/-- What is put together from decoded fields is defined by these fields. -/
theorem isDefinedBy_of_fields {definition : Json} {p : Partition}
    {name descr scheduler launcher : Option String} {access environs modules : Option (List String)}
    {assignments : Option (List (String × String))}
    (hname : (field? definition "name" 0).mapM Json.decodeText = .ok name)
    (hmodules : (field? definition "modules" 6).mapM Json.decodeTexts = .ok modules)
    (hassignments : (field? definition "variables" 7).mapM Json.decodePairs = .ok assignments)
    (h : ofFields? name descr scheduler launcher access environs modules assignments = some p) :
    IsDefinedBy definition p := by
  obtain ⟨name, rfl, rfl⟩ := Option.map_eq_some_iff.1 h
  have htexts : ∀ v out, Json.decodeTexts v = .ok out → v = .array (out.map .string) := fun v out =>
    Json.eq_ofList_of_decodeList fun _ _ => Json.decodeText_eq_ok_iff.1
  have hpairs : ∀ v out, Json.decodePairs v = .ok out → v = .array (out.map pair) := fun v out =>
    Json.eq_ofList_of_decodeList fun _ _ => Json.eq_of_decodePair
  exact ⟨eq_string_of_mapM hname, holds_of_mapM htexts hmodules, holds_of_mapM hpairs hassignments⟩

theorem field?_object (members : List (String × Json)) (name : String) (i : Nat) :
    field? (.object members) name i = (Json.object members).get? name := Option.or_none

theorem field?_array (items : List Json) (name : String) (i : Nat) :
    field? (.array items) name i = items[i]? := rfl

theorem isDefinedBy_of_ofObject {members : List (String × Json)} {p : Partition}
    (h : ofObject (.object members) = .ok p) : IsDefinedBy (.object members) p := by
  unfold ofObject at h
  obtain ⟨access, -, h⟩ := Fallible.bind_eq_ok_iff.1 h
  obtain ⟨descr, -, h⟩ := Fallible.bind_eq_ok_iff.1 h
  obtain ⟨environs, -, h⟩ := Fallible.bind_eq_ok_iff.1 h
  obtain ⟨launcher, -, h⟩ := Fallible.bind_eq_ok_iff.1 h
  obtain ⟨modules, hmodules, h⟩ := Fallible.bind_eq_ok_iff.1 h
  obtain ⟨name, hname, h⟩ := Fallible.bind_eq_ok_iff.1 h
  obtain ⟨scheduler, -, h⟩ := Fallible.bind_eq_ok_iff.1 h
  obtain ⟨assignments, hassignments, h⟩ := Fallible.bind_eq_ok_iff.1 h
  rw [Json.decodeMember?_eq, ← field?_object members _ 6] at hmodules
  rw [Json.decodeMember?_eq, ← field?_object members _ 0] at hname
  rw [Json.decodeMember?_eq, ← field?_object members _ 7] at hassignments
  cases hfields : ofFields? name descr scheduler launcher access environs modules assignments with
  | none =>
    rw [hfields] at h
    cases h
  | some q =>
    rw [hfields] at h
    cases h
    exact isDefinedBy_of_fields hname hmodules hassignments hfields

theorem isDefinedBy_of_ofArray {items : List Json} {p : Partition} (h : ofArray items = .ok p) :
    IsDefinedBy (.array items) p := by
  unfold ofArray at h
  obtain ⟨name, hname, h⟩ := Fallible.bind_eq_ok_iff.1 h
  obtain ⟨descr, -, h⟩ := Fallible.bind_eq_ok_iff.1 h
  obtain ⟨scheduler, -, h⟩ := Fallible.bind_eq_ok_iff.1 h
  obtain ⟨launcher, -, h⟩ := Fallible.bind_eq_ok_iff.1 h
  obtain ⟨access, -, h⟩ := Fallible.bind_eq_ok_iff.1 h
  obtain ⟨environs, -, h⟩ := Fallible.bind_eq_ok_iff.1 h
  obtain ⟨modules, hmodules, h⟩ := Fallible.bind_eq_ok_iff.1 h
  obtain ⟨assignments, hassignments, h⟩ := Fallible.bind_eq_ok_iff.1 h
  rw [← field?_array items "name"] at hname
  rw [← field?_array items "modules"] at hmodules
  rw [← field?_array items "variables"] at hassignments
  cases hfields : ofFields? name descr scheduler launcher access environs modules assignments with
  | none =>
    rw [hfields] at h
    cases h
  | some q =>
    rw [hfields] at h
    dsimp only at h
    -- a definition may not go on after its last field
    split at h
    · cases h
    · cases h
      exact isDefinedBy_of_fields hname hmodules hassignments hfields

/-- **What is decoded is defined so.** -/
theorem isDefinedBy_of_ofJson {definition : Json} {p : Partition} (h : ofJson definition = .ok p) :
    IsDefinedBy definition p := by
  cases definition with
  | object members => exact isDefinedBy_of_ofObject h
  | array items => exact isDefinedBy_of_ofArray h
  | null | bool | number | string => cases h

end Partition

namespace SiteConfig

open ConfigDocument

/-! ### Options of the selected system -/

/-- The definitions of the partitions of a system, perhaps only of those of a name. -/
def definitions (partition : Option String) (system : Json) : List Json :=
  ((system.itemsAt? "partitions").getD []).filter fun definition =>
    partition.all fun name => isNamed name definition

variable {c : SiteConfig} {entry : Json}

/-- A selection overrides nothing. -/
theorem sticky_of_selectFor {c c' : SiteConfig} {hostName : Except String String}
    {selection : String} (h : Update.selectFor hostName (some selection) c = .ok () c') :
    c'.sticky = c.sticky := by
  have hselect : Update.replacing ((pickNamed c.document selection).map c.narrowTo) c =
      .ok () c' := by
    rw [← select_eq_map, ← Update.select_apply]
    exact h
  cases hpicked : pickNamed c.document selection with
  | error e =>
    rw [hpicked] at hselect
    cases hselect
  | ok picked =>
    rw [hpicked] at hselect
    cases hselect
    rfl

/-- A path into the only system that is left leads to a member of it. -/
theorem at?_system (hsystems : c.resolved.get? "systems" = some (.array [entry]))
    (hentry : entry.isObject) {path name : String}
    (hpath : pathSegments path = ["systems", "0", name]) :
    c.resolved.at? (pathSegments path) = entry.get? name := by
  have hfirst : c.resolved.step? "systems" = some (.array [entry]) := by
    cases hresolved : c.resolved with
    | object members =>
      rw [hresolved] at hsystems
      exact hsystems
    | null | bool | number | string | array =>
      rw [hresolved] at hsystems
      cases hsystems
  have hsecond : (Json.array [entry]).step? "0" = some entry := by
    have hindex : index? "0" = some 0 := by decide +kernel
    rw [Json.step?, hindex]
    rfl
  obtain ⟨members, rfl⟩ := Json.isObject_iff.1 hentry
  rw [hpath, Json.at?_cons, hfirst, Option.bind_some, Json.at?_cons, hsecond, Option.bind_some,
    Json.at?_cons]
  exact Option.bind_fun_some _

theorem sticky?_eq_none (hsticky : c.sticky = ∅) (path : String) : c.sticky? path = none := by
  rw [sticky?, hsticky, SortedMap.get?_empty]

theorem get?_of_textAt? {v : Json} {name text : String} (h : v.textAt? name = some text) :
    v.get? name = some (.string text) := by
  obtain ⟨value, hvalue, htext⟩ := Option.bind_eq_some_iff.1 h
  cases value with
  | string s =>
    cases htext
    exact hvalue
  | null | bool | number | array | object => cases htext

theorem isObject_of_get? {v value : Json} {name : String} (h : v.get? name = some value) :
    v.isObject := by
  cases v with
  | object members => rfl
  | null | bool | number | string | array => cases h

theorem getText_name {system : String} (hsticky : c.sticky = ∅)
    (hsystems : c.resolved.get? "systems" = some (.array [entry])) (hentry : entry.isObject)
    (hname : entry.textAt? "name" = some system) :
    c.getText (System.optionPath "name") = .ok (some system) := by
  have hpath : pathSegments (System.optionPath "name") = ["systems", "0", "name"] := by
    decide +kernel
  have hvalue := at?_system hsystems hentry hpath
  rw [get?_of_textAt? hname] at hvalue
  rw [getText, get_of_configured (sticky?_eq_none hsticky _) hvalue (fun h => by cases h)]
  rfl

/-- **Partitions that are looked up** are those that the entry of the system defines. Without a list
of them, or with null for it, there are none. -/
theorem forall₂_of_get_partitions {value : Json} {out : List Partition} (hsticky : c.sticky = ∅)
    (hsystems : c.resolved.get? "systems" = some (.array [entry])) (hentry : entry.isObject)
    (hget : c.get (System.optionPath "partitions") = .ok value)
    (hout : Partition.listOfJson value = .ok out) :
    List.Forall₂ Partition.IsDefinedBy ((entry.itemsAt? "partitions").getD []) out := by
  have hpath : pathSegments (System.optionPath "partitions") = ["systems", "0", "partitions"] := by
    decide +kernel
  have hat := at?_system hsystems hentry hpath
  have hnone := sticky?_eq_none hsticky (System.optionPath "partitions")
  obtain ⟨items, rfl, hitems⟩ := Json.exists_items_of_decodeList hout
  have hdefined : List.Forall₂ Partition.IsDefinedBy items out :=
    hitems.imp fun _ _ => Partition.isDefinedBy_of_ofJson
  by_cases hnull : ∀ value, entry.get? "partitions" = some value → value = .null
  · have hdefault : c.get (System.optionPath "partitions") = .ok (.array []) :=
      get_of_not_configured hnone (hat ▸ hnull)
    have hnoItems : entry.itemsAt? "partitions" = none := by
      rw [Json.itemsAt?]
      cases hmember : entry.get? "partitions" with
      | none => rfl
      | some value => rw [hnull value hmember]; rfl
    cases hdefault.symm.trans hget
    rw [hnoItems]
    exact hdefined
  · obtain ⟨value, hvalue⟩ := not_forall.1 hnull
    obtain ⟨hmember, hne⟩ := Classical.not_imp.1 hvalue
    cases (get_of_configured hnone (hat.trans hmember) hne).symm.trans hget
    rw [Json.itemsAt?, hmember]
    exact hdefined

end SiteConfig

/-! ### Systems -/

namespace System

open ConfigDocument SiteConfig

variable {μ : Type} {backendNamed : String → Except ModuleError (Backend μ)} {c : SiteConfig}
  {sys : System μ}

/-- Where all partitions have one name, the first answers to it, with or without the name of the
system. -/
theorem partition?_eq_head? {name : String} (h : ∀ p ∈ sys.partitions, p.name = name) :
    sys.partition? name = sys.partitions.head? ∧
      sys.partition? (sys.name ++ ":" ++ name) = sys.partitions.head? := by
  rw [partition?, partition?]
  cases hpartitions : sys.partitions with
  | nil => exact ⟨rfl, rfl⟩
  | cons p rest =>
    have hp : p.name = name := h p (hpartitions ▸ List.mem_cons_self)
    have hfull : sys.fullName p = sys.name ++ ":" ++ name := by rw [← hp]; rfl
    rw [List.find?_cons_of_pos (by simp [hp]), List.find?_cons_of_pos (by simp [hfull])]
    exact ⟨rfl, rfl⟩

/-- **A partition of a system represents a definition**: it has the name of the definition, which
stands behind the name of the system in its full name, and the modules and variables of the
definition make up the environment that every job on it needs. -/
structure Represents (sys : System μ) (definition : Json) (p : Partition) : Prop where
  name : Partition.field? definition "name" 0 = some (.string p.name)
  fullName : sys.fullName p = sys.name ++ ":" ++ p.name
  modules : Partition.Holds (Partition.field? definition "modules" 6)
    ((sys.localEnvironment p).modules.map .string)
  assignments : Partition.Holds (Partition.field? definition "variables" 7)
    ((sys.localEnvironment p).assignments.map Partition.pair)

theorem represents_of_isDefinedBy {definition : Json} {p : Partition}
    (h : Partition.IsDefinedBy definition p) : sys.Represents definition p :=
  ⟨h.name, rfl, h.modules, h.assignments⟩

/-- What is left of a system in a configuration narrowed to it are the definitions that were asked
for. -/
theorem exists_entry_of_isNarrowed {document : Json} {system : String} {partition : Option String}
    (h : IsNarrowed document system partition c) :
    ∃ found entry, (systems document).find? (isNamed system) = some found ∧
      c.resolved.get? "systems" = some (.array [entry]) ∧ entry.isObject ∧
      entry.textAt? "name" = some system ∧
      (entry.itemsAt? "partitions").getD [] = definitions partition found ∧
      (partition ≠ none → definitions partition found ≠ []) := by
  obtain ⟨found, entry, hfound, hsystems, hentry⟩ := h.get?_systems
  have hname : found.textAt? "name" = some system := by
    simpa [isNamed] using List.find?_some hfound
  cases partition with
  | none =>
    obtain rfl : entry = found := hentry
    refine ⟨entry, entry, hfound, hsystems, isObject_of_get? (get?_of_textAt? hname), hname, ?_,
      fun h => absurd rfl h⟩
    exact (List.filter_eq_self.2 fun _ _ => rfl).symm
  | some partition =>
    obtain ⟨⟨all, hall, hleft, hne⟩, hother⟩ := hentry
    have hname' : entry.textAt? "name" = some system := by
      rw [Json.textAt?, hother "name" (by decide)]
      exact hname
    have hdefinitions : definitions (some partition) found = all.filter (isNamed partition) := by
      rw [definitions, hall]
      rfl
    refine ⟨found, entry, hfound, hsystems, isObject_of_get? (get?_of_textAt? hname'), hname', ?_,
      fun _ => hdefinitions ▸ hne⟩
    rw [hleft, hdefinitions]
    rfl

/-- Where all definitions have one name, so do the partitions. -/
theorem forall_name_of_isDefinedBy {name : String} {definitions : List Json}
    {partitions : List Partition} (h : List.Forall₂ Partition.IsDefinedBy definitions partitions)
    (hnamed : ∀ definition ∈ definitions, isNamed name definition) :
    ∀ p ∈ partitions, p.name = name := by
  induction h with
  | nil => exact List.forall_mem_nil _
  | @cons definition p _ _ hp _ ih =>
    obtain ⟨hdefinition, hrest⟩ := List.forall_mem_cons.1 hnamed
    refine List.forall_mem_cons.2 ⟨?_, ih hrest⟩
    have hmember := get?_of_textAt? (of_decide_eq_true hdefinition)
    have hfield := hp.name
    rw [Partition.field?, hmember, Option.some_or] at hfield
    cases hfield
    rfl

/-- **The partitions of a selected system.** -/
theorem partitions_of_selectFor {c c' : SiteConfig} {hostName : Except String String}
    {system : String} {partition : Option String} (hv : flaw? c.document = none)
    (hsticky : c.sticky = ∅) (hcolon : ':' ∉ system.toList)
    (h : Update.selectFor hostName (some (selectionText system partition)) c = .ok () c')
    (hsys : System.ofConfig backendNamed c' = .ok sys) :
    sys.name = system ∧ c'.system = some system ∧
      (∃ found, (systems c.document).find? (isNamed system) = some found ∧
        List.Forall₂ sys.Represents (definitions partition found) sys.partitions) ∧
      ∀ name, partition = some name →
        sys.partitions ≠ [] ∧ (∀ p ∈ sys.partitions, p.name = name) ∧
          sys.partition? name = sys.partitions.head? ∧
          sys.partition? (system ++ ":" ++ name) = sys.partitions.head? := by
  have hnarrowed := isNarrowed_of_selectFor hv hcolon h
  have hsticky' : c'.sticky = ∅ := (sticky_of_selectFor h).trans hsticky
  obtain ⟨found, entry, hfound, hsystems, hobject, hname, hpartitions, hne⟩ :=
    exists_entry_of_isNarrowed hnarrowed
  obtain ⟨hsysName, -, value, hget, hout⟩ := options_of_ofConfig hsys
  obtain rfl : system = sys.name := by
    have hoption := getText_name hsticky' hsystems hobject hname
    exact Option.some.inj (Except.ok.inj (hoption.symm.trans hsysName))
  have hdefined := forall₂_of_get_partitions hsticky' hsystems hobject hget hout
  rw [hpartitions] at hdefined
  refine ⟨rfl, hnarrowed.system_eq,
    ⟨found, hfound, hdefined.imp fun _ _ => represents_of_isDefinedBy⟩, fun name hpartition => ?_⟩
  have hall : ∀ p ∈ sys.partitions, p.name = name := by
    refine forall_name_of_isDefinedBy hdefined fun definition hdefinition => ?_
    rw [hpartition] at hdefinition
    exact (List.mem_filter.1 hdefinition).2
  refine ⟨fun hnil => ?_, hall, partition?_eq_head? hall⟩
  rw [hnil, List.forall₂_nil_right_iff] at hdefined
  exact hne (hpartition ▸ Option.some_ne_none name) hdefined

/-- A site with partitions in both forms, two of them with one name. -/
def gpuSite : Json :=
  let texts (items : List String) : Json := .array (items.map .string)
  .ofMembers [("systems", .array [
    .ofMembers [("name", .string "alps"), ("partitions", .array [
      .array [.string "cpu", .string "", .string "slurm"],
      .ofMembers [("name", .string "gpu"), ("modules", texts ["cuda", "nccl"]),
        ("variables", .array [texts ["CC", "nvcc"], texts ["CC", "gcc"]])],
      .ofMembers [("name", .string "gpu")]])]])]

/-- The configuration of the site narrowed to a selection. -/
def selected (selection : String) : SiteConfig :=
  Stateful.left (Update.selectFor (.ok "login") (some selection) (.unchecked gpuSite))

/-- The module systems of a machine without a module command. -/
def bareBackend (name : String) : Except ModuleError (Backend Unit) :=
  Backend.ofName (fun _ _ _ => .error .notFound) name ⟨.empty, .empty, [], ()⟩

theorem partitions_of_selectFor_gpu :
    flaw? gpuSite = none ∧
      Update.selectFor (.ok "login") (some (selectionText "alps" (some "gpu")))
        (.unchecked gpuSite) = .ok () (selected "alps:gpu") ∧
      ∃ sys, System.ofConfig bareBackend (selected "alps:gpu") = .ok sys ∧ sys.name = "alps" ∧
        sys.partitions.map (fun p => (p.name, p.modules, p.assignments)) =
          [("gpu", ["cuda", "nccl"], [("CC", "nvcc"), ("CC", "gcc")]), ("gpu", [], [])] ∧
        sys.partition? "gpu" = sys.partitions.head? := by
  have hvalid : flaw? gpuSite = none := rfl
  have hselected : Update.selectFor (.ok "login") (some (selectionText "alps" (some "gpu")))
      (.unchecked gpuSite) = .ok () (selected "alps:gpu") := Stateful.eq_ok_of_answer rfl
  have hpartitions : (System.ofConfig bareBackend (selected "alps:gpu")).toOption.map
      (fun sys => sys.partitions.map fun p => (p.name, p.modules, p.assignments)) =
        some [("gpu", ["cuda", "nccl"], [("CC", "nvcc"), ("CC", "gcc")]), ("gpu", [], [])] := by
    decide +kernel
  obtain ⟨sys, hsys, hparts⟩ := Option.map_eq_some_iff.1 hpartitions
  have hok : System.ofConfig bareBackend (selected "alps:gpu") = .ok sys :=
    Runtime.eq_ok_of_toOption hsys
  obtain ⟨hname, -, -, hnamed⟩ :=
    partitions_of_selectFor hvalid rfl (by decide +kernel) hselected hok
  exact ⟨hvalid, hselected, sys, hok, hname, hparts, (hnamed "gpu" rfl).2.2.1⟩

end System

end SiteRuntime
