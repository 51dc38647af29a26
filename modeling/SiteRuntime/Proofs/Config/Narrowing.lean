import Mathlib.Data.List.Basic
import Mathlib.Data.List.Find
import Mathlib.Data.List.Pairwise
import SiteRuntime.Proofs.Config.Selection

/-!
# What is left of a document for one system

An entry of a section may list the systems that it is meant for, and a selection keeps those entries
that are meant for the selected system. What comes first among them counts: where several
environments have one name, the first is the one that is activated. So it has to be known that no
entry is lost, none comes twice, and the order is the intended one (`isNarrowed_of_selectFor`):
entries that name the system come before those that are meant for every system, and apart from that
they are in the order of the document.

Which entries name a system, and which are meant for all, is told here from the document
(`Names`, `MeantForAll`). That the scan of the targets finds out just this is
`target?_eq_explicit_iff` and `target?_eq_wildcard_iff`; it stops at the first target that names the
system, so a star that comes later goes unseen and one that came earlier is overruled. The order is
a matter of sorting by two ranks, where stability leaves the entries of one rank as they were
(`filter_mergeSort`).
-/

namespace SiteRuntime.ConfigDocument

/-! ### Targets -/

/-- The texts in the list of targets of an entry, if it has such a list. -/
def targets? (entry : Json) : Option (List String) :=
  (entry.itemsAt? "target_systems").map (List.filterMap Json.text?)

/-- **An entry names a system** if one of its targets is the system, or begins with the system and a
colon. -/
def Names (system : String) (entry : Json) : Prop :=
  ∃ t ∈ (targets? entry).getD [], t = system ∨ system.toList ++ [':'] <+: t.toList

/-- **An entry is meant for all systems** if it has no list of targets, or one with a star. -/
def MeantForAll (entry : Json) : Prop := ∀ targets ∈ targets? entry, "*" ∈ targets

instance (system : String) (entry : Json) : Decidable (Names system entry) :=
  inferInstanceAs (Decidable (∃ t ∈ _, _))

instance (entry : Json) : Decidable (MeantForAll entry) :=
  inferInstanceAs (Decidable (∀ targets ∈ _, _))

theorem namesSystem_iff {system target : String} :
    namesSystem system target ↔ target = system ∨ system.toList ++ [':'] <+: target.toList := by
  rw [namesSystem, Bool.or_eq_true, decide_eq_true_iff, Text.startsWith, Option.isSome_iff_exists]
  refine or_congr_right (exists_congr fun rest => ?_)
  rw [Text.dropStart?_eq_some_iff, eq_comm]

/-- The scan stops at a target that names the system, if there is one. -/
theorem scanTargets_eq_explicit_iff {system : String} {starred : Bool} {targets : List String} :
    scanTargets system starred targets = some .explicit ↔
      ∃ t ∈ targets, namesSystem system t := by
  induction targets generalizing starred with
  | nil => cases starred <;> simp [scanTargets]
  | cons t rest ih =>
    rw [scanTargets, List.exists_mem_cons_iff]
    cases ht : namesSystem system t with
    | true => simp
    | false => simp [ih]

/-- The scan comes to the end and has seen a star. -/
theorem scanTargets_eq_wildcard_iff {system : String} {starred : Bool} {targets : List String} :
    scanTargets system starred targets = some .wildcard ↔
      (¬∃ t ∈ targets, namesSystem system t) ∧ (starred ∨ "*" ∈ targets) := by
  induction targets generalizing starred with
  | nil => cases starred <;> simp [scanTargets]
  | cons t rest ih =>
    rw [scanTargets, List.exists_mem_cons_iff, List.mem_cons]
    cases ht : namesSystem system t with
    | true => simp
    | false =>
      rw [if_neg Bool.false_ne_true, ih, Bool.or_eq_true, decide_eq_true_iff, or_assoc,
        eq_comm (a := t)]
      simp only [Bool.false_eq_true, false_or]

theorem target?_eq_explicit_iff {system : String} {entry : Json} :
    target? system entry = some .explicit ↔ Names system entry := by
  rw [target?, Names, targets?]
  cases entry.itemsAt? "target_systems" with
  | none => simp
  | some targets => simp only [scanTargets_eq_explicit_iff, namesSystem_iff, Option.map_some,
      Option.getD_some]

theorem target?_eq_wildcard_iff {system : String} {entry : Json} :
    target? system entry = some .wildcard ↔ ¬Names system entry ∧ MeantForAll entry := by
  rw [target?, Names, MeantForAll, targets?]
  cases entry.itemsAt? "target_systems" with
  | none => simp
  | some targets =>
    simp only [scanTargets_eq_wildcard_iff, namesSystem_iff, Option.map_some, Option.getD_some,
      Bool.false_eq_true, false_or, Option.mem_def, Option.some.injEq, forall_eq']

/-! ### Sorting by rank -/

section Sorting

variable {α : Type} (key : α → Nat)

theorem le_trans_key (a b c : α) :
    decide (key a ≤ key b) = true → decide (key b ≤ key c) = true →
      decide (key a ≤ key c) = true := by
  simpa using Nat.le_trans

theorem le_total_key (a b : α) : (decide (key a ≤ key b) || decide (key b ≤ key a)) = true := by
  simpa using Nat.le_total (key a) (key b)

/-- Sorting leaves the items of one key as they were. -/
theorem filter_mergeSort (l : List α) (k : Nat) :
    (l.mergeSort fun a b => key a ≤ key b).filter (key · = k) = l.filter (key · = k) := by
  have hclass : (l.filter (key · = k)).Pairwise fun a b => decide (key a ≤ key b) := by
    refine List.pairwise_of_forall_mem_list fun a ha b hb => ?_
    have ha : key a = k := by simpa using (List.mem_filter.1 ha).2
    have hb : key b = k := by simpa using (List.mem_filter.1 hb).2
    exact decide_eq_true (Nat.le_of_eq (ha.trans hb.symm))
  have hsublist : (l.filter (key · = k)).Sublist (l.mergeSort fun a b => key a ≤ key b) :=
    List.sublist_mergeSort (le_trans_key key) (le_total_key key) hclass List.filter_sublist
  have hfiltered := hsublist.filter (key · = k)
  rw [List.filter_filter] at hfiltered
  simp only [Bool.and_self] at hfiltered
  have hlength := ((List.mergeSort_perm l fun a b => key a ≤ key b).filter (key · = k)).length_eq
  exact (hfiltered.eq_of_length hlength.symm).symm

/-- A list that is sorted by two keys is made up of the items of either. -/
theorem eq_filter_append_filter {l : List α} (hsorted : l.Pairwise fun a b => key a ≤ key b)
    (hkeys : ∀ a ∈ l, key a ≤ 1) : l = l.filter (key · = 0) ++ l.filter (key · = 1) := by
  induction l with
  | nil => rfl
  | cons a rest ih =>
    obtain ⟨hfirst, hrest⟩ := List.pairwise_cons.1 hsorted
    obtain ⟨ha, hkeys⟩ := List.forall_mem_cons.1 hkeys
    have hsplit := ih hrest hkeys
    rcases Nat.le_one_iff_eq_zero_or_eq_one.1 ha with ha | ha
    · simpa [ha] using hsplit
    · -- after an item of the second key there is none of the first
      have hnone : rest.filter (key · = 0) = [] := by
        rw [List.filter_eq_nil_iff]
        intro b hb
        have hle := hfirst b hb
        simp only [decide_eq_true_eq]
        omega
      rw [hnone, List.nil_append] at hsplit
      simpa [ha, hnone] using hsplit

/-- Sorted by two keys, a list comes apart into the items of either, as they were. -/
theorem mergeSort_eq_append {l : List α} (hkeys : ∀ a ∈ l, key a ≤ 1) :
    (l.mergeSort fun a b => key a ≤ key b) =
      l.filter (key · = 0) ++ l.filter (key · = 1) := by
  have hsorted : (l.mergeSort fun a b => key a ≤ key b).Pairwise fun a b => key a ≤ key b := by
    have hpairs := List.pairwise_mergeSort (le_trans_key key) (le_total_key key) l
    simpa using hpairs
  have hsplit := eq_filter_append_filter key hsorted fun a ha => hkeys a (List.mem_mergeSort.1 ha)
  rwa [filter_mergeSort, filter_mergeSort] at hsplit

end Sorting

/-- Picked out of the ranked entries by rank, those of one kind of target are left. -/
theorem map_filter_ranked (system : String) (entries : List Json) (target : Target) :
    ((entries.filterMap fun entry => (target? system entry).map fun t => (t.rank, entry)).filter
      (·.1 = target.rank)).map (·.2) = entries.filter (target? system · = some target) := by
  have hrank : ∀ t : Target, t.rank = target.rank ↔ t = target := by
    cases target <;> intro t <;> cases t <;> decide
  induction entries with
  | nil => rfl
  | cons entry rest ih =>
    cases ht : target? system entry with
    | none => simpa [ht] using ih
    | some t => by_cases htarget : t = target <;> simpa [ht, htarget, hrank] using ih

/-- **The entries for a system** are those that name it and then those meant for all that do not,
each part in the order of the document. -/
theorem entriesFor_eq (system : String) (entries : List Json) :
    entriesFor system entries = entries.filter (Names system ·) ++
      entries.filter fun entry => ¬Names system entry ∧ MeantForAll entry := by
  let ranked := entries.filterMap fun entry => (target? system entry).map fun t => (t.rank, entry)
  have hranks : ∀ a ∈ ranked, a.1 ≤ 1 := by
    intro a ha
    obtain ⟨entry, -, hentry⟩ := List.mem_filterMap.1 ha
    obtain ⟨t, -, rfl⟩ := Option.map_eq_some_iff.1 hentry
    cases t with
    | explicit => exact Nat.zero_le 1
    | wildcard => exact Nat.le_refl 1
  calc entriesFor system entries
      = (ranked.filter (·.1 = Target.explicit.rank) ++
          ranked.filter (·.1 = Target.wildcard.rank)).map (·.2) :=
        congrArg (List.map Prod.snd) (mergeSort_eq_append Prod.fst hranks)
    _ = entries.filter (target? system · = some .explicit) ++
          entries.filter (target? system · = some .wildcard) := by
        rw [List.map_append, map_filter_ranked, map_filter_ranked]
    _ = _ := by simp only [target?_eq_explicit_iff, target?_eq_wildcard_iff]

theorem mem_entriesFor_iff {system : String} {entries : List Json} {entry : Json} :
    entry ∈ entriesFor system entries ↔
      entry ∈ entries ∧ (Names system entry ∨ MeantForAll entry) := by
  rw [entriesFor_eq, List.mem_append, List.mem_filter, List.mem_filter, decide_eq_true_iff,
    decide_eq_true_iff]
  by_cases h : Names system entry <;> simp [h]

/-- The first of the entries for a system that pass a test is the first that names the system, or
if there is none, the first that is meant for all. -/
theorem find?_entriesFor (test : Json → Bool) (system : String) (entries : List Json) :
    (entriesFor system entries).find? test =
      (entries.find? fun entry => test entry ∧ Names system entry).or
        (entries.find? fun entry => test entry ∧ MeantForAll entry) := by
  rw [entriesFor_eq, List.find?_append, List.find?_filter, List.find?_filter]
  have hnames :
      (entries.find? fun entry => decide (Names system entry) = true ∧ test entry = true) =
      entries.find? fun entry => test entry ∧ Names system entry := by
    simp only [decide_eq_true_eq, and_comm]
  rw [hnames]
  cases hfound : entries.find? fun entry => test entry ∧ Names system entry with
  | some entry => rfl
  | none =>
    -- then among those that pass the test none names the system
    rw [Option.none_or, Option.none_or]
    refine List.find?_congr fun entry hentry => ?_
    have hnone := List.find?_eq_none.1 hfound entry hentry
    rw [decide_eq_true_iff, not_and] at hnone
    rw [decide_eq_decide, decide_eq_true_iff]
    constructor
    · exact fun ⟨⟨_, hall⟩, htest⟩ => ⟨htest, hall⟩
    · exact fun ⟨htest, hall⟩ => ⟨⟨hnone htest, hall⟩, htest⟩

/-! ### Sections -/

/-- A section as it is left for a system: of a list the entries for the system, anything else as it
is. -/
def sectionFor (system : String) : Json → Json
  | .array entries =>
    .array (entries.filter (Names system ·) ++
      entries.filter fun entry => ¬Names system entry ∧ MeantForAll entry)
  | value => value

theorem narrowedSection_of_ne {system k : String} (hk : k ≠ "systems") (selected : Json) :
    narrowedSection system selected k = sectionFor system := by
  funext value
  cases value with
  | array entries => rw [narrowedSection, if_neg hk, entriesFor_eq, sectionFor]
  | null | bool | number | string | object => exact if_neg hk

/-- The environments that are left are the entries for the system. -/
theorem environments_narrowed (system : String) (selected document : Json) :
    environments (narrowed system selected document) =
      entriesFor system (environments document) := by
  rw [environments, environments, Json.itemsAt?, Json.itemsAt?, get?_narrowed,
    narrowedSection_of_ne (by decide)]
  cases document.get? "environments" with
  | none => exact (entriesFor_eq system []).symm
  | some value =>
    cases value with
    | array entries => exact (entriesFor_eq system entries).symm
    | null | bool | number | string | object => exact (entriesFor_eq system []).symm

/-! ### Partitions -/

/-- **A system cut down to a partition**: of its partitions those of the name are left, at least
one, and everything else in it is as it was. -/
structure OfPartition (partition : String) (system entry : Json) : Prop where
  partitions : ∃ all, system.itemsAt? "partitions" = some all ∧
    entry.itemsAt? "partitions" = some (all.filter (isNamed partition)) ∧
    all.filter (isNamed partition) ≠ []
  get?_other : ∀ k ≠ "partitions", entry.get? k = system.get? k

theorem ofPartition_of_withPartition? {partition : String} {system entry : Json}
    (h : withPartition? partition system = some entry) : OfPartition partition system entry := by
  rw [withPartition?] at h
  split at h
  · cases h
  · cases h
  next partitions hne hpartitions =>
    cases h
    obtain ⟨all, hall, hfilter⟩ := Option.map_eq_some_iff.1 hpartitions
    obtain ⟨value, hvalue, -⟩ := Option.bind_eq_some_iff.1 hall
    refine ⟨⟨all, hall, ?_, hfilter ▸ hne⟩, fun k hk => get?_replaceMember_of_ne hk _ _⟩
    rw [Json.itemsAt?, get?_replaceMember, hvalue, Option.map_some, if_pos rfl, hfilter]
    rfl

end SiteRuntime.ConfigDocument

namespace SiteRuntime.SiteConfig

open ConfigDocument

/-! ### Selections -/

/-- The text that selects a system and perhaps one of its partitions. -/
def selectionText (system : String) : Option String → String
  | none => system
  | some partition => s!"{system}:{partition}"

theorem splitSelection_selectionText {system : String} (hcolon : ':' ∉ system.toList)
    (partition : Option String) :
    splitSelection (selectionText system partition) = (system, partition) := by
  cases partition with
  | none => rw [selectionText, splitSelection, Text.splitOnce?_eq_none_iff.2 hcolon]
  | some partition =>
    have hsplit : Text.splitOnce? ':' (selectionText system (some partition)).toList =
        some (system.toList, partition.toList) := by
      refine Text.splitOnce?_eq_some_iff.2 ⟨?_, hcolon⟩
      simp [selectionText, toString]
    rw [splitSelection, hsplit]
    exact Prod.ext String.ofList_toList (congrArg some String.ofList_toList)

/-- The entry that defines an environment for a system: of several of one name the first that names
the system, or if there is none, the first that is meant for all. -/
def definition? (document : Json) (system name : String) : Option Json :=
  ((environments document).find? fun e => isNamed name e ∧ Names system e).or
    ((environments document).find? fun e => isNamed name e ∧ MeantForAll e)

/-- **A configuration narrowed** to a system and perhaps to one of its partitions, told from the
document. -/
structure IsNarrowed (document : Json) (system : String) (partition : Option String)
    (c : SiteConfig) : Prop where
  system_eq : c.system = some system
  /-- Every other section has the entries that name the system, then those meant for all. -/
  get?_section : ∀ k ≠ "systems", c.resolved.get? k = (document.get? k).map (sectionFor system)
  /-- The first system of the name is left, with the partitions that were asked for. -/
  get?_systems : ∃ found entry, (systems document).find? (isNamed system) = some found ∧
    c.resolved.get? "systems" = some (.array [entry]) ∧
    match partition with
    | none => entry = found
    | some partition => OfPartition partition found entry
  environment_eq : ∀ n, c.environment n =
    match definition? document system n with
    | some entry => (Environment.ofJson entry).mapError (.invalidEnvironment n)
    | none => .error (.environmentNotFound n)
  mem_environmentNames : ∀ n, n ∈ c.environmentNames ↔
    ∃ e ∈ environments document, isNamed n e ∧ (Names system e ∨ MeantForAll e)
  notFound_iff : ∀ n, (∃ x, c.environment n = .error (.environmentNotFound x)) ↔
    n ∉ c.environmentNames

theorem mem_environmentNames_iff {c : SiteConfig} {n : String} :
    n ∈ c.environmentNames ↔ ∃ e ∈ environments c.resolved, isNamed n e := by
  simp only [environmentNames, List.mem_filterMap, isNamed, decide_eq_true_eq]

/-- There is no environment of a name just if the name is not among those of the environments. -/
theorem environment_eq_notFound_iff {c : SiteConfig} {n : String} :
    (∃ x, c.environment n = .error (.environmentNotFound x)) ↔ n ∉ c.environmentNames := by
  rw [mem_environmentNames_iff, environment]
  constructor
  · rintro ⟨x, h⟩
    split at h
    next hfound =>
      rintro ⟨e, he, hn⟩
      exact List.find?_eq_none.1 hfound e he hn
    next entry hfound =>
      -- an entry that is found but cannot be decoded fails in another way
      cases hdecoded : Environment.ofJson entry <;> rw [hdecoded] at h <;> cases h
  · intro hnone
    have hfound : (environments c.resolved).find? (isNamed n) = none :=
      List.find?_eq_none.2 fun e he hn => hnone ⟨e, he, hn⟩
    rw [hfound]
    exact ⟨n, rfl⟩

/-- What the narrowed document looks like if the entry was selected from the document. -/
theorem isNarrowed_narrowTo {c : SiteConfig} {system : String} {partition : Option String}
    {entry : Json} (hv : flaw? c.document = none)
    (h : selectedEntry c.document system partition = .ok entry) :
    IsNarrowed c.document system partition (c.narrowTo (system, entry)) where
  system_eq := rfl
  get?_section k hk := by
    rw [narrowTo, get?_narrowed, narrowedSection_of_ne hk]
  get?_systems := by
    obtain ⟨sections, entries, hd⟩ := flaw?_eq_none_iff.1 hv
    obtain ⟨value, hvalue, -⟩ := Option.bind_eq_some_iff.1 hd.itemsAt
    have hsystems : (narrowed system entry c.document).get? "systems" = some (.array [entry]) := by
      rw [get?_narrowed, hvalue]
      rfl
    unfold selectedEntry at h
    split at h
    next => cases h
    next found hfound =>
      cases h
      exact ⟨_, _, hfound, hsystems, rfl⟩
    next found partition hfound =>
      split at h
      next entry' hpartition =>
        cases h
        exact ⟨found, _, hfound, hsystems, ofPartition_of_withPartition? hpartition⟩
      next => cases h
  environment_eq n := by
    rw [environment, narrowTo, environments_narrowed, find?_entriesFor, ← definition?]
    cases definition? c.document system n <;> rfl
  mem_environmentNames n := by
    rw [mem_environmentNames_iff, narrowTo, environments_narrowed]
    refine exists_congr fun e => ?_
    rw [mem_entriesFor_iff, and_assoc, and_comm (a := _ ∨ _)]
  notFound_iff n := environment_eq_notFound_iff

/-- **A selection narrows as it should.** Whatever a configuration was narrowed to before, if it
selects a system of a valid document, and perhaps one of its partitions, and this succeeds, then it
is narrowed to them. -/
theorem isNarrowed_of_selectFor {c c' : SiteConfig} {hostName : Except String String}
    {system : String} {partition : Option String} (hv : flaw? c.document = none)
    (hcolon : ':' ∉ system.toList)
    (h : Update.selectFor hostName (some (selectionText system partition)) c = .ok () c') :
    IsNarrowed c.document system partition c' := by
  have hpicked : pickNamed c.document (selectionText system partition) =
      (selectedEntry c.document system partition).map fun entry => (system, entry) := by
    rw [pickNamed, splitSelection_selectionText hcolon]
  have hselect : Update.replacing
      (((selectedEntry c.document system partition).map fun entry => (system, entry)).map
        c.narrowTo) c = .ok () c' := by
    rw [← hpicked, ← select_eq_map, ← Update.select_apply]
    exact h
  cases hentry : selectedEntry c.document system partition with
  | error e =>
    rw [hentry] at hselect
    cases hselect
  | ok entry =>
    rw [hentry] at hselect
    cases hselect
    exact isNarrowed_narrowTo hv hentry

/-- Environments of a site with targets of all kinds: none, some that are not texts, a star beside
the system, a text in place of a list, and a system of which the name begins alike. -/
def manyTargets : Json :=
  let named (name : String) (rest : List (String × Json)) :=
    Json.ofMembers (("name", .string name) :: rest)
  let targets (items : List Json) : String × Json := ("target_systems", .array items)
  let compiler (path : String) : String × Json :=
    ("variables", .array [.array [.string "CC", .string path]])
  .ofMembers [
    ("systems", .array [
      named "alps" [("partitions", .array [named "cpu" [], named "gpu" [], named "gpu" []])],
      named "alps" []]),
    ("environments", .array [
      named "gnu" [compiler "gcc"],
      named "gnu" [compiler "cc", targets [.null, .string "*", .string "alps:gpu"]],
      named "cray" [compiler "craycc", ("target_systems", .string "dom")],
      named "cray" [compiler "dom", targets [.string "dom"]],
      named "intel" [targets [.string "alps2"]]])]

theorem isNarrowed_of_selectFor_manyTargets :
    flaw? manyTargets = none ∧ ∃ c',
      Update.selectFor (.ok "login") (some (selectionText "alps" (some "gpu")))
        (.unchecked manyTargets) = .ok () c' ∧
      IsNarrowed manyTargets "alps" (some "gpu") c' ∧
      c'.environment "gnu" = .ok ⟨"gnu", [], [("CC", "cc")]⟩ ∧
      c'.environment "cray" = .ok ⟨"cray", [], [("CC", "craycc")]⟩ ∧
      c'.environment "intel" = .error (.environmentNotFound "intel") := by
  have hvalid : flaw? manyTargets = none := rfl
  have hselected : ∃ c', Update.selectFor (.ok "login")
      (some (selectionText "alps" (some "gpu"))) (.unchecked manyTargets) = .ok () c' :=
    ⟨_, rfl⟩
  obtain ⟨c', h⟩ := hselected
  have hnarrowed : IsNarrowed manyTargets "alps" (some "gpu") c' :=
    isNarrowed_of_selectFor hvalid (by decide) h
  refine ⟨hvalid, c', h, hnarrowed, ?_, ?_, ?_⟩
  · rw [hnarrowed.environment_eq]
    rfl
  · rw [hnarrowed.environment_eq]
    rfl
  · rw [hnarrowed.environment_eq]
    rfl

end SiteRuntime.SiteConfig
