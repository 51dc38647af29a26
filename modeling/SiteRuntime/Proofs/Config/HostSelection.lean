import SiteRuntime.Proofs.Config.Narrowing

/-!
# The system of a host

A host is looked for among the patterns of all systems, in the order of the document, and the first
pattern that matches tells the system. The selection itself is then made a second time, by the name
of that system. So two questions are asked of a document, and they have the same answer only if the
name leads back to the entry that it was read from.

`systemMatching_eq_some_iff` answers the first one, for any test that patterns can be put to: what
counts is the first pattern that either matches or is malformed. The name leads back (`LeadsBack`)
if it has no colon, which a selection takes for the start of a partition, and if no system before
has it too. Then, and only then, the system of the host is left, and it is left whole
(`selectMatching_first`). A document may have systems of other names, and they are never selected
for their hosts: another system is, or none (`not_selectMatching_first`).
-/

namespace SiteRuntime.SiteConfig

open ConfigDocument

/-! ### The pattern that decides -/

section Patterns

variable {test : String → Option Bool}

/-- **The first pattern that decides**: it matches, or it is malformed. -/
def deciding? (test : String → Option Bool) (patterns : List String) : Option String :=
  patterns.find? (test · ≠ some false)

/-- What a list of patterns says is what the pattern says that decides. -/
theorem anyMatches?_eq (patterns : List String) :
    anyMatches? test patterns = (deciding? test patterns).elim (some false) test := by
  induction patterns with
  | nil => rfl
  | cons p rest ih =>
    rw [anyMatches?, deciding?, List.find?_cons]
    cases hp : test p with
    | none => simp [hp]
    | some answer =>
      cases answer with
      | true => simp [hp]
      | false => simpa [deciding?] using ih

theorem deciding?_append (first rest : List String) :
    deciding? test (first ++ rest) = (deciding? test first).or (deciding? test rest) :=
  List.find?_append

/-- A pattern that matches decides, unless one before it does; if none before it is malformed, the
one that decides matches too. -/
theorem exists_deciding?_of_matches {patterns before after : List String} {p : String}
    (hpatterns : patterns = before ++ p :: after) (hbefore : ∀ q ∈ before, test q ≠ none)
    (hp : test p = some true) : ∃ q, deciding? test patterns = some q ∧ test q = some true := by
  rw [hpatterns, deciding?_append]
  cases hdecides : deciding? test before with
  | some q =>
    refine ⟨q, rfl, ?_⟩
    have hq : test q ≠ some false := by simpa using List.find?_some hdecides
    have hwell : test q ≠ none := hbefore q (List.mem_of_find?_eq_some hdecides)
    cases hanswer : test q with
    | none => exact absurd hanswer hwell
    | some answer =>
      cases answer with
      | true => rfl
      | false => exact absurd hanswer hq
  | none => exact ⟨p, by simp [deciding?, hp], hp⟩

end Patterns

/-! ### The system that is found -/

/-- The patterns of all systems, in order. -/
def patternsOf (systems : List Json) : List String := systems.flatMap hostPatterns

/-- Whether one of the patterns of a system matches. -/
def IsFor (test : String → Option Bool) (system : Json) : Bool :=
  (hostPatterns system).any (test · = some true)

section Systems

variable {test : String → Option Bool}

theorem deciding?_patternsOf_cons (system : Json) (rest : List Json) :
    deciding? test (patternsOf (system :: rest)) =
      (deciding? test (hostPatterns system)).or (deciding? test (patternsOf rest)) := by
  rw [patternsOf, List.flatMap_cons, deciding?_append, patternsOf]

/-- No pattern matches where none decides. -/
theorem isFor_eq_false {system : Json} (h : deciding? test (hostPatterns system) = none) :
    IsFor test system = false := by
  rw [IsFor, List.any_eq_false]
  intro p hp
  have hfalse : test p = some false := by simpa using List.find?_eq_none.1 h p hp
  simp [hfalse]

theorem isFor_of_deciding? {system : Json} {p : String}
    (h : deciding? test (hostPatterns system) = some p) (hp : test p = some true) :
    IsFor test system :=
  List.any_eq_true.2 ⟨p, List.mem_of_find?_eq_some h, decide_eq_true hp⟩

/-- **The system that is found** is the first that a pattern matches, and it is found just if the
first pattern that decides in the whole document is one that matches. -/
theorem systemMatching_eq_some_iff {systems : List Json} {name : String}
    (hnamed : ∀ s ∈ systems, (systemName? s).isSome) :
    systemMatching test systems = .ok (some name) ↔
      (∃ p, deciding? test (patternsOf systems) = some p ∧ test p = some true) ∧
        (systems.find? (IsFor test)).bind systemName? = some name := by
  induction systems with
  | nil => simp [systemMatching, patternsOf, deciding?]
  | cons system rest ih =>
    obtain ⟨hfirst, hrest⟩ := List.forall_mem_cons.1 hnamed
    obtain ⟨own, hown⟩ := Option.isSome_iff_exists.1 hfirst
    rw [systemMatching, hown, anyMatches?_eq, deciding?_patternsOf_cons, List.find?_cons]
    cases hdecides : deciding? test (hostPatterns system) with
    | none =>
      -- the system says nothing about the host
      rw [isFor_eq_false hdecides]
      exact ih hrest
    | some p =>
      have hp : test p ≠ some false := by simpa using List.find?_some hdecides
      cases hanswer : test p with
      | none => simp [hanswer]
      | some answer =>
        cases answer with
        | false => exact absurd hanswer hp
        | true =>
          rw [isFor_of_deciding? hdecides hanswer]
          simp [hanswer, hown]

end Systems

/-! ### Selecting what was found -/

/-- The first system of a document that a pattern matches. -/
def systemFor? (test : String → Option Bool) (document : Json) : Option Json :=
  (systems document).find? (IsFor test)

/-- **A match is met**: some pattern of the document matches, and none that comes before it is
malformed. -/
def MeetsMatch (test : String → Option Bool) (document : Json) : Prop :=
  ∃ before p after, patternsOf (systems document) = before ++ p :: after ∧
    test p = some true ∧ ∀ q ∈ before, test q ≠ none

/-- **A name that leads back** to the system that it was read from: it has no colon, and the system
is the first of the name. -/
def LeadsBack (document : Json) (name : String) (entry : Json) : Prop :=
  ':' ∉ name.toList ∧ (systems document).find? (isNamed name) = some entry

section Selecting

variable {document entry : Json} {name : String}

theorem systemName?_isSome (hv : flaw? document = none) :
    ∀ s ∈ systems document, (systemName? s).isSome := by
  obtain ⟨sections, entries, hd⟩ := flaw?_eq_none_iff.1 hv
  rw [systems, hd.itemsAt]
  exact hd.named

/-- Where a match is met there is a first system that a pattern matches, and it is the one found. -/
theorem MeetsMatch.systemMatching {test : String → Option Bool} (h : MeetsMatch test document)
    (hv : flaw? document = none) :
    ∃ entry name, systemFor? test document = some entry ∧ systemName? entry = some name ∧
      systemMatching test (systems document) = .ok (some name) := by
  obtain ⟨before, p, after, hpatterns, hp, hbefore⟩ := h
  have hdecides := exists_deciding?_of_matches hpatterns hbefore hp
  have hmem : p ∈ patternsOf (systems document) := by
    rw [hpatterns]
    exact List.mem_append_right _ List.mem_cons_self
  obtain ⟨system, hsystem, hpattern⟩ := List.mem_flatMap.1 hmem
  have hfor : IsFor test system := List.any_eq_true.2 ⟨p, hpattern, decide_eq_true hp⟩
  have hsome : (systemFor? test document).isSome :=
    List.find?_isSome.2 ⟨system, hsystem, hfor⟩
  obtain ⟨entry, hentry⟩ := Option.isSome_iff_exists.1 hsome
  have hname := systemName?_isSome hv entry (List.mem_of_find?_eq_some hentry)
  obtain ⟨name, hname⟩ := Option.isSome_iff_exists.1 hname
  refine ⟨entry, name, hentry, hname, (systemMatching_eq_some_iff (systemName?_isSome hv)).2 ?_⟩
  refine ⟨hdecides, ?_⟩
  rw [← systemFor?, hentry]
  exact hname

/-- A name without a colon is not cut. -/
theorem splitSelection_of_notMem (h : ':' ∉ name.toList) : splitSelection name = (name, none) :=
  splitSelection_selectionText h none

/-- A name with a colon is cut to another one. -/
theorem splitSelection_ne (h : ':' ∈ name.toList) : (splitSelection name).1 ≠ name := by
  rw [splitSelection]
  cases hsplit : Text.splitOnce? ':' name.toList with
  | none => exact absurd h (Text.splitOnce?_eq_none_iff.1 hsplit)
  | some parts =>
    obtain ⟨-, hfirst⟩ := Text.splitOnce?_eq_some_iff.1 hsplit
    intro heq
    rw [← heq, String.toList_ofList] at h
    exact hfirst h

/-- A name without a colon selects some system if it is the name of one. -/
theorem exists_selectedEntry (hentry : entry ∈ systems document)
    (hname : systemName? entry = some name) (hcolon : ':' ∉ name.toList) :
    ∃ found, selectedEntry document (splitSelection name).1 (splitSelection name).2 =
      .ok found := by
  have hnamed : isNamed name entry := decide_eq_true (textAt?_of_systemName? hname)
  have hsome : ((systems document).find? (isNamed name)).isSome :=
    List.find?_isSome.2 ⟨entry, hentry, hnamed⟩
  obtain ⟨found, hfound⟩ := Option.isSome_iff_exists.1 hsome
  refine ⟨found, ?_⟩
  rw [splitSelection_of_notMem hcolon]
  unfold selectedEntry
  rw [hfound]

/-- What is selected by the name of a system is that system just if the name leads back to it. -/
theorem eq_iff_leadsBack {found : Json} (hv : flaw? document = none)
    (hname : systemName? entry = some name)
    (h : selectedEntry document (splitSelection name).1 (splitSelection name).2 = .ok found) :
    found = entry ↔ LeadsBack document name entry := by
  by_cases hcolon : ':' ∈ name.toList
  · -- what is found has the part of the name before the colon as its name
    have hfound := systemName?_selectedEntry hv h
    constructor
    · rintro rfl
      rw [hname, Option.some.injEq] at hfound
      exact absurd hfound.symm (splitSelection_ne hcolon)
    · exact fun hback => absurd hcolon hback.1
  · rw [splitSelection_of_notMem hcolon] at h
    unfold selectedEntry at h
    cases hfind : (systems document).find? (isNamed name) with
    | none =>
      rw [hfind] at h
      cases h
    | some first =>
      rw [hfind] at h
      cases h
      simp [LeadsBack, hcolon, hfind]

/-! ### What success means -/

/-- A selection by name succeeds if it finds an entry, and narrows to it. -/
theorem select_eq_ok_iff {c c' : SiteConfig} {selection : String} :
    c.select selection = .ok c' ↔
      ∃ found, selectedEntry c.document (splitSelection selection).1 (splitSelection selection).2 =
          .ok found ∧ c' = c.narrowTo ((splitSelection selection).1, found) := by
  rw [select_eq_map, pickNamed]
  dsimp only
  cases selectedEntry c.document (splitSelection selection).1 (splitSelection selection).2 with
  | error e => simp [Except.map]
  | ok found => simp [Except.map, eq_comm]

/-- A selection by host succeeds if it finds a system and the selection by its name succeeds. -/
theorem selectMatching_eq_ok_iff {c c' : SiteConfig} {test : String → String → Option Bool}
    {host : String} :
    Update.selectMatching test host c = .ok () c' ↔
      ∃ name, systemMatching (test · host) (systems c.document) = .ok (some name) ∧
        c.select name = .ok c' := by
  rw [Update.selectMatching, Update.asking_bind]
  cases systemMatching (test · host) (systems c.document) with
  | error e => simp
  | ok found =>
    cases found with
    | none =>
      -- nothing is found, and the selection fails
      refine iff_of_false (fun h => ?_) (by simp)
      cases h
    | some name =>
      simp only [Except.ok.injEq, Option.some.injEq, exists_eq_left']
      rw [Update.select_apply]
      cases c.select name <;> simp [Update.replacing]

end Selecting

/-- **The system of a host.** Whatever patterns mean: if a selection by host succeeds, some system
is the first that a pattern matches, and it is what is left, complete, just if its name leads back
to it. And where a match is met, the selection succeeds if the name of that system has no colon. -/
theorem selectMatching_first {c : SiteConfig} (hv : flaw? c.document = none)
    (test : String → String → Option Bool) (host : String) :
    (∀ c', Update.selectMatching test host c = .ok () c' →
      ∃ entry name, systemFor? (test · host) c.document = some entry ∧
        systemName? entry = some name ∧
        (c'.resolved.itemsAt? "systems" = some [entry] ↔ LeadsBack c.document name entry)) ∧
      (MeetsMatch (test · host) c.document →
        ∃ entry name, systemFor? (test · host) c.document = some entry ∧
          systemName? entry = some name ∧
          (':' ∉ name.toList → ∃ c', Update.selectMatching test host c = .ok () c')) := by
  constructor
  · intro c' h
    obtain ⟨name, hmatching, hselect⟩ := selectMatching_eq_ok_iff.1 h
    obtain ⟨-, hbind⟩ := (systemMatching_eq_some_iff (systemName?_isSome hv)).1 hmatching
    obtain ⟨entry, hentry, hname⟩ := Option.bind_eq_some_iff.1 hbind
    obtain ⟨found, hfound, rfl⟩ := select_eq_ok_iff.1 hselect
    refine ⟨entry, name, hentry, hname, ?_⟩
    rw [narrowTo, itemsAt?_narrowed hv, ← eq_iff_leadsBack hv hname hfound]
    simp
  · intro hmet
    obtain ⟨entry, name, hentry, hname, hmatching⟩ := hmet.systemMatching hv
    refine ⟨entry, name, hentry, hname, fun hcolon => ?_⟩
    have hmem : entry ∈ systems c.document := List.mem_of_find?_eq_some hentry
    obtain ⟨found, hfound⟩ := exists_selectedEntry hmem hname hcolon
    have hselect := select_eq_ok_iff.2 ⟨found, hfound, rfl⟩
    exact ⟨_, selectMatching_eq_ok_iff.2 ⟨name, hmatching, hselect⟩⟩

/-- A system with a name, a description and patterns for host names. -/
def cluster (name descr : String) (patterns : List String) (rest : List (String × Json)) : Json :=
  .ofMembers ([("name", .string name), ("descr", .string descr),
    ("hostnames", .ofStrings patterns)] ++ rest)

/-- A document with the given systems. -/
def siteOf (systems : List Json) : Json := .ofMembers [("systems", .array systems)]

/-- The system of the hosts `login`, with two partitions. -/
def frontEnd : Json :=
  cluster "dom" "front end" ["dom", "login"] [("partitions", .array
    [.ofMembers [("name", .string "cpu")], .ofMembers [("name", .string "gpu")]])]

/-- A site that describes the system of a host twice, and has a malformed pattern after it. -/
def describedTwice : Json :=
  siteOf [cluster "alps" "back end" ["nid[0-9]+"] [], frontEnd, cluster "dom" "copy" ["login"] [],
    cluster "broken" "" ["("] []]

theorem selectMatching_first_describedTwice :
    flaw? describedTwice = none ∧ MeetsMatch (hostMatches? · "login1") describedTwice ∧
      ∃ c', Update.selectForHost "login1" (.unchecked describedTwice) = .ok () c' ∧
        c'.resolved.itemsAt? "systems" = some [frontEnd] := by
  have hvalid : flaw? describedTwice = none := rfl
  have hmeets : MeetsMatch (hostMatches? · "login1") describedTwice :=
    ⟨["nid[0-9]+", "dom"], "login", ["login", "("], rfl, by decide +kernel, by decide +kernel⟩
  obtain ⟨hleft, hfound⟩ :=
    selectMatching_first (c := .unchecked describedTwice) hvalid hostMatches? "login1"
  obtain ⟨entry, name, hentry, hname, hselects⟩ := hfound hmeets
  -- the test passes over the first system, and not over the second
  have hfirst : systemFor? (hostMatches? · "login1") describedTwice = some frontEnd := by
    have hback : IsFor (hostMatches? · "login1") (cluster "alps" "back end" ["nid[0-9]+"] []) =
        false := by decide +kernel
    have hfront : IsFor (hostMatches? · "login1") frontEnd = true := by decide +kernel
    have hsystems : systems describedTwice = [cluster "alps" "back end" ["nid[0-9]+"] [], frontEnd,
        cluster "dom" "copy" ["login"] [], cluster "broken" "" ["("] []] := rfl
    rw [systemFor?, hsystems, List.find?_cons, hback, List.find?_cons, hfront]
  obtain rfl : entry = frontEnd := Option.some.inj (hentry.symm.trans hfirst)
  obtain rfl : name = "dom" := Option.some.inj (hname.symm.trans rfl)
  obtain ⟨c', hc'⟩ := hselects (by decide)
  refine ⟨hvalid, hmeets, c', hc', ?_⟩
  obtain ⟨entry', name', hentry', hname', hiff⟩ := hleft c' hc'
  obtain rfl : entry' = frontEnd := Option.some.inj (hentry'.symm.trans hfirst)
  obtain rfl : name' = "dom" := Option.some.inj (hname'.symm.trans rfl)
  exact hiff.2 ⟨by decide, rfl⟩

/-! ### Names that do not lead back -/

/-- The descriptions of the systems that are left by a selection for a host, if it succeeds. -/
def descriptionsFor (host : String) (document : Json) : Option (List (Option String)) :=
  match Update.selectForHost host (.unchecked document) with
  | .ok _ c => (c.resolved.itemsAt? "systems").map (List.map (Json.textAt? "descr"))
  | .error _ _ => none

/-- The description of the first system that a pattern matches. -/
def descriptionOfFirst (host : String) (document : Json) : Option String :=
  (systemFor? (hostMatches? · host) document).bind (Json.textAt? "descr")

/-- A site with two systems of one name, of which the second has the host. -/
def sharedName : Json :=
  siteOf [cluster "alps" "back end" ["nid"] [], cluster "alps" "front end" ["login"] []]

/-- A site with a system whose name reads like a partition of another one. -/
def partitionName : Json :=
  siteOf [cluster "alps" "back end" ["nid"]
      [("partitions", .array [.ofMembers [("name", .string "login")]])],
    cluster "alps:login" "front end" ["login"] []]

/-- A site with a system whose name has a colon. -/
def colonName : Json := siteOf [cluster "alps:login" "front end" ["login"] []]

/-- **Not the system of the host.** The documents are valid, no pattern is malformed, and a pattern
of the front end is the first that matches: the selection takes the other system of the name, or the
system of which the name seems to be a partition, or fails. -/
theorem not_selectMatching_first :
    (flaw? sharedName = none ∧ descriptionOfFirst "login1" sharedName = some "front end" ∧
        descriptionsFor "login1" sharedName = some [some "back end"]) ∧
      (flaw? partitionName = none ∧ descriptionOfFirst "login1" partitionName = some "front end" ∧
        descriptionsFor "login1" partitionName = some [some "back end"]) ∧
      flaw? colonName = none ∧ MeetsMatch (hostMatches? · "login1") colonName ∧
        descriptionsFor "login1" colonName = none := by
  refine ⟨⟨rfl, by decide +kernel, by decide +kernel⟩, ⟨rfl, by decide +kernel, by decide +kernel⟩,
    rfl, ⟨[], "login", [], rfl, by decide +kernel, ?_⟩, by decide +kernel⟩
  exact List.forall_mem_nil _

end SiteRuntime.SiteConfig
