import SiteRuntime.Proofs.Config.Changes

/-!
# Selections leave no trace in each other

Narrowing a configuration again and again could compound, or stop half-way. Neither happens: after
any run of changes the configuration is narrowed exactly as the last selection that succeeded would
have narrowed the untouched one (`selection_run`).

Two facts carry this. Which entry a selection picks depends on the document alone, which no change
touches, so a selection that succeeds late in a run succeeds at its start and picks the same
(`narrowedAs_run`). And what it picks is an entry of a valid document under the name that was asked
for, which is all that a narrowed document needs to be valid itself (`flaw?_narrowed`).
-/

namespace SiteRuntime.ConfigDocument

/-! ### Valid documents -/

/-- What a document without a flaw looks like, its sections and its systems being given. -/
structure Sound (document : Json) (sections : List (String × Json)) (entries : List Json) :
    Prop where
  isObject : document = .object sections
  itemsAt : document.itemsAt? "systems" = some entries
  nonempty : entries ≠ []
  named : ∀ entry ∈ entries, (systemName? entry).isSome
  unmixed : ∀ s ∈ sections, isMixed s.2 = false

theorem flaw?_eq_none_iff {document : Json} :
    flaw? document = none ↔ ∃ sections entries, Sound document sections entries := by
  constructor
  · intro h
    unfold flaw? at h
    split at h
    next sections =>
      split at h
      next => cases h
      next => cases h
      next entries hne hsys =>
        split at h
        next => cases h
        next hnamed =>
          rw [Option.map_eq_none_iff, List.find?_eq_none] at h
          refine ⟨sections, entries, rfl, hsys, hne, fun entry he => ?_, fun s hs => ?_⟩
          · have hall := mt (List.any_eq_true.2 ⟨entry, he, ·⟩) hnamed
            simpa [Option.isSome_iff_ne_none] using hall
          · exact Bool.eq_false_iff.2 (h s hs)
    next => cases h
  · rintro ⟨sections, entries, rfl, hsys, hne, hnamed, hmixed⟩
    have hany : (entries.any fun s => (systemName? s).isNone) = false := by
      rw [List.any_eq_false]
      intro entry he
      simpa [Option.isSome_iff_ne_none] using hnamed entry he
    have hfind : (sections.find? fun s => isMixed s.2) = none := by
      rw [List.find?_eq_none]
      intro s hs
      simp [hmixed s hs]
    unfold flaw?
    simp [hsys, hany, hfind]

/-- Something with a name is an object. -/
theorem isObject_of_systemName? {entry : Json} {name : String}
    (h : systemName? entry = some name) : entry.isObject := by
  cases entry with
  | object members => rfl
  | null | bool | number | string | array => cases h

theorem textAt?_of_systemName? {entry : Json} {name : String}
    (h : systemName? entry = some name) : entry.textAt? "name" = some name :=
  (Option.filter_eq_some_iff.1 h).1

/-! ### What is left for one system -/

/-- Entries are only ever left out or put in another order. -/
theorem mem_of_mem_entriesFor {system : String} {entries : List Json} {entry : Json}
    (h : entry ∈ entriesFor system entries) : entry ∈ entries := by
  obtain ⟨ranked, hsorted, rfl⟩ := List.mem_map.1 h
  obtain ⟨found, hfound, htarget⟩ := List.mem_filterMap.1 (List.mem_mergeSort.1 hsorted)
  obtain ⟨target, -, rfl⟩ := Option.map_eq_some_iff.1 htarget
  exact hfound

theorem isMixed_narrowedSection {name sectionName : String} {selected value : Json}
    (hs : selected.isObject) (hv : isMixed value = false) :
    isMixed (narrowedSection name selected sectionName value) = false := by
  unfold narrowedSection
  split
  next => exact isMixed_array_eq_false_iff.2 fun e he => List.mem_singleton.1 he ▸ hs
  next =>
    split
    next entries =>
      rw [isMixed_array_eq_false_iff] at hv ⊢
      exact fun entry he => hv entry (mem_of_mem_entriesFor he)
    next => exact hv

/-- The systems that are left are the one that was selected. -/
theorem itemsAt?_narrowed {document selected : Json} {name : String}
    (hv : flaw? document = none) :
    (narrowed name selected document).itemsAt? "systems" = some [selected] := by
  obtain ⟨sections, entries, hd⟩ := flaw?_eq_none_iff.1 hv
  obtain ⟨value, hvalue, -⟩ := Option.bind_eq_some_iff.1 hd.itemsAt
  rw [Json.itemsAt?, get?_narrowed, hvalue]
  rfl

/-- A valid document stays valid when it is cut down to a system with a name. -/
theorem flaw?_narrowed {document selected : Json} {name : String} (hv : flaw? document = none)
    (hs : systemName? selected = some name) :
    flaw? (narrowed name selected document) = none := by
  obtain ⟨sections, entries, hd⟩ := flaw?_eq_none_iff.1 hv
  refine flaw?_eq_none_iff.2
    ⟨sections.map fun s => (s.1, narrowedSection name selected s.1 s.2), [selected], ?_,
      itemsAt?_narrowed hv, ?_, ?_, ?_⟩
  · rw [hd.isObject]
    rfl
  · exact List.cons_ne_nil _ _
  · intro entry he
    rw [List.mem_singleton.1 he, hs]
    rfl
  · intro s hmem
    obtain ⟨s, hin, rfl⟩ := List.mem_map.1 hmem
    exact isMixed_narrowedSection (isObject_of_systemName? hs) (hd.unmixed s hin)

/-- Leaving partitions out keeps the name of a system. -/
theorem systemName?_withPartition? {partition : String} {system entry : Json}
    (h : withPartition? partition system = some entry) :
    systemName? entry = systemName? system := by
  rw [withPartition?] at h
  split at h
  · cases h
  · cases h
  · cases h
    rw [systemName?, Json.textAt?, get?_replaceMember_of_ne (by decide), systemName?, Json.textAt?]

end SiteRuntime.ConfigDocument

namespace SiteRuntime.SiteConfig

open ConfigDocument

/-! ### What is picked bears the name that was asked for -/

theorem systemName?_selectedEntry {document entry : Json} {system : String}
    {partition : Option String} (hv : flaw? document = none)
    (h : selectedEntry document system partition = .ok entry) :
    systemName? entry = some system := by
  obtain ⟨sections, entries, hd⟩ := flaw?_eq_none_iff.1 hv
  -- the entry that is found, before its partitions are looked at
  have hfound : ∀ found, (systems document).find? (isNamed system) = some found →
      systemName? found = some system := by
    intro found hf
    have htext : found.textAt? "name" = some system := by
      simpa [isNamed] using List.find?_some hf
    have hmem : found ∈ entries := by
      have hin := List.mem_of_find?_eq_some hf
      rwa [systems, hd.itemsAt] at hin
    obtain ⟨name, hname⟩ := Option.isSome_iff_exists.1 (hd.named found hmem)
    rw [hname, ← textAt?_of_systemName? hname, htext]
  unfold selectedEntry at h
  split at h
  next => cases h
  next found hf =>
    cases h
    exact hfound _ hf
  next found partition hf =>
    split at h
    next entry' hp =>
      cases h
      rw [systemName?_withPartition? hp, hfound _ hf]
    next => cases h

theorem systemName?_pickNamed {document : Json} {selection : String} {picked : String × Json}
    (hv : flaw? document = none) (h : pickNamed document selection = .ok picked) :
    systemName? picked.2 = some picked.1 := by
  unfold pickNamed at h
  dsimp only at h
  cases hs : selectedEntry document (splitSelection selection).1 (splitSelection selection).2 with
  | error e => rw [hs] at h; cases h
  | ok entry =>
    rw [hs] at h
    cases h
    exact systemName?_selectedEntry hv hs

theorem systemName?_pickMatching {document : Json} {test : String → String → Option Bool}
    {host : String} {picked : String × Json} (hv : flaw? document = none)
    (h : pickMatching document test host = .ok picked) :
    systemName? picked.2 = some picked.1 := by
  rw [pickMatching] at h
  cases hm : systemMatching (test · host) (systems document) with
  | error e => rw [hm] at h; cases h
  | ok found =>
    rw [hm] at h
    cases found with
    | none => cases h
    | some name => exact systemName?_pickNamed hv h

theorem Change.systemName?_pick {document : Json} {x : Change} {picked : String × Json}
    (hv : flaw? document = none) (h : x.pick? document = some (.ok picked)) :
    systemName? picked.2 = some picked.1 := by
  match x with
  | .selectFor _ _ (some selection) => exact systemName?_pickNamed hv (Option.some.inj h)
  | .selectFor _ (.ok host) none => exact systemName?_pickMatching hv (Option.some.inj h)
  | .selectFor _ (.error cause) none => cases h
  | .selectForHost _ host => exact systemName?_pickMatching hv (Option.some.inj h)
  | .add .. => cases h
  | .remove _ => cases h

/-! ### The last selection of a run -/

/-- The last selection of a run that succeeded, if one did. -/
def lastSelection? : List Change → SiteConfig → Option Change
  | [], _ => none
  | x :: rest, c =>
    (lastSelection? rest (x.after c)).or (if x.isSelection && x.succeeds c then some x else none)

/-- A configuration narrowed to what was picked, or left as it was if nothing was. -/
def NarrowedAs (picked : Option (String × Json)) (c c' : SiteConfig) : Prop :=
  match picked with
  | none => c'.resolved = c.resolved ∧ c'.system = c.system
  | some found =>
    c'.resolved = narrowed found.1 found.2 c.document ∧ c'.system = some found.1

/-- What a selection picks, if it picks something. -/
def Change.picked? (document : Json) (x : Change) : Option (String × Json) :=
  (x.pick? document).bind Except.toOption

/-- **One change** narrows as it picks, and it picks something just if it is a selection that
succeeds. -/
theorem Change.narrowedAs_after (x : Change) (c : SiteConfig) :
    NarrowedAs (x.picked? c.document) c (x.after c) ∧
      (x.picked? c.document).isSome = (x.isSelection && x.succeeds c) := by
  rcases x.update_cases c with ⟨path, value, rfl, h⟩ | ⟨path, rfl, h⟩ | ⟨picked, hx, hp, h⟩ |
    ⟨e, hx, hp, h⟩
  · exact ⟨⟨rfl, rfl⟩, rfl⟩
  · exact ⟨⟨rfl, rfl⟩, rfl⟩
  · rw [picked?, hp, after_of_ok h, hx, succeeds, h]
    exact ⟨⟨rfl, rfl⟩, rfl⟩
  · rw [picked?, hp, after_of_error h, succeeds, h]
    exact ⟨⟨rfl, rfl⟩, (Bool.and_false _).symm⟩

/-- **A run** narrows as its last selection that succeeded picks in the document. -/
theorem narrowedAs_run (changes : List Change) (c : SiteConfig) :
    NarrowedAs ((lastSelection? changes c).bind (·.picked? c.document)) c (run changes c) ∧
      ∀ x, lastSelection? changes c = some x →
        x.isSelection ∧ (x.picked? c.document).isSome := by
  induction changes generalizing c with
  | nil => exact ⟨⟨rfl, rfl⟩, nofun⟩
  | cons x rest ih =>
    obtain ⟨hrun, hlast⟩ := ih (x.after c)
    obtain ⟨hafter, hsome⟩ := x.narrowedAs_after c
    rw [x.document_after] at hrun hlast
    rw [run_cons, lastSelection?]
    cases hl : lastSelection? rest (x.after c) with
    | some y =>
      -- a later selection narrows as if the change before it had not been
      obtain ⟨hy, hpicked⟩ := hlast y hl
      obtain ⟨found, hfound⟩ := Option.isSome_iff_exists.1 hpicked
      rw [hl, Option.bind_some, hfound, NarrowedAs, x.document_after] at hrun
      rw [Option.some_or, Option.bind_some, hfound]
      exact ⟨hrun, fun z hz => Option.some.inj hz ▸ ⟨hy, hpicked⟩⟩
    | none =>
      rw [hl, Option.bind_none, NarrowedAs] at hrun
      rw [Option.none_or, ← hsome]
      cases hp : x.picked? c.document with
      | none =>
        rw [hp, NarrowedAs] at hafter
        exact ⟨⟨hrun.1.trans hafter.1, hrun.2.trans hafter.2⟩, nofun⟩
      | some found =>
        rw [hp] at hafter hsome
        have hx : x.isSelection := (Bool.and_eq_true_iff.1 hsome.symm).1
        refine ⟨?_, fun z hz => ?_⟩
        · rw [Option.isSome_some, if_pos rfl, Option.bind_some, hp]
          exact ⟨hrun.1.trans hafter.1, hrun.2.trans hafter.2⟩
        · cases hz
          exact ⟨hx, hp ▸ rfl⟩

/-! ### Reachable configurations -/

/-- A selection that succeeds, by what it picked. -/
theorem Change.update_of_picked {x : Change} {c : SiteConfig} {found : String × Json}
    (h : x.picked? c.document = some found) : x.update c = .ok none (c.narrowTo found) := by
  obtain ⟨picked, hp, hpicked⟩ := Option.bind_eq_some_iff.1 h
  rcases x.update_cases c with ⟨path, value, rfl, -⟩ | ⟨path, rfl, -⟩ | ⟨found', -, hp', hu⟩ |
    ⟨e, -, hp', -⟩
  · cases hp
  · cases hp
  · obtain rfl := Option.some.inj (hp'.symm.trans hp)
    cases hpicked
    exact hu
  · obtain rfl := Option.some.inj (hp'.symm.trans hp)
    cases hpicked

theorem Change.systemName?_picked {document : Json} {x : Change} {found : String × Json}
    (hv : flaw? document = none) (h : x.picked? document = some found) :
    systemName? found.2 = some found.1 := by
  obtain ⟨picked, hp, hpicked⟩ := Option.bind_eq_some_iff.1 h
  cases picked with
  | ok found' =>
    cases hpicked
    exact Change.systemName?_pick hv hp
  | error e => cases hpicked

/-- **Selections leave no trace in each other.** After any run of changes on a fresh configuration:
a selection that fails leaves the configuration as it is; what is left of the document and the name
of the system are what the last selection that succeeded makes of the fresh configuration; what is
left of the document is itself valid; and if a selection has succeeded, it has one system, of the
name that was selected. -/
theorem selection_run {c : SiteConfig} (hc : Fresh c) (changes : List Change) :
    (∀ (x : Change) (e : ConfigError) (c' : SiteConfig), x.isSelection →
        x.update (run changes c) = .error e c' → c' = run changes c) ∧
      (match lastSelection? changes c with
        | none => (run changes c).resolved = c.resolved ∧ (run changes c).system = c.system
        | some x => x.isSelection ∧ ∃ c', x.update c = .ok none c' ∧
            (run changes c).resolved = c'.resolved ∧ (run changes c).system = c'.system) ∧
      flaw? (run changes c).resolved = none ∧
      (lastSelection? changes c ≠ none →
        ∃ entry name, (run changes c).resolved.itemsAt? "systems" = some [entry] ∧
          entry.textAt? "name" = some name ∧ (run changes c).system = some name) := by
  obtain ⟨hvalid, hresolved, -, -⟩ := hc.untouched
  obtain ⟨hrun, hlast⟩ := narrowedAs_run changes c
  refine ⟨fun x e c' hx h => ?_, ?_⟩
  · rcases x.update_cases (run changes c) with ⟨_, _, rfl, -⟩ | ⟨_, rfl, -⟩ | ⟨_, -, -, h'⟩ |
      ⟨_, -, -, h'⟩
    · cases hx
    · cases hx
    · cases h'.symm.trans h
    · cases h'.symm.trans h
      rfl
  · cases hl : lastSelection? changes c with
    | none =>
      rw [hl, Option.bind_none, NarrowedAs] at hrun
      refine ⟨hrun, ?_, fun h => absurd rfl h⟩
      rw [hrun.1, hresolved, hvalid]
    | some x =>
      obtain ⟨hx, hsome⟩ := hlast x hl
      obtain ⟨found, hfound⟩ := Option.isSome_iff_exists.1 hsome
      have hname := Change.systemName?_picked hvalid hfound
      rw [hl, Option.bind_some, hfound, NarrowedAs] at hrun
      refine ⟨⟨hx, _, Change.update_of_picked hfound, hrun⟩, ?_, fun _ => ⟨found.2, found.1, ?_,
        textAt?_of_systemName? hname, hrun.2⟩⟩
      · rw [hrun.1]
        exact flaw?_narrowed hvalid hname
      · rw [hrun.1]
        exact itemsAt?_narrowed hvalid

/-- A document with two systems, one of them with two partitions. -/
def twoSystems : Json :=
  let named name := Json.ofMembers [("name", .string name)]
  .ofMembers [("systems", .array
    [.ofMembers [("name", .string "alps"), ("partitions", .array [named "cpu", named "gpu"])],
      named "dom"])]

/-- Selects a partition, overrides an option, and then fails twice: one system has no partitions,
and the name of the host cannot be told. -/
def oneSuccess : List Change :=
  [.selectFor hostMatches? (.ok "login") (some "alps:gpu"),
    .add "systems/prefix" (.string "/scratch"),
    .selectFor hostMatches? (.ok "login") (some "dom:gpu"),
    .selectFor hostMatches? (.error "no name") none]

theorem selection_run_oneSuccess :
    Fresh (.unchecked twoSystems) ∧
      (run oneSuccess (.unchecked twoSystems)).system = some "alps" ∧
      (∃ e, (Change.selectFor hostMatches? (.ok "login") (some "dom:gpu")).update
          (run oneSuccess (.unchecked twoSystems)) =
        .error e (run oneSuccess (.unchecked twoSystems))) ∧
      flaw? (run oneSuccess (.unchecked twoSystems)).resolved = none ∧
      ∃ entry name, (run oneSuccess (.unchecked twoSystems)).resolved.itemsAt? "systems" =
          some [entry] ∧
        entry.textAt? "name" = some name ∧
          (run oneSuccess (.unchecked twoSystems)).system = some name := by
  have hdocument : SiteConfig.ofDocument twoSystems = .ok (.unchecked twoSystems) := rfl
  have hfails : ∃ e c', (Change.selectFor hostMatches? (.ok "login") (some "dom:gpu")).update
      (run oneSuccess (.unchecked twoSystems)) = .error e c' := ⟨_, _, rfl⟩
  obtain ⟨hkeeps, -, hvalid, hone⟩ := selection_run (.ofDocument hdocument) oneSuccess
  refine ⟨.ofDocument hdocument, by decide +kernel, ?_, hvalid, hone fun h => ?_⟩
  · obtain ⟨e, c', h⟩ := hfails
    exact ⟨e, hkeeps _ e c' rfl h ▸ h⟩
  · have hsome : (lastSelection? oneSuccess (.unchecked twoSystems)).isSome = true := by
      decide +kernel
    rw [h] at hsome
    cases hsome

end SiteRuntime.SiteConfig
