import Mathlib.Data.List.Induction
import SiteRuntime.Proofs.Config.Changes

/-!
# What an option is after a run of changes

An option is looked up in three layers: overrides, what is left of the document, and the built-in
defaults. The first and the last are asked by the canonical form of the path, the middle one by the
path as it stands, and null counts as a value in the first and last but not in the middle.

`canonical` writes the form out as a text. Two paths have it in common just if their segments agree
without the index of the section (`canonical_eq_iff`): the text can be cut into the segments again,
so nothing is confused by it. What overrides an option after a run is read off the run alone
(`Overrides`): the latest addition under its canonical form, if nothing was added or removed under
that form since (`sticky?_run_eq_some_iff`). Selections do not enter into it.
-/

namespace SiteRuntime

/-! ### Canonical forms -/

/-- Segments are neither empty nor do they hold a slash. -/
theorem ne_nil_and_notMem_of_mem_pathSegments {path segment : String}
    (h : segment ∈ pathSegments path) : segment.toList ≠ [] ∧ '/' ∉ segment.toList := by
  obtain ⟨part, hpart, rfl⟩ := List.mem_map.1 h
  rw [String.toList_ofList]
  exact ⟨Text.ne_nil_of_mem_fields hpart, Text.notMem_of_mem_fields hpart⟩

/-- A slash between two paths puts their segments together. -/
theorem pathSegments_append_slash (p q : String) :
    pathSegments (p ++ "/" ++ q) = pathSegments p ++ pathSegments q := by
  have hchars : (p ++ "/" ++ q).toList = p.toList ++ '/' :: q.toList := by simp
  rw [pathSegments, hchars, Text.fields_append_cons, List.map_append, pathSegments, pathSegments]

namespace OptionKey

/-- A key as a text. -/
def text (key : OptionKey) : String :=
  String.ofList (['/'].intercalate (key.segments.map String.toList))

theorem mem_of_mem_dropIndex {segment : String} {segments : List String}
    (h : segment ∈ dropIndex segments) : segment ∈ segments := by
  unfold dropIndex at h
  split at h
  next s i rest =>
    split at h
    · rcases List.mem_cons.1 h with rfl | h
      · exact List.mem_cons_self
      · exact List.mem_cons_of_mem _ (List.mem_cons_of_mem _ h)
    · exact h
  next => exact h

/-- The segments of a key can be read back from its text. -/
theorem pathSegments_text_ofPath (path : String) :
    pathSegments (ofPath path).text = (ofPath path).segments := by
  have hparts : ∀ part ∈ (ofPath path).segments.map String.toList, part ≠ [] ∧ '/' ∉ part := by
    intro part hpart
    obtain ⟨segment, hsegment, rfl⟩ := List.mem_map.1 hpart
    exact ne_nil_and_notMem_of_mem_pathSegments (mem_of_mem_dropIndex hsegment)
  rw [pathSegments, text, String.toList_ofList, Text.fields_intercalate hparts, List.map_map]
  exact (List.map_congr_left fun s _ => String.ofList_toList).trans (List.map_id _)

end OptionKey

/-- The canonical form of a path. -/
def canonical (path : String) : String := (OptionKey.ofPath path).text

/-- The segments of a path that count: all but the second, where that is an index. -/
def significant (path : String) : List String :=
  if ((pathSegments path)[1]?.bind index?).isSome then (pathSegments path).eraseIdx 1
  else pathSegments path

theorem dropIndex_pathSegments (path : String) :
    OptionKey.dropIndex (pathSegments path) = significant path := by
  rw [significant]
  match pathSegments path with
  | [] => rfl
  | [s] => rfl
  | s :: i :: rest => rfl

theorem canonical_eq_iff_ofPath {p q : String} :
    canonical p = canonical q ↔ OptionKey.ofPath p = OptionKey.ofPath q := by
  constructor
  · intro h
    have hsegments := congrArg pathSegments h
    rw [canonical, canonical, OptionKey.pathSegments_text_ofPath,
      OptionKey.pathSegments_text_ofPath] at hsegments
    exact congrArg OptionKey.mk hsegments
  · intro h
    rw [canonical, canonical, h]

/-- Paths have one canonical form just if the segments that count agree. -/
theorem canonical_eq_iff {p q : String} :
    canonical p = canonical q ↔ significant p = significant q := by
  rw [canonical_eq_iff_ofPath, OptionKey.ofPath, OptionKey.ofPath, OptionKey.mk.injEq,
    dropIndex_pathSegments, dropIndex_pathSegments]

/-- The index behind the name of a section can be left out. -/
theorem canonical_section_index {s i k : String} {name index first : String} {rest : List String}
    (hs : pathSegments s = [name]) (hi : pathSegments i = [index]) (hindex : (index? index).isSome)
    (hk : pathSegments k = first :: rest) (hfirst : index? first = none) :
    canonical (s ++ "/" ++ i ++ "/" ++ k) = canonical (s ++ "/" ++ k) := by
  have hfull : pathSegments (s ++ "/" ++ i ++ "/" ++ k) = name :: index :: first :: rest := by
    rw [pathSegments_append_slash, pathSegments_append_slash, hs, hi, hk]
    rfl
  have hshort : pathSegments (s ++ "/" ++ k) = name :: first :: rest := by
    rw [pathSegments_append_slash, hs, hk]
    rfl
  rw [canonical_eq_iff_ofPath, OptionKey.ofPath, OptionKey.ofPath, hfull, hshort,
    OptionKey.dropIndex_index hindex, OptionKey.dropIndex_of_not_index hfirst]

namespace SiteConfig

/-! ### Overrides -/

/-- Whether a change adds or removes an override under the canonical form of a path. -/
def Change.Concerns (path : String) : Change → Prop
  | .add q _ => canonical q = canonical path
  | .remove q => canonical q = canonical path
  | .selectFor .. => False
  | .selectForHost .. => False

/-- A value is what the latest addition under the canonical form of a path gave, and nothing was
removed under it since. -/
def Overrides (changes : List Change) (path : String) (value : Json) : Prop :=
  ∃ before q after, changes = before ++ .add q value :: after ∧ canonical q = canonical path ∧
    ∀ x ∈ after, ¬x.Concerns path

theorem not_overrides_nil {path : String} {value : Json} : ¬Overrides [] path value := by
  rintro ⟨before, q, after, h, -⟩
  simp at h

/-- The last change decides if it concerns the option, else those before it do. -/
theorem overrides_append_singleton {changes : List Change} {x : Change} {path : String}
    {value : Json} :
    Overrides (changes ++ [x]) path value ↔
      (∃ q, x = .add q value ∧ canonical q = canonical path) ∨
        ¬x.Concerns path ∧ Overrides changes path value := by
  constructor
  · rintro ⟨before, q, after, h, hq, hafter⟩
    -- either the addition is the last change, or the last change comes after it
    rcases List.eq_nil_or_concat after with rfl | ⟨after, y, rfl⟩
    · obtain ⟨-, hx⟩ := List.append_inj' h rfl
      exact .inl ⟨q, List.singleton_inj.1 hx, hq⟩
    · have hsplit : changes ++ [x] = (before ++ .add q value :: after) ++ [y] := by simpa using h
      obtain ⟨rfl, hy⟩ := List.append_inj' hsplit rfl
      obtain rfl := List.singleton_inj.1 hy
      exact .inr ⟨hafter x (by simp), before, q, after, rfl, hq,
        fun z hz => hafter z (by simp [hz])⟩
  · rintro (⟨q, rfl, hq⟩ | ⟨hx, before, q, after, rfl, hq, hafter⟩)
    · exact ⟨changes, q, [], rfl, hq, nofun⟩
    · refine ⟨before, q, after ++ [x], by simp, hq, fun z hz => ?_⟩
      rcases List.mem_append.1 hz with hz | hz
      · exact hafter z hz
      · exact List.mem_singleton.1 hz ▸ hx

/-- A change that does not concern an option leaves its override as it is. -/
theorem sticky?_after_of_not_concerns {x : Change} {path : String} (h : ¬x.Concerns path)
    (c : SiteConfig) : (x.after c).sticky? path = c.sticky? path := by
  rcases x.update_cases c with ⟨q, v, rfl, hu⟩ | ⟨q, rfl, hu⟩ | ⟨picked, -, -, hu⟩ | ⟨e, -, -, hu⟩
  · rw [Change.after_of_ok hu, sticky?_addSticky, if_neg]
    exact fun hk => h (canonical_eq_iff_ofPath.2 hk.symm)
  · rw [Change.after_of_ok hu, sticky?_removeSticky, if_neg]
    exact fun hk => h (canonical_eq_iff_ofPath.2 hk.symm)
  · rw [Change.after_of_ok hu]
    rfl
  · rw [Change.after_of_error hu]

/-- A change that concerns an option decides its override. -/
theorem sticky?_after_of_concerns {x : Change} {path : String} (h : x.Concerns path)
    (c : SiteConfig) {value : Json} :
    (x.after c).sticky? path = some value ↔
      ∃ q, x = .add q value ∧ canonical q = canonical path := by
  cases x with
  | add q v =>
    have hk := (canonical_eq_iff_ofPath.1 h).symm
    change (c.addSticky q v).sticky? path = some value ↔ _
    rw [sticky?_addSticky, if_pos hk, Option.some_inj]
    exact ⟨fun hv => ⟨q, hv ▸ rfl, h⟩, fun ⟨_, hq, _⟩ => by cases hq; rfl⟩
  | remove q =>
    have hk := (canonical_eq_iff_ofPath.1 h).symm
    change (c.removeSticky q).sticky? path = some value ↔ _
    rw [sticky?_removeSticky, if_pos hk]
    exact ⟨nofun, fun ⟨_, hq, _⟩ => nomatch hq⟩
  | selectFor test hostName selection => exact h.elim
  | selectForHost test host => exact h.elim

/-- **Overrides after a run** are those that the run says. -/
theorem sticky?_run_eq_some_iff {c : SiteConfig} (hc : Untouched c) (changes : List Change)
    (path : String) (value : Json) :
    (run changes c).sticky? path = some value ↔ Overrides changes path value := by
  -- from the end of the run, since the latest change decides
  induction changes using List.reverseRecOn with
  | nil =>
    rw [run_nil, sticky?, hc.sticky, SortedMap.get?_empty]
    exact ⟨nofun, fun h => (not_overrides_nil h).elim⟩
  | append_singleton changes x ih =>
    rw [run_append_singleton, overrides_append_singleton]
    by_cases hx : x.Concerns path
    · rw [sticky?_after_of_concerns hx]
      exact ⟨.inl, fun h => h.resolve_right fun h => h.1 hx⟩
    · rw [sticky?_after_of_not_concerns hx, ih]
      refine ⟨fun h => .inr ⟨hx, h⟩, fun h => ?_⟩
      rcases h with ⟨q, rfl, hq⟩ | ⟨-, h⟩
      · exact (hx hq).elim
      · exact h

/-! ### The three layers -/

theorem get_of_sticky {c : SiteConfig} {path : String} {value : Json}
    (h : c.sticky? path = some value) : c.get path = .ok value := by
  simp [get, h]

theorem get_of_configured {c : SiteConfig} {path : String} {value : Json}
    (hs : c.sticky? path = none) (h : c.resolved.at? (pathSegments path) = some value)
    (hvalue : value ≠ .null) : c.get path = .ok value := by
  have hnull : value.isNull = false := by
    cases value with
    | null => exact absurd rfl hvalue
    | bool | number | string | array | object => rfl
  have hconfigured : c.configured? path = some value :=
    Option.filter_eq_some_iff.2 ⟨h, by rw [hnull]; rfl⟩
  rw [get, hs, hconfigured]
  rfl

theorem get_of_not_configured {c : SiteConfig} {path : String} (hs : c.sticky? path = none)
    (h : ∀ value, c.resolved.at? (pathSegments path) = some value → value = .null) :
    c.get path =
      match (OptionKey.ofPath path).default? with
      | some value => .ok value
      | none => .error (.optionNotFound path) := by
  have hconfigured : c.configured? path = none := by
    rw [configured?, Option.filter_eq_none_iff]
    intro value hvalue
    simp [h value hvalue, Json.isNull]
  rw [get, hs, hconfigured]
  cases (OptionKey.ofPath path).default? <;> rfl

/-- Of a configuration, an option sees its own override and what is left of the document. -/
theorem get_congr {c c' : SiteConfig} {path : String} (hs : c.sticky? path = c'.sticky? path)
    (hr : c.resolved = c'.resolved) : c.get path = c'.get path := by
  rw [get, get, hs, configured?, configured?, hr]

theorem get_after_add {c : SiteConfig} {p q : String} (h : canonical p = canonical q)
    (value : Json) : ((Change.add q value).after c).get p = .ok value :=
  get_of_sticky ((sticky?_after_of_concerns (x := .add q value) h.symm c).2 ⟨q, rfl, h.symm⟩)

/-! ### Options after a run -/

/-- **Options after a run.** An option is what the run overrides it with, null not excepted; else
what is left of the document holds under its path, unless that is null; else the default of its
canonical form; else there is none. Paths have a canonical form in common just if their segments
agree without a second one that is an index, so an override given with the index of the section is
seen without it and the other way round. Overriding an option, or taking its override away, changes
no option of another canonical form, and an override that is taken away is answered. -/
theorem get_run {c : SiteConfig} (hc : Fresh c) (changes : List Change) :
    (∀ p, (∀ value, Overrides changes p value → (run changes c).get p = .ok value) ∧
      ((∀ value, ¬Overrides changes p value) →
        (∀ value, (run changes c).resolved.at? (pathSegments p) = some value → value ≠ .null →
          (run changes c).get p = .ok value) ∧
        ((∀ value, (run changes c).resolved.at? (pathSegments p) = some value → value = .null) →
          (run changes c).get p =
            match (OptionKey.ofPath p).default? with
            | some value => .ok value
            | none => .error (.optionNotFound p)))) ∧
      (∀ p q, canonical p = canonical q ↔ significant p = significant q) ∧
      (∀ s i k name index first rest value, pathSegments s = [name] → pathSegments i = [index] →
        (index? index).isSome → pathSegments k = first :: rest → index? first = none →
        (run (changes ++ [.add (s ++ "/" ++ k) value]) c).get (s ++ "/" ++ i ++ "/" ++ k) =
            .ok value ∧
          (run (changes ++ [.add (s ++ "/" ++ i ++ "/" ++ k) value]) c).get (s ++ "/" ++ k) =
            .ok value) ∧
      (∀ p q value, canonical p ≠ canonical q →
        (run (changes ++ [.add q value]) c).get p = (run changes c).get p ∧
          (run (changes ++ [.remove q]) c).get p = (run changes c).get p) ∧
      ∀ p, ∃ answer, (Change.remove p).update (run changes c) =
          .ok answer ((run changes c).removeSticky p) ∧
        ∀ value, answer = some value ↔ Overrides changes p value := by
  have hsticky := sticky?_run_eq_some_iff hc.untouched changes
  refine ⟨fun p => ⟨fun value h => get_of_sticky ((hsticky p value).2 h), fun h => ?_⟩,
    fun _ _ => canonical_eq_iff, fun s i k name index first rest value hs hi hindex hk hfirst => ?_,
    fun p q value h => ?_, fun p => ⟨_, rfl, hsticky p⟩⟩
  · have hnone : (run changes c).sticky? p = none :=
      Option.eq_none_iff_forall_ne_some.2 fun value hv => h value ((hsticky p value).1 hv)
    exact ⟨fun _ => get_of_configured hnone, get_of_not_configured hnone⟩
  · have hsame := canonical_section_index hs hi hindex hk hfirst
    rw [run_append_singleton, run_append_singleton]
    exact ⟨get_after_add hsame value, get_after_add hsame.symm value⟩
  · have hadd : ¬(Change.add q value).Concerns p := Ne.symm h
    have hremove : ¬(Change.remove q).Concerns p := Ne.symm h
    rw [run_append_singleton, run_append_singleton]
    exact ⟨get_congr (sticky?_after_of_not_concerns hadd _) rfl,
      get_congr (sticky?_after_of_not_concerns hremove _) rfl⟩

/-- Overrides the prefix, fails to select, overrides the description with null, takes the prefix
away again and overrides it anew, each time with another spelling of the index. -/
def respelled : List Change :=
  [.add "systems/prefix" (.string "/old"),
    .selectFor hostMatches? (.ok "login") (some "absent"), .add "systems/00/descr" .null,
    .remove "/systems/0/prefix",
    .add "systems//+0/prefix" (.string "/new")]

theorem get_run_respelled :
    Fresh generic ∧
      Overrides respelled "systems/prefix" (.string "/new") ∧
      (run respelled generic).get "systems/prefix" = .ok (.string "/new") ∧
      (run respelled generic).get "systems/descr" = .ok .null ∧
      (run respelled generic).get "systems/0/name" = .ok (.string "generic") ∧
      (run respelled generic).get "systems/modules" = .ok (.array []) ∧
      (run respelled generic).get "systems/absent" = .error (.optionNotFound "systems/absent") ∧
      (run (respelled ++ [.add ("systems" ++ "/" ++ "descr") (.bool true)]) generic).get
        ("systems" ++ "/" ++ "007" ++ "/" ++ "descr") = .ok (.bool true) ∧
      (run (respelled ++ [.remove "systems/prefix"]) generic).get "systems/descr" = .ok .null := by
  obtain ⟨hget, -, hindex, hother, -⟩ := get_run .generic respelled
  have hprefix : Overrides respelled "systems/prefix" (.string "/new") :=
    ⟨respelled.take 4, "systems//+0/prefix", [], rfl, by decide +kernel, nofun⟩
  have hdescr : Overrides respelled "systems/descr" .null := by
    refine ⟨respelled.take 2, "systems/00/descr", respelled.drop 3, rfl, by decide +kernel, ?_⟩
    intro x hx
    obtain rfl | rfl : x = .remove "/systems/0/prefix" ∨
      x = .add "systems//+0/prefix" (.string "/new") := by simpa [respelled] using hx
    · have h : canonical "/systems/0/prefix" ≠ canonical "systems/descr" := by decide +kernel
      exact h
    · have h : canonical "systems//+0/prefix" ≠ canonical "systems/descr" := by decide +kernel
      exact h
  have hnone : ∀ p, (run respelled generic).sticky? p = none →
      ∀ value, ¬Overrides respelled p value := fun p hp value hv => by
    rw [← sticky?_run_eq_some_iff Fresh.generic.untouched, hp] at hv
    cases hv
  refine ⟨.generic, hprefix, (hget _).1 _ hprefix, (hget _).1 _ hdescr,
    ((hget "systems/0/name").2 (hnone _ rfl)).1 _ rfl nofun,
    ((hget "systems/modules").2 (hnone _ rfl)).2 (by intro value h; cases h),
    ((hget "systems/absent").2 (hnone _ rfl)).2 (by intro value h; cases h),
    (hindex "systems" "007" "descr" "systems" "007" "descr" [] (.bool true) rfl rfl
      (by decide +kernel) rfl (by decide +kernel)).1, ?_⟩
  rw [(hother "systems/descr" "systems/prefix" .null (by decide +kernel)).2]
  exact (hget _).1 _ hdescr

end SiteConfig

end SiteRuntime
