import SiteRuntime.Proofs.FileTree.Entered
import SiteRuntime.Proofs.Runtime.WorkDirectory

/-!
# Plain names joined to a path

A segment is a plain name (`Path.Plain`) if it is one step down. What is made of such segments and
joined to a path has the components of the path and then the names, one by one
(`components_join_ofSegments`).
-/

namespace SiteRuntime.Path

/-- A segment that is one step down by a name. -/
def Plain (s : String) : Prop := s ≠ "" ∧ separator ∉ s.toList ∧ s ≠ "." ∧ s ≠ ".."

instance : DecidablePred Plain := fun s =>
  inferInstanceAs (Decidable (s ≠ "" ∧ separator ∉ s.toList ∧ s ≠ "." ∧ s ≠ ".."))

/-- The steps that go down by names. -/
def stepsOf (names : List String) : List Component := names.map fun s => .name s.toList

theorem stepsOf_injective {a b : List String} (h : stepsOf a = stepsOf b) : a = b := by
  refine (List.map_inj_right fun s t hst => ?_).1 h
  exact String.toList_inj.1 (Component.name.inj hst)

theorem stepsOf_append (a b : List String) : stepsOf (a ++ b) = stepsOf a ++ stepsOf b :=
  List.map_append

theorem text_stepsOf (names : List String) : (stepsOf names).map Component.text = names := by
  rw [stepsOf, List.map_map]
  have hid : (Component.text ∘ fun s : String => Component.name s.toList) = id := by
    funext s
    exact String.ofList_toList
  rw [hid, List.map_id]

theorem toList_ne_of_ne {s t : String} (h : s ≠ t) : s.toList ≠ t.toList :=
  fun hst => h (String.toList_inj.1 hst)

theorem Plain.componentOf? {s : String} (h : Plain s) :
    Path.componentOf? s.toList = some (.name s.toList) := by
  have hhere : s.toList ≠ ['.'] := toList_ne_of_ne h.2.2.1
  have hup : s.toList ≠ ['.', '.'] := toList_ne_of_ne h.2.2.2
  rw [Path.componentOf?, if_neg hhere, if_neg hup]

theorem Plain.parts {s : String} (h : Plain s) : (ofText s).parts = [s.toList] := by
  have hfield : Text.fields separator ([separator].intercalate [s.toList]) = [s.toList] :=
    Text.fields_intercalate (List.forall_mem_singleton.2 ⟨toList_ne_of_ne h.1, h.2.1⟩)
  rwa [List.intercalate_singleton] at hfield

theorem Plain.isAbsolute {s : String} (h : Plain s) : (ofText s).isAbsolute = false := by
  refine decide_eq_false fun hhead => h.2.1 ?_
  obtain ⟨rest, hrest⟩ := List.head?_eq_some_iff.1 hhead
  have hchars : s.toList = separator :: rest := hrest
  exact hchars ▸ List.mem_cons_self

variable {names : List String}

theorem forall_mem_concat_plain {s : String} (hnames : ∀ s ∈ names, Plain s) (hs : Plain s) :
    ∀ t ∈ names ++ [s], Plain t :=
  List.forall_mem_append.2 ⟨hnames, List.forall_mem_singleton.2 hs⟩

theorem isAbsolute_ofSegments (h : ∀ s ∈ names, Plain s) : (ofSegments names).isAbsolute = false :=
  isAbsolute_ofSegments_eq_false_iff.2 fun s hs => (h s hs).isAbsolute

theorem parts_ofSegments (h : ∀ s ∈ names, Plain s) :
    (ofSegments names).parts = names.map String.toList := by
  rw [ofSegments, parts_foldl_joinText fun s hs => (h s hs).isAbsolute, parts_nil, List.nil_append]
  induction names with
  | nil => rfl
  | cons s names ih =>
    obtain ⟨hs, hnames⟩ := List.forall_mem_cons.1 h
    rw [List.flatMap_cons, hs.parts, ih hnames, List.singleton_append, List.map_cons]

theorem filterMap_toList (h : ∀ s ∈ names, Plain s) :
    (names.map String.toList).filterMap Path.componentOf? = stepsOf names := by
  induction names with
  | nil => rfl
  | cons s names ih =>
    obtain ⟨hs, hnames⟩ := List.forall_mem_cons.1 h
    rw [List.map_cons, List.filterMap_cons_some hs.componentOf?, ih hnames, stepsOf, stepsOf,
      List.map_cons]

/-- Plain names that are joined to a path are steps behind its own. -/
theorem steps_join_ofSegments (h : ∀ s ∈ names, Plain s) (p : Path) :
    (p.join (ofSegments names)).steps = p.steps ++ stepsOf names := by
  rw [steps, parts_join p (isAbsolute_ofSegments h), List.filterMap_append, parts_ofSegments h,
    filterMap_toList h, steps]

theorem lead_join_ofSegments (h : ∀ s ∈ names, Plain s) (p : Path) :
    (p.join (ofSegments names)).lead = p.lead := by
  rw [lead, lead, isAbsolute_join, isAbsolute_ofSegments h, Bool.or_false,
    parts_join p (isAbsolute_ofSegments h), parts_ofSegments h]
  cases hparts : p.parts with
  | cons part rest => rfl
  | nil =>
    cases names with
    | nil => rfl
    | cons s names =>
      -- the first name is no dot either
      have hs : s.toList ≠ ['.'] := toList_ne_of_ne (h s List.mem_cons_self).2.2.1
      simp [hs]

theorem components_join_ofSegments (h : ∀ s ∈ names, Plain s) (p : Path) :
    (p.join (ofSegments names)).components = p.components ++ stepsOf names := by
  rw [components_eq, lead_join_ofSegments h, steps_join_ofSegments h, components_eq,
    List.append_assoc]

end SiteRuntime.Path
