import SiteRuntime.Path

/-!
# Paths with the same start

The components of a path are how it starts (`Path.lead`) and the steps it takes from there
(`Path.steps`). A path that starts alike and takes other steps can be written down
(`Path.withSteps`), and it means just that (`components_withSteps`). The parent of a path is the one
that leaves the last step out (`parent?_eq_some`). It is written with no more than what stands in
the path itself (`sublist_withSteps`), so it is not longer and has no other characters.
-/

namespace SiteRuntime

namespace Path

/-- How a path starts, if that is written down in a component of its own. -/
def lead (p : Path) : List Component :=
  if p.isAbsolute then [.root] else if p.parts.head? = some ['.'] then [.here] else []

/-- The components of a path behind its start. -/
def steps (p : Path) : List Component := p.parts.filterMap componentOf?

/-- The path that starts as another one and takes some steps from there. -/
def withSteps (p : Path) (steps : List Component) : Path := ofComponents (p.lead ++ steps)

theorem components_eq (p : Path) : p.components = p.lead ++ p.steps := by
  rw [components, lead]
  split
  · rfl
  · split <;> rfl

/-- The three ways in which a path starts. -/
theorem lead_cases (p : Path) :
    (p.isAbsolute = true ∧ p.lead = [.root]) ∨
      (p.isAbsolute = false ∧ p.lead = [.here] ∧ ∃ rest, p.parts = ['.'] :: rest) ∨
      p.isAbsolute = false ∧ p.lead = [] ∧ p.parts.head? ≠ some ['.'] := by
  rw [lead]
  cases p.isAbsolute with
  | true => exact .inl ⟨rfl, rfl⟩
  | false =>
    rw [if_neg Bool.false_ne_true]
    split
    next hhere => exact .inr (.inl ⟨rfl, rfl, List.head?_eq_some_iff.1 hhere⟩)
    next hhere => exact .inr (.inr ⟨rfl, rfl, hhere⟩)

/-! ### Steps -/

/-- A component that can stand anywhere behind the start of a path. -/
def Component.IsStep (c : Component) : Prop :=
  c.chars ≠ [] ∧ separator ∉ c.chars ∧ componentOf? c.chars = some c

theorem chars_of_componentOf? {part : List Char} {c : Component} (h : componentOf? part = some c) :
    c.chars = part := by
  rw [componentOf?] at h
  split at h
  · cases h
  · split at h <;> cases h
    next hup => exact hup.symm
    next => rfl

theorem isStep_of_mem_steps {p : Path} {c : Component} (h : c ∈ p.steps) : c.IsStep := by
  obtain ⟨part, hpart, hc⟩ := List.mem_filterMap.1 h
  obtain rfl := chars_of_componentOf? hc
  exact ⟨Text.ne_nil_of_mem_fields hpart, Text.notMem_of_mem_fields hpart, hc⟩

theorem componentOf?_of_ne_here {part : List Char} (h : part ≠ ['.']) :
    ∃ c, componentOf? part = some c := by
  rw [componentOf?, if_neg h]
  split <;> exact ⟨_, rfl⟩

/-- The steps are written as the parts other than `.`. -/
theorem map_chars_filterMap (parts : List (List Char)) :
    (parts.filterMap componentOf?).map Component.chars = parts.filter (· ≠ ['.']) := by
  induction parts with
  | nil => rfl
  | cons part parts ih =>
    by_cases hhere : part = ['.']
    · have hnone : componentOf? part = none := if_pos hhere
      rw [List.filterMap_cons_none hnone, ih, List.filter_cons_of_neg (by simp [hhere])]
    · obtain ⟨c, hc⟩ := componentOf?_of_ne_here hhere
      rw [List.filterMap_cons_some hc, List.map_cons, ih, chars_of_componentOf? hc,
        List.filter_cons_of_pos (by simp [hhere])]

theorem filterMap_map_chars {front : List Component} (h : ∀ c ∈ front, c.IsStep) :
    (front.map Component.chars).filterMap componentOf? = front := by
  induction front with
  | nil => rfl
  | cons c front ih =>
    obtain ⟨hc, hfront⟩ := List.forall_mem_cons.1 h
    rw [List.map_cons, List.filterMap_cons_some hc.2.2, ih hfront]

theorem root_notMem_of_isStep {front : List Component} (h : ∀ c ∈ front, c.IsStep) :
    .root ∉ front := fun hroot => (h _ hroot).1 rfl

/-! ### What a path with given components is written as -/

theorem chars_ofComponents {cs : List Component} (h : .root ∉ cs) :
    (ofComponents cs).chars = [separator].intercalate (cs.map Component.chars) := by
  induction cs with
  | nil => rfl
  | cons c cs ih =>
    obtain ⟨hc, hcs⟩ := List.ne_and_not_mem_of_not_mem_cons h
    cases cs with
    | nil => cases c <;> first | exact absurd rfl hc | simp [ofComponents]
    | cons d cs =>
      rw [List.map_cons, List.map_cons, List.intercalate_cons_cons, ← List.map_cons, ← ih hcs]
      cases c <;> simp [ofComponents]

theorem chars_ofComponents_root {cs : List Component} (h : .root ∉ cs) :
    (ofComponents (.root :: cs)).chars =
      separator :: [separator].intercalate (cs.map Component.chars) := by
  cases cs with
  | nil => rfl
  | cons c cs =>
    rw [← chars_ofComponents h]
    rfl

theorem chars_ofComponents_here {cs : List Component} (h : .root ∉ cs) :
    (ofComponents (.here :: cs)).chars =
      [separator].intercalate (['.'] :: cs.map Component.chars) := by
  have hroot : .root ∉ Component.here :: cs :=
    List.not_mem_cons_of_ne_of_not_mem (by decide) h
  exact chars_ofComponents hroot

variable {p : Path} {front : List Component}

theorem isAbsolute_withSteps (h : ∀ c ∈ front, c.IsStep) :
    (p.withSteps front).isAbsolute = p.isAbsolute := by
  have hroot := root_notMem_of_isStep h
  rcases lead_cases p with ⟨habsolute, hlead⟩ | ⟨habsolute, hlead, -⟩ | ⟨habsolute, hlead, -⟩
  · rw [withSteps, hlead, habsolute, isAbsolute, List.singleton_append,
      chars_ofComponents_root hroot]
    rfl
  · rw [withSteps, hlead, habsolute, isAbsolute, List.singleton_append,
      chars_ofComponents_here hroot]
    cases front <;> rfl
  · rw [withSteps, hlead, habsolute, isAbsolute, List.nil_append, chars_ofComponents hroot]
    cases front with
    | nil => rfl
    | cons c front =>
      -- the first step begins with a character that is no separator
      obtain ⟨hne, hsep, -⟩ := h c List.mem_cons_self
      obtain ⟨first, rest, hchars⟩ := List.exists_cons_of_ne_nil hne
      have hfirst : first ≠ separator := by
        rintro rfl
        exact hsep (hchars ▸ List.mem_cons_self)
      cases front <;> simp [hchars, hfirst, List.intercalate_cons_cons]

/-- How a path starts, as it is written among its parts. -/
def leadParts (p : Path) : List (List Char) :=
  if p.lead = [.here] then [['.']] else []

theorem parts_withSteps (h : ∀ c ∈ front, c.IsStep) :
    (p.withSteps front).parts = p.leadParts ++ front.map Component.chars := by
  have hroot := root_notMem_of_isStep h
  have hparts : ∀ part ∈ front.map Component.chars, part ≠ [] ∧ separator ∉ part := by
    intro part hpart
    obtain ⟨c, hc, rfl⟩ := List.mem_map.1 hpart
    exact ⟨(h c hc).1, (h c hc).2.1⟩
  rcases lead_cases p with ⟨-, hlead⟩ | ⟨-, hlead, -⟩ | ⟨-, hlead, -⟩
  · rw [leadParts, withSteps, hlead, if_neg (by decide), parts, List.singleton_append,
      chars_ofComponents_root hroot, ← List.nil_append (separator :: _), Text.fields_append_cons,
      Text.fields_intercalate hparts]
    rfl
  · rw [leadParts, withSteps, hlead, if_pos rfl, parts, List.singleton_append,
      chars_ofComponents_here hroot]
    exact Text.fields_intercalate (List.forall_mem_cons.2 ⟨by decide, hparts⟩)
  · rw [leadParts, withSteps, hlead, if_neg (by decide), parts, List.nil_append,
      chars_ofComponents hroot, Text.fields_intercalate hparts, List.nil_append]

theorem steps_withSteps (h : ∀ c ∈ front, c.IsStep) : (p.withSteps front).steps = front := by
  rw [steps, parts_withSteps h, List.filterMap_append, filterMap_map_chars h, leadParts]
  split <;> rfl

/-- A path that is put together from components has them. -/
theorem components_withSteps (h : ∀ c ∈ front, c.IsStep) :
    (p.withSteps front).components = p.lead ++ front := by
  have hlead : (p.withSteps front).lead = p.lead := by
    rw [lead, isAbsolute_withSteps h, parts_withSteps h, leadParts]
    rcases lead_cases p with ⟨habsolute, hlead⟩ | ⟨habsolute, hlead, -⟩ | ⟨habsolute, hlead, -⟩
    · rw [habsolute, if_pos rfl, hlead]
    · rw [habsolute, hlead, if_neg Bool.false_ne_true]
      rfl
    · rw [habsolute, hlead, if_neg Bool.false_ne_true]
      refine if_neg fun hhead => ?_
      -- no step is written as a dot
      cases front with
      | nil => cases hhead
      | cons c front =>
        have hstep := (h c List.mem_cons_self).2.2
        have hdot : c.chars = ['.'] := Option.some.inj hhead
        rw [hdot] at hstep
        cases hstep
  rw [components_eq, hlead, steps_withSteps h]

/-! ### The parent -/

/-- The parent of a path leaves its last step out. -/
theorem parent?_eq_some {step : Component} (h : p.steps = front ++ [step]) :
    p.parent? = some (p.withSteps front) := by
  have hstep : step ≠ .root := by
    rintro rfl
    exact (isStep_of_mem_steps (h ▸ List.mem_append_right front List.mem_cons_self)).1 rfl
  rw [parent?, components_eq, h, ← List.append_assoc, List.reverse_concat]
  cases step with
  | root => exact absurd rfl hstep
  | here | up | name => simp [withSteps]

/-- What stands between fewer separators is part of the text. -/
theorem sublist_intercalate {sep : List Char} {a b : List (List Char)} (h : a.Sublist b) :
    (sep.intercalate a).Sublist (sep.intercalate b) := by
  induction h with
  | slnil => exact List.Sublist.refl _
  | @cons a b part h ih =>
    -- a separator stands behind the part that is left out, unless it is the last one
    cases b with
    | nil => simp [List.sublist_nil.1 h]
    | cons next b =>
      rw [List.intercalate_cons_cons]
      exact ih.trans (List.sublist_append_right _ _)
  | @cons_cons a b part h ih =>
    cases b with
    | nil =>
      obtain rfl := List.sublist_nil.1 h
      exact List.Sublist.refl _
    | cons next b =>
      rw [List.intercalate_cons_cons]
      cases a with
      | nil =>
        rw [List.intercalate_singleton, List.append_assoc]
        exact List.sublist_append_left _ _
      | cons first a =>
        rw [List.intercalate_cons_cons]
        exact (List.Sublist.refl _).append ih

/-- The start and the steps of a path stand among its parts. -/
theorem sublist_parts (p : Path) :
    (p.leadParts ++ p.steps.map Component.chars).Sublist p.parts := by
  rw [steps, map_chars_filterMap, leadParts]
  rcases lead_cases p with ⟨-, hlead⟩ | ⟨-, hlead, rest, hparts⟩ | ⟨-, hlead, -⟩
  · rw [hlead, if_neg nofun]
    exact List.filter_sublist
  · rw [hlead, if_pos rfl, hparts, List.filter_cons_of_neg (by simp)]
    exact List.filter_sublist.cons_cons ['.']
  · rw [hlead, if_neg nofun]
    exact List.filter_sublist

/-- With some of its steps left out, a path is written with less of the same text. -/
theorem sublist_withSteps (h : front.Sublist p.steps) :
    (p.withSteps front).chars.Sublist p.chars := by
  have hroot := root_notMem_of_isStep fun c hc => isStep_of_mem_steps (h.subset hc)
  have hparts : (p.leadParts ++ front.map Component.chars).Sublist p.parts :=
    ((List.Sublist.refl _).append (h.map _)).trans p.sublist_parts
  have hsplit := Text.intercalate_splitOn separator p.chars
  rcases lead_cases p with ⟨habsolute, hlead⟩ | ⟨-, hlead, -⟩ | ⟨-, hlead, -⟩
  · -- the parts are those of what stands behind the separator at the start
    obtain ⟨chars⟩ := p
    obtain ⟨rest, rfl⟩ := List.head?_eq_some_iff.1 (of_decide_eq_true habsolute)
    have hrest : parts ⟨separator :: rest⟩ = Text.fields separator rest :=
      Text.fields_append_cons separator [] rest
    rw [leadParts, hlead, if_neg nofun, List.nil_append, hrest] at hparts
    rw [withSteps, hlead, List.singleton_append, chars_ofComponents_root hroot]
    refine List.Sublist.cons_cons separator ?_
    rw [← Text.intercalate_splitOn separator rest]
    exact sublist_intercalate (hparts.trans List.filter_sublist)
  · rw [leadParts, hlead, if_pos rfl] at hparts
    rw [withSteps, hlead, List.singleton_append, chars_ofComponents_here hroot, ← hsplit]
    exact sublist_intercalate (hparts.trans List.filter_sublist)
  · rw [leadParts, hlead, if_neg nofun, List.nil_append] at hparts
    rw [withSteps, hlead, List.nil_append, chars_ofComponents hroot, ← hsplit]
    exact sublist_intercalate (hparts.trans List.filter_sublist)

end Path

end SiteRuntime
