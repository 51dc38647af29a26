import SiteRuntime.Proofs.FileTree.Creation
import SiteRuntime.Text.Offset

/-!
# Room for a directory

There is room for a directory (`Room`) if its path can be followed, is not too long, and no file is
in the way. Then it is made with all its parents (`makeAll_of_room`), and if the path ends in a name
it can be emptied as well (`makeDirectory_of_room`).
-/

namespace SiteRuntime.FileTree

variable {made : Position → Prop} {t t' t'' : FileTree} {cwd : Position} {p : Path}

/-! ### Room for a directory -/

/-- There is room for a directory at the end of a path: it can be followed as far as the tree has
directories, and no file is in the way of those that are missing. -/
structure Room (t : FileTree) (cwd : Position) (p : Path) : Prop extends Followable t cwd p where
  free : ∀ q ∈ enters cwd p, t.Free q

theorem Room.congr_grown (h : Room t cwd p) (hgrown : Grown made t t') : Room t' cwd p where
  toFollowable := h.toFollowable.congr fun _ hcwd =>
    decide_eq_true (hgrown.directory (of_decide_eq_true hcwd))
  free := fun q hq => hgrown.free (h.free q hq)

/-- Where everything on the way is there, the directory is made, or it is there already. -/
theorem Room.makeOne_of_front (h : Room t cwd p) {front : List String} {last : String}
    (hnames : namesOf p = front ++ [last])
    (hfront : ∀ q ∈ entered (originOf cwd p) front, t.find? q = some .directory) :
    (∃ t', makeOne cwd p t = .ok () t' ∧ ∀ q ∈ enters cwd p, t'.find? q = some .directory) ∨
      (makeOne cwd p t = .error .fileExists t ∧ t.leadsToDirectory cwd p = true ∧
        ∀ q ∈ enters cwd p, t.find? q = some .directory) := by
  have hshort := h.short_names
  rw [hnames, List.forall_mem_append, List.forall_mem_singleton] at hshort
  have hl := h.locate_eq hnames
  rw [walk_eq_ok_iff.2 ⟨rfl, hshort.1, hfront⟩] at hl
  have hfree := h.free
  rw [enters, hnames, entered_append, List.forall_mem_append] at hfree
  rw [enters, hnames, entered_append]
  generalize front.foldl goTo (originOf cwd p) = d at hl hfree ⊢
  by_cases hdots : last = "." ∨ last = ".."
  · -- the directory is one that the path has come through
    rw [entered_cons_of_dots hdots]
    have hlast : lastOf last = .here ∨ lastOf last = .up := by
      rcases hdots with rfl | rfl
      · exact .inl rfl
      · exact .inr rfl
    refine .inr ⟨?_, ?_, List.forall_mem_append.2 ⟨hfront, List.forall_mem_nil _⟩⟩
    · rw [makeOne, hl]
      rcases hlast with hlast | hlast <;> simp [Except.map, hlast]
    · rw [leadsToDirectory, resolve, hl]
      rcases hlast with hlast | hlast <;>
        simp [Except.map, bind, Except.bind, hlast, Entry.isDirectory]
  · rw [entered_cons_of_name hdots] at hfree ⊢
    rw [lastOf_of_name hdots] at hl
    rcases hfree.2 _ List.mem_cons_self with hnone | hthere
    · refine .inl ⟨t.put (d ++ [last]) .directory, ?_, fun q hq => ?_⟩
      · rw [makeOne, hl]
        simp [Except.map, hshort.2, hnone]
      · by_cases hnew : q = d ++ [last]
        · rw [hnew, find?_put (by simp), if_pos rfl]
        · rw [find?_put_of_ne hnew]
          exact hfront q ((List.mem_append.1 hq).resolve_right fun hq =>
            hnew (List.mem_singleton.1 hq))
    · refine .inr ⟨?_, ?_, ?_⟩
      · rw [makeOne, hl]
        simp [Except.map, hshort.2, hthere]
      · rw [leadsToDirectory, resolve, hl]
        simp [Except.map, bind, Except.bind, hshort.2, hthere, Entry.isDirectory]
      · exact List.forall_mem_append.2 ⟨hfront, List.forall_mem_singleton.2 hthere⟩

/-- One directory is made, or it is there already, or one on the way to it is missing. -/
theorem Room.makeOne_cases (h : Room t cwd p) (hne : p.chars ≠ []) :
    ((∃ t', makeOne cwd p t = .ok () t' ∧ ∀ q ∈ enters cwd p, t'.find? q = some .directory) ∨
      (makeOne cwd p t = .error .fileExists t ∧ t.leadsToDirectory cwd p = true ∧
        ∀ q ∈ enters cwd p, t.find? q = some .directory)) ∨
      makeOne cwd p t = .error .notFound t ∧ ∃ front last, namesOf p = front ++ [last] ∧
        ¬∀ q ∈ entered (originOf cwd p) front, t.find? q = some .directory := by
  rcases namesOf_eq_nil_or_append p with hnames | ⟨front, last, hnames⟩
  · have hl := h.locate_eq_root hne hnames
    refine .inl (.inr ⟨by rw [makeOne, hl], by rw [leadsToDirectory, resolve, hl]; rfl, ?_⟩)
    rw [enters, hnames]
    exact List.forall_mem_nil _
  have hshort : ∀ name ∈ front, isLongName name = false := fun name hname =>
    h.short_names name (hnames ▸ List.mem_append_left [last] hname)
  have hfree := h.free
  rw [enters, hnames, entered_append, List.forall_mem_append] at hfree
  rcases walk_eq_ok_or_notFound hshort hfree.1 with hwalk | hwalk
  · exact .inl (h.makeOne_of_front hnames (walk_eq_ok_iff.1 hwalk).2.2)
  · refine .inr ⟨?_, front, last, hnames, fun hall => ?_⟩
    · rw [makeOne, h.locate_eq hnames, hwalk]
      rfl
    · cases hwalk.symm.trans (walk_eq_ok_iff.2 ⟨rfl, hshort, hall⟩)

/-- That the directory is there already is no failure. -/
theorem Room.makeIfMissing (h : Room t cwd p) {front : List String} {last : String}
    (hnames : namesOf p = front ++ [last])
    (hfront : ∀ q ∈ entered (originOf cwd p) front, t.find? q = some .directory) :
    ∃ t', makeIfMissing cwd p t = .ok () t' ∧ ∀ q ∈ enters cwd p, t'.find? q = some .directory := by
  rw [FileTree.makeIfMissing]
  rcases h.makeOne_of_front hnames hfront with ⟨t', hmade, hall⟩ | ⟨hthere, hleads, hall⟩
  · exact ⟨t', by rw [hmade], hall⟩
  · exact ⟨t, by rw [hthere]; simp [hleads], hall⟩

theorem byteLength_le_of_sublist {a b : List Char} (h : a.Sublist b) :
    Text.byteLength a ≤ Text.byteLength b := by
  induction h with
  | slnil => exact Nat.le_refl _
  | cons c h ih =>
    rw [Text.byteLength_cons]
    omega
  | cons_cons c h ih =>
    rw [Text.byteLength_cons, Text.byteLength_cons]
    omega

/-- There is room for the parent as well. -/
theorem Room.withSteps (h : Room t cwd p) {front back : List Path.Component}
    (hsteps : p.steps = front ++ back) : Room t cwd (p.withSteps front) := by
  have hsublist : (p.withSteps front).chars.Sublist p.chars :=
    Path.sublist_withSteps (hsteps ▸ List.sublist_append_left front back)
  have hstep : ∀ c ∈ front, c.IsStep := fun c hc =>
    Path.isStep_of_mem_steps (hsteps ▸ List.mem_append_left back hc)
  refine ⟨⟨fun hnul => h.plain (hsublist.subset hnul), ?_, ?_, ?_⟩, ?_⟩
  · have hlength := byteLength_le_of_sublist hsublist
    have hshort := h.short
    rw [Path.text, Text.utf8ByteSize_ofList] at hshort ⊢
    omega
  · intro name hname
    refine h.short_names name ?_
    rw [namesOf, Path.parts_withSteps hstep] at hname
    rw [namesOf]
    have hparts := p.sublist_parts
    rw [hsteps, List.map_append, ← List.append_assoc] at hparts
    exact List.map_subset _ ((List.sublist_append_left _ _).trans hparts).subset hname
  · rw [Path.isAbsolute_withSteps hstep]
    exact h.origin
  · rw [enters_withSteps hstep]
    intro q hq
    refine h.free q ?_
    rw [enters_eq, hsteps, List.map_append, entered_append]
    exact List.mem_append_left _ hq

/-- A path with steps, of which the last part is one, has that part behind what the other steps
enter. -/
theorem exists_step_of_namesOf {front : List String} {last : String}
    (hnames : namesOf p = front ++ [last]) (hlast : last ≠ ".") :
    ∃ steps step, p.steps = steps ++ [step] ∧
      ∀ at_, entered at_ (steps.map Path.Component.text) = entered at_ front := by
  have hfilter := filter_namesOf p
  rw [hnames, List.filter_append, List.filter_cons_of_pos (by simpa using hlast)] at hfilter
  obtain ⟨steps, tail, hsteps, hfront, htail⟩ := List.map_eq_append_iff.1 hfilter.symm
  obtain ⟨step, rfl, -⟩ := List.map_eq_singleton_iff.1 htail
  refine ⟨steps, step, hsteps, fun at_ => ?_⟩
  rw [hfront, entered_filter]

/-- A path that is put together from its start and some steps ends in `.` only if it has no step. -/
theorem eq_nil_of_getLast?_withSteps {front : List Path.Component} (h : ∀ c ∈ front, c.IsStep)
    (hlast : (namesOf (p.withSteps front)).getLast? = some ".") : front = [] := by
  rcases List.eq_nil_or_concat front with hnil | ⟨steps, step, hfront⟩
  · exact hnil
  · obtain rfl : front = steps ++ [step] := hfront.trans (List.concat_eq_append)
    simp only [namesOf, Path.parts_withSteps h, List.map_append, List.map_cons, List.map_nil,
      ← List.append_assoc, List.getLast?_concat] at hlast
    have hstep := h step (List.mem_append_right steps List.mem_cons_self)
    have hdot := hstep.2.2
    rw [ofList_eq_dot_iff.1 (Option.some.inj hlast)] at hdot
    cases hdot

/-- Where a path enters something before its last part, it has a parent, which is shorter, enters
just that, and has steps or does not end in `.`. A path that ends in `.` has none like that, because
its parent would not lead to where the path itself starts. -/
theorem exists_parent_of_entered {front : List String} {last : String}
    (hnames : namesOf p = front ++ [last])
    (hdot : (namesOf p).getLast? = some "." → p.steps = [])
    (hentered : entered (originOf cwd p) front ≠ []) :
    ∃ steps step, p.steps = steps ++ [step] ∧
      (p.withSteps steps).parts.length < p.parts.length ∧
      ((namesOf (p.withSteps steps)).getLast? = some "." → (p.withSteps steps).steps = []) ∧
      enters cwd (p.withSteps steps) = entered (originOf cwd p) front := by
  -- if the path ended in `.`, it would have no steps, and so it would enter nothing
  have hlast : last ≠ "." := by
    rintro rfl
    have hsteps := hdot (by rw [hnames, List.getLast?_concat])
    have henters := enters_eq cwd p
    rw [hsteps, enters, hnames, entered_append] at henters
    exact hentered (List.append_eq_nil_iff.1 henters).1
  obtain ⟨steps, step, hsteps, hfront⟩ := exists_step_of_namesOf hnames hlast
  have hstep := isStep_of_steps_eq hsteps
  refine ⟨steps, step, hsteps, ?_, fun hends => ?_, ?_⟩
  · have hlength := p.sublist_parts.length_le
    rw [hsteps] at hlength
    rw [Path.parts_withSteps hstep]
    simp only [List.length_append, List.length_map, List.length_singleton] at hlength ⊢
    omega
  · rw [Path.steps_withSteps hstep]
    exact eq_nil_of_getLast?_withSteps hstep hends
  · rw [enters_withSteps hstep, hfront]

/-- The path itself is tried, and where something on the way is missing, its parent is made
first. -/
theorem makeWithParents_of_room (h : Room t cwd p)
    (hdot : (namesOf p).getLast? = some "." → p.steps = []) {fuel : Nat}
    (hfuel : p.parts.length < fuel) :
    ∃ t', makeWithParents cwd fuel p t = .ok () t' ∧
      ∀ q ∈ enters cwd p, t'.find? q = some .directory := by
  induction fuel generalizing p t with
  | zero => exact absurd hfuel (Nat.not_lt_zero _)
  | succ fuel ih =>
    by_cases hne : p.chars = []
    · obtain ⟨chars⟩ := p
      obtain rfl : chars = [] := hne
      exact ⟨t, rfl, nofun⟩
    have hempty : p.chars.isEmpty = false := List.isEmpty_eq_false_iff.2 hne
    dsimp only [makeWithParents]
    rw [hempty, if_neg Bool.false_ne_true]
    rcases h.makeOne_cases hne with
      (⟨t', hmade, hall⟩ | ⟨hthere, hleads, hall⟩) | ⟨hmissing, front, last, hnames, hsome⟩
    · exact ⟨t', by rw [hmade], hall⟩
    · exact ⟨t, by rw [hthere]; simp [hleads], hall⟩
    · have hentered : entered (originOf cwd p) front ≠ [] := fun hnone =>
        hsome (hnone ▸ List.forall_mem_nil _)
      obtain ⟨steps, step, hsteps, hshorter, hends, hfront⟩ :=
        exists_parent_of_entered hnames hdot hentered
      obtain ⟨t₁, hmade, hall⟩ := ih (h.withSteps hsteps) hends (by omega)
      have hgrown := grown_makeWithParents cwd fuel (p.withSteps steps) t
      rw [Edit.leaves, hmade] at hgrown
      obtain ⟨t', hretried, hthere⟩ := (h.congr_grown hgrown).makeIfMissing hnames (hfront ▸ hall)
      refine ⟨t', ?_, hthere⟩
      rw [hmissing, Path.parent?_eq_some hsteps]
      simp only [bind, EStateM.bind, hmade, hretried]

/-- **Creation.** Where there is room, a directory is made, and everything that its path enters is a
directory then. -/
theorem makeAll_of_room (h : Room t cwd p)
    (hdot : (namesOf p).getLast? = some "." → p.steps = []) :
    ∃ t', makeAll cwd p t = .ok () t' ∧ ∀ q ∈ enters cwd p, t'.find? q = some .directory :=
  makeWithParents_of_room h hdot (Nat.lt_succ_self _)

/-! ### Emptying where there is room -/

theorem isEmptyBelow_clear (t : FileTree) (q : Position) : (t.clear q).isEmptyBelow q = true := by
  rw [isEmptyBelow, List.all_eq_true]
  intro e he
  exact (List.mem_filter.1 he).2

/-- What a removal leaves at a position is what was there, or nothing. -/
def Shrunk (t t' : FileTree) : Prop := ∀ q, t'.find? q = t.find? q ∨ t'.find? q = none

theorem shrunk_of_find?_eq {removed : Position → Prop} [DecidablePred removed]
    (h : ∀ q, q ≠ [] → t'.find? q = if removed q then none else t.find? q) : Shrunk t t' := by
  intro q
  by_cases hroot : q = []
  · rw [hroot, find?_root, find?_root]
    exact .inl rfl
  · rw [h q hroot]
    split
    · exact .inr rfl
    · exact .inl rfl

theorem shrunk_clear (t : FileTree) (place : Position) : Shrunk t (t.clear place) :=
  shrunk_of_find?_eq fun _ => find?_clear

theorem shrunk_erase (t : FileTree) (place : Position) : Shrunk t (t.erase place) :=
  shrunk_of_find?_eq fun _ => find?_erase

theorem Shrunk.trans (h : Shrunk t t') (h' : Shrunk t' t'') : Shrunk t t'' := by
  intro q
  rcases h' q with hq | hq
  · rw [hq]
    exact h q
  · exact .inr hq

theorem Shrunk.free (h : Shrunk t t') {q : Position} (hq : t.Free q) : t'.Free q := by
  rcases h q with hsame | hnone
  · rw [Free, hsame]
    exact hq
  · exact .inl hnone

theorem find?_clear_of_prefix {place q : Position} (h : place <+: q) (hne : q ≠ place) :
    (t.clear place).find? q = none := by
  have hroot : q ≠ [] := by
    rintro rfl
    exact hne (List.prefix_nil.1 h).symm
  rw [find?_clear hroot, if_pos ⟨List.isPrefixOf_iff_prefix.2 h, hne⟩]

theorem Room.congr_shrunk (h : Room t cwd p) (hshrunk : Shrunk t t')
    (hcwd : p.isAbsolute = false → t'.find? cwd = t.find? cwd) : Room t' cwd p where
  toFollowable := h.toFollowable.congr fun habsolute hdirectory => by
    rw [isDirectory, hcwd habsolute]
    exact hdirectory
  free := fun q hq => hshrunk.free (h.free q hq)

/-- The last part of a path is a name. -/
def EndsInName (p : Path) : Prop :=
  ∃ front name, namesOf p = front ++ [name] ∧ ¬(name = "." ∨ name = "..")

/-- A path that ends in a name leads to what stands at its place, if it can be followed. -/
theorem Room.locate_cases (h : Room t cwd p) (hname : EndsInName p) :
    t.locate cwd p = .error .notFound ∨
      ∃ d name, t.locate cwd p = .ok ⟨d, .name name⟩ ∧ isLongName name = false ∧
        d ++ [name] = placeOf cwd p ∧ t.Free (d ++ [name]) := by
  obtain ⟨front, name, hnames, hdots⟩ := hname
  have hl := h.locate_eq hnames
  have hfree := h.free
  rw [enters, hnames, entered_append, List.forall_mem_append] at hfree
  have hshort := h.short_names
  rw [hnames, List.forall_mem_append] at hshort
  rcases walk_eq_ok_or_notFound hshort.1 hfree.1 with hwalk | hwalk
  · rw [hwalk, Except.map, lastOf_of_name hdots] at hl
    refine .inr ⟨_, name, hl, hshort.2 name List.mem_cons_self, place_of_locate hl, ?_⟩
    rw [entered_cons_of_name hdots] at hfree
    exact hfree.2 _ List.mem_cons_self
  · exact .inl (by rw [hl, hwalk]; rfl)

/-- What lies below the place of a path is cleared away, and the directory there itself, if the path
still leads to it. -/
theorem removeAll_of_directory (h : Room t cwd p) (hname : EndsInName p)
    (hcwd : p.isAbsolute = false → ¬placeOf cwd p <+: cwd)
    (hresolve : t.resolve cwd p = .ok (placeOf cwd p, .directory)) :
    ∃ t', removeIfThere cwd p t = .ok () t' ∧ Shrunk t t' ∧
      ∀ q, placeOf cwd p <+: q → q ≠ placeOf cwd p → t'.find? q = none := by
  have hshrunk := shrunk_clear t (placeOf cwd p)
  have hcleared := h.congr_shrunk hshrunk fun habsolute =>
    find?_clear_of_not_prefix (hcwd habsolute)
  have hbelow : ∀ q, placeOf cwd p <+: q → q ≠ placeOf cwd p →
      (t.clear (placeOf cwd p)).find? q = none := fun q => find?_clear_of_prefix
  -- a path with `..` in it may have come through what is cleared, and then it leads nowhere now
  rcases hcleared.locate_cases hname with hl | ⟨d, name, hl, hshort, hplace, hfree⟩
  · refine ⟨t.clear (placeOf cwd p), ?_, hshrunk, hbelow⟩
    rw [removeIfThere, removeAll, hresolve]
    dsimp only
    rw [removeOne, hl]
  · rcases hfree with hnone | hthere
    · refine ⟨t.clear (placeOf cwd p), ?_, hshrunk, hbelow⟩
      rw [removeIfThere, removeAll, hresolve]
      dsimp only
      rw [removeOne, hl]
      simp [hshort, hnone]
    · refine ⟨(t.clear (placeOf cwd p)).erase (placeOf cwd p), ?_,
        hshrunk.trans (shrunk_erase _ _), fun q hq hne => ?_⟩
      · rw [removeIfThere, removeAll, hresolve]
        dsimp only
        rw [hplace] at hthere
        rw [removeOne, hl]
        simp [hshort, hthere, hplace, isEmptyBelow_clear]
      · rcases shrunk_erase (t.clear (placeOf cwd p)) (placeOf cwd p) q with hq' | hq'
        · rw [hq', hbelow q hq hne]
        · exact hq'

/-- **Removal.** Where there is room for a directory, what may be there is removed with everything
below it. -/
theorem removeIfThere_of_room (h : Room t cwd p) (hname : EndsInName p)
    (hcwd : p.isAbsolute = false → ¬placeOf cwd p <+: cwd) :
    ∃ t', removeIfThere cwd p t = .ok () t' ∧ Shrunk t t' ∧
      (t.leadsToDirectory cwd p = true →
        ∀ q, placeOf cwd p <+: q → q ≠ placeOf cwd p → t'.find? q = none) := by
  have hmissing : t.resolve cwd p = .error .notFound → ∃ t', removeIfThere cwd p t = .ok () t' ∧
      Shrunk t t' ∧ (t.leadsToDirectory cwd p = true →
        ∀ q, placeOf cwd p <+: q → q ≠ placeOf cwd p → t'.find? q = none) := by
    intro hresolve
    refine ⟨t, by rw [removeIfThere, removeAll, hresolve], fun _ => .inl rfl, ?_⟩
    rw [leadsToDirectory, hresolve]
    intro hleads
    cases hleads
  rcases h.locate_cases hname with hl | ⟨d, name, hl, hshort, hplace, hfree⟩
  · exact hmissing (by rw [resolve, hl]; rfl)
  · rcases hfree with hnone | hthere
    · refine hmissing ?_
      rw [resolve, hl]
      simp [bind, Except.bind, hshort, hnone]
    · have hresolve : t.resolve cwd p = .ok (placeOf cwd p, .directory) := by
        rw [← hplace, resolve, hl]
        simp [bind, Except.bind, hshort, hthere, Entry.isDirectory]
      obtain ⟨t', hremoved, hshrunk, hbelow⟩ := removeAll_of_directory h hname hcwd hresolve
      exact ⟨t', hremoved, hshrunk, fun _ => hbelow⟩

theorem placeOf_mem_enters (hname : EndsInName p) : placeOf cwd p ∈ enters cwd p := by
  obtain ⟨front, name, hnames, hdots⟩ := hname
  have hplace : placeOf cwd p = front.foldl goTo (originOf cwd p) ++ [name] := by
    rw [placeOf, ← originOf, hnames, List.foldl_append, List.foldl_cons, List.foldl_nil,
      goTo_of_name hdots]
  rw [hplace, enters, hnames, entered_append, entered_cons_of_name hdots]
  exact List.mem_append_right _ List.mem_cons_self

/-- **An empty directory.** Where there is room and the path ends in a name, a directory is made and
emptied. A directory stands in it afterwards only if the path enters it, or if it stood there before
and the path did not yet lead to a directory that could be emptied. -/
theorem makeDirectory_of_room (h : Room t cwd p) (hname : EndsInName p)
    (hcwd : p.isAbsolute = false → ¬placeOf cwd p <+: cwd) :
    ∃ t', makeDirectory cwd p true t = .ok () t' ∧
      (∀ q ∈ enters cwd p, t'.find? q = some .directory) ∧
      ∀ q, placeOf cwd p <+: q → q ∉ enters cwd p → t'.find? q = some .directory →
        t.find? q = some .directory ∧ t.leadsToDirectory cwd p = false := by
  obtain ⟨t₁, hremoved, hshrunk, hempty⟩ := removeIfThere_of_room h hname hcwd
  have hcwd₁ : p.isAbsolute = false → t₁.find? cwd = t.find? cwd := fun habsolute => by
    have hsame := find?_leaves_removeIfThere cwd p t (hcwd habsolute)
    rwa [Edit.leaves, hremoved] at hsame
  have hdot : (namesOf p).getLast? = some "." → p.steps = [] := by
    obtain ⟨front, name, hnames, hdots⟩ := hname
    rw [hnames, List.getLast?_concat]
    exact fun hlast => absurd (Option.some.inj hlast) (not_or.1 hdots).1
  obtain ⟨t', hmade, hall⟩ := makeAll_of_room (h.congr_shrunk hshrunk hcwd₁) hdot
  have hgrown := grown_makeAll cwd p t₁
  rw [Edit.leaves, hmade] at hgrown
  refine ⟨t', ?_, hall, fun q hbelow hnew hq => ?_⟩
  · have hseq : (removeIfThere cwd p >>= fun _ => makeAll cwd p : Edit Unit) t = .ok () t' := by
      simp only [bind, EStateM.bind, hremoved, hmade]
    exact hseq
  · -- what is not made was there before the path was made, so it has not been removed
    have hq₁ : t₁.find? q = some .directory := by
      rcases hgrown q with hsame | ⟨-, hmade, -⟩
      · exact hsame.symm.trans hq
      · exact absurd hmade hnew
    refine ⟨?_, Bool.eq_false_iff.2 fun hleads => ?_⟩
    · rcases hshrunk q with hsame | hnone
      · exact hsame.symm.trans hq₁
      · cases hnone.symm.trans hq₁
    · have hne : q ≠ placeOf cwd p := by
        rintro rfl
        exact hnew (placeOf_mem_enters hname)
      cases (hempty hleads q hbelow hne).symm.trans hq₁

end SiteRuntime.FileTree
