import SiteRuntime.FileTree.Directory

/-!
# What removing directories touches

A tree has no links, so a path that can be followed leads where its names alone say (`placeOf`,
`place_of_locate`). What an edit touches can therefore be told from its path: a removal changes
nothing but what lies at or below the place of its path (`find?_leaves_removeIfThere`). This holds
whether the removal fails or not, and of what a failure half-way leaves.
-/

namespace SiteRuntime.FileTree

/-! ### Places -/

/-- The position that a name leads to from another one. -/
def goTo (at_ : Position) (name : String) : Position :=
  if name = "." then at_ else if name = ".." then at_.dropLast else at_ ++ [name]

/-- The position that a path leads to if all its directories are there. -/
def placeOf (cwd : Position) (p : Path) : Position :=
  (namesOf p).foldl goTo (if p.isAbsolute then [] else cwd)

/-- Names that do not lead up lead to a position below. -/
theorem prefix_foldl_goTo {names : List String} (h : ".." ∉ names) (at_ : Position) :
    at_ <+: names.foldl goTo at_ := by
  induction names generalizing at_ with
  | nil => exact List.prefix_refl at_
  | cons name names ih =>
    obtain ⟨hname, hnames⟩ := List.ne_and_not_mem_of_not_mem_cons h
    have hstep : at_ <+: goTo at_ name := by
      rw [goTo, if_neg (Ne.symm hname)]
      split
      · exact List.prefix_refl at_
      · exact List.prefix_append at_ [name]
    exact hstep.trans (ih hnames _)

/-- The position that a location stands for. -/
def Location.place (l : Location) : Position :=
  match l.last with
  | .name s => l.directory ++ [s]
  | .here => l.directory
  | .up => l.directory.dropLast
  | .root => l.directory

theorem place_lastOf (d : Position) (name : String) :
    (Location.mk d (lastOf name)).place = goTo d name := by
  by_cases hhere : name = "."
  · rw [lastOf, goTo, if_pos hhere, if_pos hhere, Location.place]
  · rw [lastOf, goTo, if_neg hhere, if_neg hhere]
    by_cases hup : name = ".."
    · rw [if_pos hup, if_pos hup, Location.place]
    · rw [if_neg hup, if_neg hup, Location.place]

theorem goTo_of_enter {t : FileTree} {at_ at' : Position} {name : String}
    (h : t.enter at_ name = .ok at') : at' = goTo at_ name := by
  rw [enter] at h
  rw [goTo]
  split at h
  next hhere =>
    cases h
    rw [if_pos hhere]
  next hhere =>
    rw [if_neg hhere]
    split at h
    next hup =>
      cases h
      rw [if_pos hup]
    next hup =>
      rw [if_neg hup]
      split at h
      · cases h
      · split at h <;> cases h
        rfl

theorem foldl_goTo_of_walk {t : FileTree} {at_ at' : Position} {names : List String}
    (h : t.walk at_ names = .ok at') : at' = names.foldl goTo at_ := by
  induction names generalizing at_ with
  | nil =>
    cases h
    rfl
  | cons name names ih =>
    rw [walk, List.foldlM_cons] at h
    cases he : t.enter at_ name with
    | error e => rw [he] at h; cases h
    | ok at₁ =>
      rw [he] at h
      rw [List.foldl_cons, ← goTo_of_enter he]
      exact ih h

/-- A path that can be followed leads to its place. -/
theorem place_of_locate {t : FileTree} {cwd : Position} {p : Path} {l : Location}
    (h : t.locate cwd p = .ok l) : l.place = placeOf cwd p := by
  unfold locate at h
  -- the four refusals first
  split at h
  · cases h
  split at h
  · cases h
  split at h
  · cases h
  split at h
  · cases h
  dsimp only at h
  rw [placeOf]
  split at h
  next hnames =>
    cases h
    rw [List.getLast?_eq_none_iff.1 hnames]
    rfl
  next last hnames =>
    obtain ⟨before, hbefore⟩ := List.getLast?_eq_some_iff.1 hnames
    rw [hbefore, List.dropLast_concat] at h
    rw [hbefore, List.foldl_append]
    cases hd : t.walk (if p.isAbsolute then [] else cwd) before with
    | error e => rw [hd] at h; cases h
    | ok d =>
      rw [hd] at h
      cases h
      rw [← foldl_goTo_of_walk hd, place_lastOf]
      rfl

theorem place_of_resolve {t : FileTree} {cwd : Position} {p : Path} {found : Position × Entry}
    (h : t.resolve cwd p = .ok found) : found.1 = placeOf cwd p := by
  rw [resolve] at h
  cases hl : t.locate cwd p with
  | error e => rw [hl] at h; cases h
  | ok l =>
    rw [hl] at h
    rw [← place_of_locate hl, Location.place]
    obtain ⟨directory, last⟩ := l
    cases last with
    | root | here | up =>
      cases h
      rfl
    | name s =>
      dsimp only [bind, Except.bind] at h
      split at h
      · cases h
      split at h
      · cases h
      split at h
      · cases h
      · cases h
        rfl

/-! ### What edits leave -/

namespace Edit

variable {α β : Type}

/-- The tree that an edit leaves, whether it fails or not. -/
def leaves (edit : Edit α) (t : FileTree) : FileTree :=
  match edit t with
  | .ok _ t' => t'
  | .error _ t' => t'

/-- An edit takes no entry away from the positions that are to be kept, and changes none there. -/
def Keeps (kept : Position → Prop) (edit : Edit α) : Prop :=
  ∀ t q e, kept q → t.find? q = some e → (edit.leaves t).find? q = some e

theorem leaves_bind (edit : Edit α) (f : α → Edit β) (t : FileTree) :
    (edit >>= f : Edit β).leaves t =
      match edit t with
      | .ok a t' => (f a).leaves t'
      | .error _ t' => t' := by
  rw [leaves]
  simp only [bind, EStateM.bind]
  cases edit t <;> rfl

end Edit

/-! ### Removing directories -/

theorem leaves_removeOne (cwd : Position) (p : Path) (t : FileTree) :
    (removeOne cwd p).leaves t = t ∨ (removeOne cwd p).leaves t = t.erase (placeOf cwd p) := by
  rw [Edit.leaves, removeOne]
  cases hl : t.locate cwd p with
  | error e => exact .inl rfl
  | ok l =>
    have hplace := place_of_locate hl
    obtain ⟨directory, last⟩ := l
    cases last with
    | root | here | up => exact .inl rfl
    | name s =>
      have hname : directory ++ [s] = placeOf cwd p := hplace
      dsimp only
      rw [hname]
      cases isLongName s with
      | true => exact .inl rfl
      | false =>
        rw [if_neg Bool.false_ne_true]
        -- only a directory with nothing below it goes
        cases t.find? (placeOf cwd p) with
        | none => exact .inl rfl
        | some entry =>
          cases entry with
          | file => exact .inl rfl
          | directory =>
            cases t.isEmptyBelow (placeOf cwd p) with
            | true => exact .inr rfl
            | false => exact .inl rfl

theorem leaves_removeAll (cwd : Position) (p : Path) (t : FileTree) :
    (removeAll cwd p).leaves t = t ∨
      (removeAll cwd p).leaves t = (removeOne cwd p).leaves (t.clear (placeOf cwd p)) := by
  rw [Edit.leaves, removeAll]
  cases hr : t.resolve cwd p with
  | error e => exact .inl rfl
  | ok found =>
    obtain ⟨position, entry⟩ := found
    obtain rfl : position = placeOf cwd p := place_of_resolve hr
    cases entry with
    | file => exact .inl rfl
    | directory =>
      refine .inr ?_
      rw [Edit.leaves]
      dsimp only
      cases removeOne cwd p (t.clear (placeOf cwd p)) with
      | ok u t' => rfl
      | error e t' => cases e <;> rfl

/-- That there was nothing to remove is no failure; the tree is the same. -/
theorem leaves_removeIfThere (cwd : Position) (p : Path) (t : FileTree) :
    (removeIfThere cwd p).leaves t = (removeAll cwd p).leaves t := by
  rw [Edit.leaves, Edit.leaves, removeIfThere]
  cases removeAll cwd p t with
  | ok u t' => rfl
  | error e t' => cases e <;> rfl

theorem find?_erase_of_not_prefix {t : FileTree} {place q : Position} (h : ¬place <+: q) :
    (t.erase place).find? q = t.find? q := by
  by_cases hroot : q = []
  · rw [hroot, find?_root, find?_root]
  · rw [find?_erase hroot, if_neg]
    rintro rfl
    exact h (List.prefix_refl q)

theorem find?_clear_of_not_prefix {t : FileTree} {place q : Position} (h : ¬place <+: q) :
    (t.clear place).find? q = t.find? q := by
  by_cases hroot : q = []
  · rw [hroot, find?_root, find?_root]
  · rw [find?_clear hroot, if_neg fun hprefix => h (List.isPrefixOf_iff_prefix.1 hprefix.1)]

/-- **Removal.** Nothing changes but what lies at or below the place of the path. -/
theorem find?_leaves_removeIfThere (cwd : Position) (p : Path) (t : FileTree) {q : Position}
    (hq : ¬placeOf cwd p <+: q) : ((removeIfThere cwd p).leaves t).find? q = t.find? q := by
  rw [leaves_removeIfThere]
  rcases leaves_removeAll cwd p t with h | h
  · rw [h]
  · rcases leaves_removeOne cwd p (t.clear (placeOf cwd p)) with hone | hone
    · rw [h, hone, find?_clear_of_not_prefix hq]
    · rw [h, hone, find?_erase_of_not_prefix hq, find?_clear_of_not_prefix hq]

end SiteRuntime.FileTree
