import SiteRuntime.Proofs.FileTree.Entered

/-!
# Directories that are made

Making a directory makes at most the positions that its path enters, and changes nothing else
(`grown_makeAll`). One that is to be empty takes with it only what lies at or below its place
(`find?_leaves_makeDirectory`), so what stands elsewhere is kept (`keeps_makeDirectory`). All this
holds whether it fails or not.
-/

namespace SiteRuntime.FileTree

/-! ### What is made on the way -/

/-- The tree has become another one by directories that are new at some positions. -/
def Grown (made : Position → Prop) (t t' : FileTree) : Prop :=
  ∀ q, t'.find? q = t.find? q ∨ t.find? q = none ∧ made q ∧ t'.find? q = some .directory

variable {made : Position → Prop} {t t' t'' : FileTree} {cwd : Position} {p : Path}

theorem Grown.refl (made : Position → Prop) (t : FileTree) : Grown made t t := fun _ => .inl rfl

theorem Grown.trans (h : Grown made t t') (h' : Grown made t' t'') : Grown made t t'' := by
  intro q
  rcases h q with hq | ⟨hnone, hmade, hq⟩
  · rw [← hq]
    exact h' q
  · rcases h' q with hq' | ⟨hnone', -, -⟩
    · exact .inr ⟨hnone, hmade, hq'.trans hq⟩
    · rw [hq] at hnone'
      cases hnone'

theorem Grown.mono {made' : Position → Prop} (h : Grown made t t') (hmade : ∀ q, made q → made' q) :
    Grown made' t t' :=
  fun q => (h q).imp_right fun hq => ⟨hq.1, hmade q hq.2.1, hq.2.2⟩

/-- A directory stays one. -/
theorem Grown.directory (h : Grown made t t') {q : Position} (hq : t.find? q = some .directory) :
    t'.find? q = some .directory := by
  rcases h q with hsame | ⟨-, -, hnew⟩
  · exact hsame.trans hq
  · exact hnew

theorem Grown.free (h : Grown made t t') {q : Position} (hq : t.Free q) : t'.Free q := by
  rcases h q with hsame | ⟨-, -, hnew⟩
  · rw [Free, hsame]
    exact hq
  · exact .inr hnew

/-- What every part of an edit makes, the edit makes. -/
theorem Grown.bind {α β : Type} {edit : Edit α} {f : α → Edit β}
    (hedit : ∀ t, Grown made t (edit.leaves t)) (hf : ∀ a t, Grown made t ((f a).leaves t))
    (t : FileTree) : Grown made t ((edit >>= f : Edit β).leaves t) := by
  have hfirst := hedit t
  rw [Edit.leaves] at hfirst
  rw [Edit.leaves_bind]
  cases h : edit t with
  | ok a t' =>
    rw [h] at hfirst
    exact hfirst.trans (hf a t')
  | error e t' =>
    rw [h] at hfirst
    exact hfirst

/-- What is tried is to make the position with a name in the directory that the path leads to. -/
theorem grown_makeOne (cwd : Position) (p : Path) (t : FileTree) :
    Grown (· ∈ enters cwd p) t ((makeOne cwd p).leaves t) := by
  rw [Edit.leaves, makeOne]
  cases hl : t.locate cwd p with
  | error e => exact Grown.refl _ t
  | ok l =>
    obtain ⟨d, last⟩ := l
    cases last with
    | root | here | up => exact Grown.refl _ t
    | name s =>
      dsimp only
      cases isLongName s with
      | true => exact Grown.refl _ t
      | false =>
        rw [if_neg Bool.false_ne_true]
        -- a directory is put only where nothing stands
        cases hfind : t.find? (d ++ [s]) with
        | some entry => exact Grown.refl _ t
        | none =>
          intro q
          by_cases hq : q = d ++ [s]
          · rw [hq]
            refine .inr ⟨hfind, mem_enters_of_locate hl, ?_⟩
            dsimp only
            rw [find?_put (by simp), if_pos rfl]
          · exact .inl (find?_put_of_ne hq .directory)

theorem leaves_makeIfMissing (cwd : Position) (p : Path) (t : FileTree) :
    (makeIfMissing cwd p).leaves t = (makeOne cwd p).leaves t := by
  rw [Edit.leaves, Edit.leaves, makeIfMissing]
  cases makeOne cwd p t with
  | ok u t' => rfl
  | error e t' => cases h : t'.leadsToDirectory cwd p <;> simp [h]

theorem grown_makeIfMissing (cwd : Position) (p : Path) (t : FileTree) :
    Grown (· ∈ enters cwd p) t ((makeIfMissing cwd p).leaves t) := by
  rw [leaves_makeIfMissing]
  exact grown_makeOne cwd p t

/-- A path with steps has the parent without the last one; another path has at most the empty one
for a parent. -/
theorem parent?_cases {parent : Path} (h : p.parent? = some parent) :
    (∃ front step, p.steps = front ++ [step] ∧ parent = p.withSteps front) ∨ parent = ⟨[]⟩ := by
  rcases List.eq_nil_or_concat p.steps with hsteps | ⟨front, step, hsteps⟩
  · right
    rw [Path.parent?, Path.components_eq, hsteps, List.append_nil] at h
    rcases Path.lead_cases p with ⟨-, hlead⟩ | ⟨-, hlead, -⟩ | ⟨-, hlead, -⟩
    · rw [hlead] at h
      cases h
    · rw [hlead] at h
      exact (Option.some.inj h).symm
    · rw [hlead] at h
      cases h
  · left
    rw [List.concat_eq_append] at hsteps
    rw [Path.parent?_eq_some hsteps] at h
    exact ⟨front, step, hsteps, (Option.some.inj h).symm⟩

theorem isStep_of_steps_eq {front : List Path.Component} {step : Path.Component}
    (h : p.steps = front ++ [step]) : ∀ c ∈ front, c.IsStep := fun _ hc =>
  Path.isStep_of_mem_steps (h ▸ List.mem_append_left [step] hc)

theorem enters_withSteps {front : List Path.Component} (h : ∀ c ∈ front, c.IsStep) :
    enters cwd (p.withSteps front) =
      entered (originOf cwd p) (front.map Path.Component.text) := by
  rw [enters_eq, Path.steps_withSteps h, originOf, Path.isAbsolute_withSteps h, originOf]

theorem mem_enters_of_mem_enters_parent {parent : Path} (h : p.parent? = some parent)
    {q : Position} (hq : q ∈ enters cwd parent) : q ∈ enters cwd p := by
  rcases parent?_cases h with ⟨front, step, hsteps, rfl⟩ | rfl
  · rw [enters_withSteps (isStep_of_steps_eq hsteps)] at hq
    rw [enters_eq, hsteps, List.map_append, entered_append]
    exact List.mem_append_left _ hq
  · cases hq

/-- The path itself is tried, and if need be its parent is made and the path tried again. -/
theorem leaves_makeWithParents_succ (cwd : Position) (fuel : Nat) (p : Path) (t : FileTree) :
    (makeWithParents cwd (fuel + 1) p).leaves t = t ∨
      (makeWithParents cwd (fuel + 1) p).leaves t = (makeOne cwd p).leaves t ∨
      ∃ parent, p.parent? = some parent ∧ (makeWithParents cwd (fuel + 1) p).leaves t =
        (makeWithParents cwd fuel parent >>= fun _ => makeIfMissing cwd p : Edit Unit).leaves
          ((makeOne cwd p).leaves t) := by
  dsimp only [Edit.leaves, makeWithParents]
  cases p.chars.isEmpty with
  | true => exact .inl rfl
  | false =>
    refine .inr ?_
    cases makeOne cwd p t with
    | ok u t' => exact .inl rfl
    | error e t' =>
      cases e with
      | notFound =>
        -- a missing parent is the one failure that is not final
        cases p.parent? with
        | none => exact .inl rfl
        | some parent => exact .inr ⟨parent, rfl, rfl⟩
      | _ => cases h : t'.leadsToDirectory cwd p <;> exact .inl (by simp [h])

theorem grown_makeWithParents (cwd : Position) (fuel : Nat) (p : Path) (t : FileTree) :
    Grown (· ∈ enters cwd p) t ((makeWithParents cwd fuel p).leaves t) := by
  -- by the fuel, since the parents are made by a call of the same function on another path
  induction fuel generalizing p t with
  | zero => exact grown_makeIfMissing cwd p t
  | succ fuel ih =>
    have hone := grown_makeOne cwd p t
    rcases leaves_makeWithParents_succ cwd fuel p t with h | h | ⟨parent, hparent, h⟩
    · rw [h]
      exact Grown.refl _ t
    · rw [h]
      exact hone
    · rw [h]
      have hparents : ∀ t,
          Grown (· ∈ enters cwd p) t ((makeWithParents cwd fuel parent).leaves t) :=
        fun t => (ih parent t).mono fun q hq => mem_enters_of_mem_enters_parent hparent hq
      exact hone.trans (Grown.bind hparents (fun _ => grown_makeIfMissing cwd p) _)

/-- **Creation.** Nothing is made but what the path enters. -/
theorem grown_makeAll (cwd : Position) (p : Path) (t : FileTree) :
    Grown (· ∈ enters cwd p) t ((makeAll cwd p).leaves t) :=
  grown_makeWithParents cwd (p.parts.length + 1) p t

/-! ### What stands elsewhere -/

/-- Outside of its place, making a directory makes what its path enters and changes nothing else,
also if it fails. -/
theorem find?_leaves_makeDirectory (cwd : Position) (p : Path) (wipe : Bool) (t : FileTree)
    {q : Position} (hq : ¬placeOf cwd p <+: q) :
    ((makeDirectory cwd p wipe).leaves t).find? q = t.find? q ∨
      t.find? q = none ∧ q ∈ enters cwd p ∧
        ((makeDirectory cwd p wipe).leaves t).find? q = some .directory := by
  cases wipe with
  | false => exact grown_makeAll cwd p t q
  | true =>
    have hremoved := find?_leaves_removeIfThere cwd p t hq
    have hbind : (makeDirectory cwd p true).leaves t =
        (removeIfThere cwd p >>= fun _ => makeAll cwd p : Edit Unit).leaves t := rfl
    rw [hbind, Edit.leaves_bind]
    rw [Edit.leaves] at hremoved
    -- nothing is made if the removal fails, but the removal may have been done in part
    cases h : removeIfThere cwd p t with
    | ok u t' =>
      rw [h] at hremoved
      dsimp only at hremoved ⊢
      rw [← hremoved]
      exact grown_makeAll cwd p t' q
    | error e t' =>
      rw [h] at hremoved
      exact .inl hremoved

/-- No failure and no emptying of a directory takes away what stands elsewhere. -/
theorem keeps_makeDirectory (cwd : Position) (p : Path) (wipe : Bool) :
    (makeDirectory cwd p wipe).Keeps fun q => ¬placeOf cwd p <+: q := by
  intro t q e hq he
  rcases find?_leaves_makeDirectory cwd p wipe t hq with hsame | ⟨hnone, -⟩
  · rw [hsame, he]
  · cases hnone.symm.trans he

end SiteRuntime.FileTree
