/-!
# Finite maps kept in key order

Process variables, sticky options and directory entries are all finite maps that are listed in the
order of their keys. `SortedMap κ ν` is the list of its entries together with the proof that the
keys increase strictly, so a map has exactly one representation: two maps with the same look-ups
are equal (`SortedMap.ext_get?`). That is what lets "the environment is exactly as before" be said
with `=`.

Insertion is a single pass that replaces on collision, so the look-up laws `get?_insert` and
`get?_erase` need no side condition.
-/

namespace SiteRuntime

/-- A finite map from `κ` to `ν`, listed with strictly increasing keys. -/
structure SortedMap (κ ν : Type) [Ord κ] where
  /-- The entries in key order. -/
  entries : List (κ × ν)
  /-- Each key is below every later one. -/
  increasing : entries.Pairwise fun a b => compare a.1 b.1 = .lt

namespace SortedMap

/-! ### The entry list -/

section Entries

variable {κ ν : Type} [Ord κ]

/-- Insertion into an increasing entry list; an equal key is replaced. -/
def insertEntry (k : κ) (v : ν) : List (κ × ν) → List (κ × ν)
  | [] => [(k, v)]
  | e :: rest =>
    match compare k e.1 with
    | .lt => (k, v) :: e :: rest
    | .eq => (k, v) :: rest
    | .gt => e :: insertEntry k v rest

/-- The value of the first entry whose key compares equal. -/
def lookupEntry (k : κ) : List (κ × ν) → Option ν
  | [] => none
  | e :: rest => if compare k e.1 = .eq then some e.2 else lookupEntry k rest

theorem mem_insertEntry {k : κ} {v : ν} {e : κ × ν} {l : List (κ × ν)}
    (h : e ∈ insertEntry k v l) : e = (k, v) ∨ e ∈ l := by
  induction l with
  | nil => simpa [insertEntry] using h
  | cons a rest ih =>
    unfold insertEntry at h
    split at h <;> grind

theorem insertEntry_increasing [Std.TransOrd κ] [Std.LawfulEqOrd κ] (k : κ) (v : ν)
    {l : List (κ × ν)} (h : l.Pairwise fun a b => compare a.1 b.1 = .lt) :
    (insertEntry k v l).Pairwise fun a b => compare a.1 b.1 = .lt := by
  induction l with
  | nil => simp [insertEntry]
  | cons a rest ih =>
    obtain ⟨ha, hrest⟩ := List.pairwise_cons.1 h
    unfold insertEntry
    split
    next hlt =>
      refine List.pairwise_cons.2 ⟨fun b hb => ?_, h⟩
      rcases List.mem_cons.1 hb with rfl | hb
      · exact hlt
      · exact Std.TransCmp.lt_trans hlt (ha b hb)
    next heq =>
      have hk : k = a.1 := Std.LawfulEqCmp.eq_of_compare heq
      exact List.pairwise_cons.2 ⟨fun b hb => hk ▸ ha b hb, hrest⟩
    next hgt =>
      refine List.pairwise_cons.2 ⟨fun b hb => ?_, ih hrest⟩
      rcases mem_insertEntry hb with rfl | hb
      · exact Std.OrientedCmp.lt_of_gt hgt
      · exact ha b hb

theorem lookupEntry_insertEntry [Std.TransOrd κ] [Std.LawfulEqOrd κ] (k k' : κ) (v : ν)
    (l : List (κ × ν)) :
    lookupEntry k' (insertEntry k v l) =
      if compare k' k = .eq then some v else lookupEntry k' l := by
  induction l with
  | nil => simp [insertEntry, lookupEntry]
  | cons a rest ih =>
    unfold insertEntry
    split
    next hlt => simp [lookupEntry]
    next heq =>
      have hk : k = a.1 := Std.LawfulEqCmp.eq_of_compare heq
      subst hk
      by_cases h : compare k' a.1 = .eq <;> simp [lookupEntry, h]
    next hgt =>
      by_cases h : compare k' k = .eq
      · have hk : k' = k := Std.LawfulEqCmp.eq_of_compare h
        subst hk
        simp [lookupEntry, hgt, ih]
      · simp [lookupEntry, h, ih]

theorem lookupEntry_eq_some_of_mem [Std.TransOrd κ] {k : κ} {v : ν} {l : List (κ × ν)}
    (hl : l.Pairwise fun a b => compare a.1 b.1 = .lt) (h : (k, v) ∈ l) :
    lookupEntry k l = some v := by
  induction l with
  | nil => simp at h
  | cons a rest ih =>
    obtain ⟨ha, hrest⟩ := List.pairwise_cons.1 hl
    rcases List.mem_cons.1 h with rfl | h
    · simp [lookupEntry]
    · have hlt := ha _ h
      have hne : compare k a.1 ≠ .eq := by
        have hgt := Std.OrientedCmp.gt_of_lt hlt
        simp only at hgt
        simp [hgt]
      simp [lookupEntry, hne, ih hrest h]

theorem mem_of_lookupEntry_eq_some [Std.LawfulEqOrd κ] {k : κ} {v : ν} {l : List (κ × ν)}
    (h : lookupEntry k l = some v) : (k, v) ∈ l := by
  induction l with
  | nil => simp [lookupEntry] at h
  | cons a rest ih =>
    unfold lookupEntry at h
    split at h
    next heq =>
      have hk : k = a.1 := Std.LawfulEqCmp.eq_of_compare heq
      obtain rfl := Option.some.inj h
      simp [hk]
    next => exact List.mem_cons_of_mem _ (ih h)

end Entries

/-! ### Operations -/

variable {κ ν : Type} [Ord κ]

/-- The map without entries. -/
def empty : SortedMap κ ν := ⟨[], List.Pairwise.nil⟩

instance : EmptyCollection (SortedMap κ ν) := ⟨empty⟩

instance : Inhabited (SortedMap κ ν) := ⟨empty⟩

/-- The value stored under a key. -/
def get? (m : SortedMap κ ν) (k : κ) : Option ν := lookupEntry k m.entries

/-- Whether a key is present. -/
def contains (m : SortedMap κ ν) (k : κ) : Bool := (m.get? k).isSome

/-- The keys in order. -/
def keys (m : SortedMap κ ν) : List κ := m.entries.map (·.1)

/-- The number of entries. -/
def size (m : SortedMap κ ν) : Nat := m.entries.length

/-- Whether there is no entry. -/
def isEmpty (m : SortedMap κ ν) : Bool := m.entries.isEmpty

/-- The entries that satisfy a test. -/
def filter (p : κ → ν → Bool) (m : SortedMap κ ν) : SortedMap κ ν :=
  ⟨m.entries.filter fun e => p e.1 e.2, m.increasing.filter _⟩

/-- The map without a key. -/
def erase (m : SortedMap κ ν) (k : κ) : SortedMap κ ν :=
  m.filter fun k' _ => compare k k' ≠ .eq

variable [Std.TransOrd κ] [Std.LawfulEqOrd κ]

/-- The map with a key set to a value. -/
def insert (m : SortedMap κ ν) (k : κ) (v : ν) : SortedMap κ ν :=
  ⟨insertEntry k v m.entries, insertEntry_increasing k v m.increasing⟩

/-- The map of a list of entries; of two with one key the later counts. -/
def ofList (l : List (κ × ν)) : SortedMap κ ν :=
  l.foldl (fun m e => m.insert e.1 e.2) ∅

/-! ### Look-ups -/

omit [Std.TransOrd κ] [Std.LawfulEqOrd κ] in
@[simp] theorem get?_empty (k : κ) : (∅ : SortedMap κ ν).get? k = none := rfl

@[simp] theorem get?_insert_self (m : SortedMap κ ν) (k : κ) (v : ν) :
    (m.insert k v).get? k = some v := by
  simp [get?, insert, lookupEntry_insertEntry]

theorem get?_insert [DecidableEq κ] (m : SortedMap κ ν) (k k' : κ) (v : ν) :
    (m.insert k v).get? k' = if k' = k then some v else m.get? k' := by
  simp only [get?, insert, lookupEntry_insertEntry, Std.LawfulEqCmp.compare_eq_iff_eq]

theorem get?_eq_some_iff {m : SortedMap κ ν} {k : κ} {v : ν} :
    m.get? k = some v ↔ (k, v) ∈ m.entries :=
  ⟨mem_of_lookupEntry_eq_some, lookupEntry_eq_some_of_mem m.increasing⟩

theorem get?_filter (p : κ → ν → Bool) (m : SortedMap κ ν) (k : κ) :
    (m.filter p).get? k = (m.get? k).filter (p k) := by
  cases h : m.get? k with
  | none =>
    rw [Option.filter_none, Option.eq_none_iff_forall_ne_some]
    intro v hv
    have := get?_eq_some_iff.1 hv
    rw [filter, List.mem_filter] at this
    rw [get?_eq_some_iff.2 this.1] at h
    simp at h
  | some v =>
    have hm := get?_eq_some_iff.1 h
    by_cases hp : p k v
    · rw [Option.filter_some_pos hp, get?_eq_some_iff, filter, List.mem_filter]
      exact ⟨hm, hp⟩
    · rw [Option.filter_some_neg (Bool.not_eq_true _ ▸ hp), Option.eq_none_iff_forall_ne_some]
      intro w hw
      have hw' := get?_eq_some_iff.1 hw
      rw [filter, List.mem_filter] at hw'
      rw [get?_eq_some_iff.2 hw'.1] at h
      obtain rfl := Option.some.inj h
      exact hp hw'.2

theorem get?_erase [DecidableEq κ] (m : SortedMap κ ν) (k k' : κ) :
    (m.erase k).get? k' = if k' = k then none else m.get? k' := by
  rw [erase, get?_filter]
  by_cases h : k' = k
  · subst h
    cases m.get? k' <;> simp [Option.filter]
  · have hne : compare k k' ≠ .eq := fun e => h (Std.LawfulEqCmp.eq_of_compare e).symm
    cases m.get? k' <;> simp [Option.filter, h, hne]

@[simp] theorem get?_erase_self [DecidableEq κ] (m : SortedMap κ ν) (k : κ) :
    (m.erase k).get? k = none := by
  simp [get?_erase]

/-! ### Extensionality -/

omit [Std.TransOrd κ] [Std.LawfulEqOrd κ] in
theorem entries_inj {m n : SortedMap κ ν} : m.entries = n.entries ↔ m = n :=
  ⟨fun h => by cases m; cases n; cases h; rfl, fun h => h ▸ rfl⟩

/-- Two maps with the same look-ups are equal. -/
theorem ext_get? {m n : SortedMap κ ν} (h : ∀ k, m.get? k = n.get? k) : m = n := by
  refine entries_inj.1 ?_
  have hmem : ∀ e, e ∈ m.entries ↔ e ∈ n.entries := fun e => by
    rw [show e = (e.1, e.2) from rfl, ← get?_eq_some_iff, ← get?_eq_some_iff, h]
  have key : ∀ (l l' : List (κ × ν)),
      l.Pairwise (fun a b => compare a.1 b.1 = .lt) →
      l'.Pairwise (fun a b => compare a.1 b.1 = .lt) →
      (∀ e, e ∈ l ↔ e ∈ l') → l = l' := by
    intro l
    induction l with
    | nil =>
      intro l' _ _ hm
      cases l' with
      | nil => rfl
      | cons a r => exact absurd ((hm a).2 (by simp)) (by simp)
    | cons a r ih =>
      intro l' hl hl' hm
      cases l' with
      | nil => exact absurd ((hm a).1 (by simp)) (by simp)
      | cons b r' =>
        obtain ⟨ha, hr⟩ := List.pairwise_cons.1 hl
        obtain ⟨hb, hr'⟩ := List.pairwise_cons.1 hl'
        have hirr : ∀ k : κ, compare k k ≠ .lt := fun k => by simp
        have hab : a = b := by
          rcases List.mem_cons.1 ((hm a).1 (by simp)) with h1 | h1
          · exact h1
          · rcases List.mem_cons.1 ((hm b).2 (by simp)) with h2 | h2
            · exact h2.symm
            · exact absurd (Std.TransCmp.lt_trans (hb a h1) (ha b h2)) (hirr _)
        subst hab
        congr 1
        refine ih r' hr hr' fun e => ⟨fun he => ?_, fun he => ?_⟩
        · rcases List.mem_cons.1 ((hm e).1 (List.mem_cons_of_mem _ he)) with rfl | h1
          · exact absurd (ha _ he) (hirr _)
          · exact h1
        · rcases List.mem_cons.1 ((hm e).2 (List.mem_cons_of_mem _ he)) with rfl | h1
          · exact absurd (hb _ he) (hirr _)
          · exact h1
  exact key _ _ m.increasing n.increasing hmem

omit [Std.TransOrd κ] [Std.LawfulEqOrd κ] in
instance [DecidableEq κ] [DecidableEq ν] : DecidableEq (SortedMap κ ν) := fun m n =>
  decidable_of_iff (m.entries = n.entries) entries_inj

end SortedMap

end SiteRuntime
