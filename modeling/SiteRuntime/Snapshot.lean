import SiteRuntime.ProcessEnv

/-!
# Snapshots of the process environment

A snapshot is an image of all variables. Restoring it writes only what differs: variables that came
later are removed, variables that changed or went are set again. `restore_eq` says that the result
is nevertheless exactly the image, whatever happened in between.
-/

namespace SiteRuntime

/-- An image of the process environment. -/
structure Snapshot where
  /-- The environment when the image was taken. -/
  image : ProcessEnv
  deriving DecidableEq

namespace Snapshot

/-- The image of an environment. -/
def capture (e : ProcessEnv) : Snapshot := ⟨e⟩

@[simp] theorem image_capture (e : ProcessEnv) : (capture e).image = e := rfl

/-- The value of a variable when the image was taken. -/
def value? (s : Snapshot) (name : Bytes) : Option Bytes := s.image.value? name

/-- The number of variables. -/
def size (s : Snapshot) : Nat := s.image.vars.size

/-- Whether there was no variable. -/
def isEmpty (s : Snapshot) : Bool := s.image.vars.isEmpty

/-! ### Restoring -/

/-- The removals of what the image does not hold. -/
def removals (s : Snapshot) (e : ProcessEnv) : List Write :=
  (e.names.filter fun n => (s.value? n).isNone).map .unset

/-- The assignments of what the image holds and the environment does not hold like that. -/
def assignments (s : Snapshot) (e : ProcessEnv) : List Write :=
  (s.image.toList.filter fun x => e.value? x.1 ≠ some x.2).map fun x => .set x.1 x.2

/-- The writes that bring an environment back to the image, removals first. -/
def restoring (s : Snapshot) (e : ProcessEnv) : List Write := s.removals e ++ s.assignments e

/-- The environment after restoring the image. -/
def restore (s : Snapshot) (e : ProcessEnv) : ProcessEnv := e.applyAll (s.restoring e)

theorem value?_applyAll_unset (e : ProcessEnv) (ns : List Bytes) (n : Bytes) :
    (e.applyAll (ns.map .unset)).value? n = if n ∈ ns then none else e.value? n := by
  induction ns generalizing e with
  | nil => simp
  | cons m ms ih =>
    rw [List.map_cons, ProcessEnv.applyAll_cons, ih, ProcessEnv.apply_unset,
      ProcessEnv.value?_unset]
    by_cases h : n = m <;> by_cases h' : n ∈ ms <;> simp [h, h']

theorem value?_applyAll_set_of_notMem {e : ProcessEnv} {l : List (Bytes × Bytes)} {n : Bytes}
    (h : ∀ v, (n, v) ∉ l) : (e.applyAll (l.map fun x => .set x.1 x.2)).value? n = e.value? n := by
  induction l generalizing e with
  | nil => simp
  | cons x xs ih =>
    rw [List.map_cons, ProcessEnv.applyAll_cons, ih fun v hv => h v (List.mem_cons_of_mem _ hv),
      ProcessEnv.apply_set, ProcessEnv.value?_set, if_neg]
    rintro rfl
    exact h x.2 (by simp)

theorem value?_applyAll_set_of_mem {e : ProcessEnv} {l : List (Bytes × Bytes)} {n v : Bytes}
    (h : (n, v) ∈ l) (hu : ∀ w, (n, w) ∈ l → w = v) :
    (e.applyAll (l.map fun x => .set x.1 x.2)).value? n = some v := by
  induction l generalizing e with
  | nil => simp at h
  | cons x xs ih =>
    rw [List.map_cons, ProcessEnv.applyAll_cons]
    by_cases hx : (n, v) ∈ xs
    · exact ih hx fun w hw => hu w (List.mem_cons_of_mem _ hw)
    · rw [value?_applyAll_set_of_notMem]
      · rcases List.mem_cons.1 h with rfl | h
        · simp
        · exact absurd h hx
      · intro w hw
        exact hx (hu w (List.mem_cons_of_mem _ hw) ▸ hw)

/-- Restoring an image gives exactly the image. -/
@[simp] theorem restore_eq (s : Snapshot) (e : ProcessEnv) : s.restore e = s.image := by
  apply ProcessEnv.ext_value?
  intro n
  rw [restore, restoring, ProcessEnv.applyAll_append]
  cases hs : s.image.value? n with
  | none =>
    rw [assignments, value?_applyAll_set_of_notMem]
    · rw [removals, value?_applyAll_unset]
      split
      · rfl
      next h =>
        rw [List.mem_filter, ProcessEnv.mem_names_iff] at h
        cases he : e.value? n with
        | none => rfl
        | some v => exact absurd ⟨⟨v, he⟩, by simp [value?, hs]⟩ h
    · intro v hv
      have := ProcessEnv.mem_toList_iff.1 (List.mem_filter.1 hv).1
      rw [hs] at this
      simp at this
  | some v =>
    by_cases he : e.value? n = some v
    · rw [assignments, value?_applyAll_set_of_notMem]
      · rw [removals, value?_applyAll_unset, if_neg]
        · exact he
        · simp [value?, hs]
      · intro w hw
        obtain ⟨hm, hd⟩ := List.mem_filter.1 hw
        have := ProcessEnv.mem_toList_iff.1 hm
        rw [hs] at this
        obtain rfl := Option.some.inj this
        simp [he] at hd
    · rw [assignments, value?_applyAll_set_of_mem (v := v)]
      · rw [List.mem_filter]
        exact ⟨ProcessEnv.mem_toList_iff.2 hs, by simpa using he⟩
      · intro w hw
        have := ProcessEnv.mem_toList_iff.1 (List.mem_filter.1 hw).1
        rw [hs] at this
        exact (Option.some.inj this).symm

@[simp] theorem restore_capture (e f : ProcessEnv) : (capture e).restore f = e := restore_eq _ _

/-! ### Differences -/

/-- What changed from one image to another, by the shown name. -/
structure Diff where
  /-- Only in the later image. -/
  added : List String
  /-- Only in the earlier image. -/
  removed : List String
  /-- In both with different values. -/
  changed : List String
  deriving DecidableEq, Repr

/-- Whether nothing changed. -/
def Diff.isEmpty (d : Diff) : Bool := d.added.isEmpty && d.removed.isEmpty && d.changed.isEmpty

/-- What changed from one image to another, in byte order of the names. -/
def diff (s t : Snapshot) : Diff where
  added := (t.image.toList.filter fun x => (s.value? x.1).isNone).map fun x => Bytes.lossy x.1
  removed := (s.image.toList.filter fun x => (t.value? x.1).isNone).map fun x => Bytes.lossy x.1
  changed := (t.image.toList.filter fun x => match s.value? x.1 with
    | some old => old ≠ x.2
    | none => false).map fun x => Bytes.lossy x.1

end Snapshot

end SiteRuntime
