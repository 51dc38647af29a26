import Mathlib.Data.List.Pairwise
import SiteRuntime.Snapshot

/-!
# Differences between images of the environment

A difference lists names in three parts, each of them picked from the variables of one image by a
test. An image has each name once and in byte order, so the same is true of what is picked
(`pairwise_picked`), and whether a name is in it can be told by looking the name up
(`mem_picked_iff`).

A name is shown as text. Where all names are text, nothing is lost by that, and `diff_tells` says
what the three parts are. A name that is not text is shown with replacements, and two such names may
look alike. Nevertheless it is true of any names that the difference the other way has the same
parts, with what was added and what was removed in each other's place, and that a difference is
empty just between equal images.
-/

namespace SiteRuntime

/-! ### Names picked from an environment -/

namespace ProcessEnv

variable {e f : ProcessEnv} {test test' : Bytes × Bytes → Bool}

/-- The names of the variables that pass a test. -/
def picked (e : ProcessEnv) (test : Bytes × Bytes → Bool) : List Bytes :=
  (e.toList.filter test).map fun x => x.1

theorem mem_picked_iff {n : Bytes} :
    n ∈ e.picked test ↔ ∃ v, e.value? n = some v ∧ test (n, v) := by
  simp [picked, ← mem_toList_iff]

theorem pairwise_picked (e : ProcessEnv) (test : Bytes × Bytes → Bool) :
    (e.picked test).Pairwise fun m n => compare m n = .lt :=
  List.pairwise_map.2 (e.vars.increasing.filter test)

/-- What is picked is determined by which names are in it. -/
theorem picked_congr (h : ∀ n, n ∈ e.picked test ↔ n ∈ f.picked test') :
    e.picked test = f.picked test' := by
  have hnodup : ∀ {names : List Bytes}, (names.Pairwise fun m n => compare m n = .lt) →
      names.Nodup := fun hnames => hnames.imp fun hlt heq => by simp [heq] at hlt
  refine List.Perm.eq_of_pairwise (fun m n _ _ hmn hnm => ?_) (e.pairwise_picked test)
    (f.pairwise_picked test') ?_
  · rw [Std.OrientedCmp.gt_of_lt hmn] at hnm
    cases hnm
  · exact (List.perm_ext_iff_of_nodup (hnodup (e.pairwise_picked test))
      (hnodup (f.pairwise_picked test'))).2 h

/-! ### Names that are text -/

/-- All names are text. -/
def NamedInText (e : ProcessEnv) : Prop := ∀ n ∈ e.names, (Bytes.text? n).isSome

instance : DecidablePred NamedInText := fun e =>
  inferInstanceAs (Decidable (∀ n ∈ e.names, (Bytes.text? n).isSome))

theorem NamedInText.exists_ofText (he : e.NamedInText) {n : Bytes} (hn : n ∈ e.picked test) :
    ∃ name, n = Bytes.ofText name := by
  obtain ⟨v, hv, -⟩ := mem_picked_iff.1 hn
  obtain ⟨name, hname⟩ := Option.isSome_iff_exists.1 (he n (mem_names_iff.2 ⟨v, hv⟩))
  exact ⟨name, Bytes.text?_eq_some_iff.1 hname⟩

/-- A text is shown just if it is a name that was picked. -/
theorem NamedInText.mem_map_lossy_iff (he : e.NamedInText) {name : String} :
    name ∈ (e.picked test).map Bytes.lossy ↔ Bytes.ofText name ∈ e.picked test := by
  rw [List.mem_map]
  constructor
  · rintro ⟨n, hn, rfl⟩
    obtain ⟨name, rfl⟩ := he.exists_ofText hn
    rwa [Bytes.lossy_ofText]
  · exact fun hn => ⟨Bytes.ofText name, hn, Bytes.lossy_ofText name⟩

/-- What is picked is shown in byte order. -/
theorem NamedInText.pairwise_map_lossy (he : e.NamedInText) :
    ((e.picked test).map Bytes.lossy).Pairwise fun m n =>
      compare (Bytes.ofText m) (Bytes.ofText n) = .lt := by
  refine List.pairwise_map.2 ((e.pairwise_picked test).imp_of_mem fun {m n} hm hn hlt => ?_)
  obtain ⟨m, rfl⟩ := he.exists_ofText hm
  obtain ⟨n, rfl⟩ := he.exists_ofText hn
  rwa [Bytes.lossy_ofText, Bytes.lossy_ofText]

end ProcessEnv

/-! ### Differences -/

namespace Snapshot

variable {s t : Snapshot}

/-- The names that only the second of two images has. -/
def newNames (s t : Snapshot) : List Bytes := t.image.picked fun x => (s.value? x.1).isNone

/-- The names under which the second of two images has another value than the first. -/
def changedNames (s t : Snapshot) : List Bytes :=
  t.image.picked fun x => (s.value? x.1).any (· ≠ x.2)

theorem diff_eq (s t : Snapshot) :
    s.diff t = ⟨(newNames s t).map Bytes.lossy, (newNames t s).map Bytes.lossy,
      (changedNames s t).map Bytes.lossy⟩ := by
  rw [diff, newNames, newNames, changedNames, ProcessEnv.picked, ProcessEnv.picked,
    ProcessEnv.picked, List.map_map, List.map_map, List.map_map]
  congr 3
  funext x
  cases s.value? x.1 <;> rfl

theorem mem_newNames_iff {n : Bytes} :
    n ∈ newNames s t ↔ s.value? n = none ∧ t.value? n ≠ none := by
  rw [newNames, ProcessEnv.mem_picked_iff, Option.ne_none_iff_exists']
  simp [value?, and_comm]

theorem mem_changedNames_iff {n : Bytes} :
    n ∈ changedNames s t ↔
      ∃ old new, s.value? n = some old ∧ t.value? n = some new ∧ old ≠ new := by
  rw [changedNames, ProcessEnv.mem_picked_iff]
  dsimp only
  cases s.value? n with
  | none => simp
  | some old => simp [value?]

theorem changedNames_comm (s t : Snapshot) : changedNames t s = changedNames s t := by
  refine ProcessEnv.picked_congr fun n => ?_
  rw [← changedNames, ← changedNames, mem_changedNames_iff, mem_changedNames_iff]
  constructor
  · rintro ⟨old, new, hold, hnew, hne⟩
    exact ⟨new, old, hnew, hold, Ne.symm hne⟩
  · rintro ⟨old, new, hold, hnew, hne⟩
    exact ⟨new, old, hnew, hold, Ne.symm hne⟩

/-- Images of which no name differs have the same values. -/
theorem eq_of_names_eq_nil (hnew : newNames s t = []) (hold : newNames t s = [])
    (hchanged : changedNames s t = []) : s = t := by
  obtain ⟨e⟩ := s
  obtain ⟨f⟩ := t
  rw [List.eq_nil_iff_forall_not_mem] at hnew hold hchanged
  refine congrArg Snapshot.mk (ProcessEnv.ext_value? fun n => ?_)
  have hnew := mt mem_newNames_iff.2 (hnew n)
  have hold := mt mem_newNames_iff.2 (hold n)
  have hchanged := mt mem_changedNames_iff.2 (hchanged n)
  simp only [value?] at hnew hold hchanged
  cases he : e.value? n with
  | none =>
    rw [he, not_and, not_not] at hnew
    exact (hnew rfl).symm
  | some old =>
    cases hf : f.value? n with
    | none =>
      rw [he, hf] at hold
      exact absurd ⟨rfl, Option.some_ne_none old⟩ hold
    | some new =>
      by_contra hne
      exact hchanged ⟨old, new, he, hf, fun heq => hne (congrArg some heq)⟩

theorem newNames_self (s : Snapshot) : newNames s s = [] := by
  rw [List.eq_nil_iff_forall_not_mem]
  intro n hn
  obtain ⟨hnone, hsome⟩ := mem_newNames_iff.1 hn
  exact hsome hnone

theorem changedNames_self (s : Snapshot) : changedNames s s = [] := by
  rw [List.eq_nil_iff_forall_not_mem]
  intro n hn
  obtain ⟨old, new, hold, hnew, hne⟩ := mem_changedNames_iff.1 hn
  exact hne (Option.some.inj (hold.symm.trans hnew))

/-- **What a difference tells** of two images: which names only the later one has, which names only
the earlier one has, and which names both have with different values, each part in byte order. -/
structure Diff.Tells (d : Diff) (s t : Snapshot) : Prop where
  mem_added_iff : ∀ name : String, name ∈ d.added ↔
    s.value? (Bytes.ofText name) = none ∧ t.value? (Bytes.ofText name) ≠ none
  mem_removed_iff : ∀ name : String, name ∈ d.removed ↔
    t.value? (Bytes.ofText name) = none ∧ s.value? (Bytes.ofText name) ≠ none
  mem_changed_iff : ∀ name : String, name ∈ d.changed ↔
    ∃ old new, s.value? (Bytes.ofText name) = some old ∧
      t.value? (Bytes.ofText name) = some new ∧ old ≠ new
  nodup : ∀ part ∈ [d.added, d.removed, d.changed], part.Nodup
  increasing : ∀ part ∈ [d.added, d.removed, d.changed],
    part.Pairwise fun m n => compare (Bytes.ofText m) (Bytes.ofText n) = .lt
  disjoint : d.added.Disjoint d.removed ∧ d.added.Disjoint d.changed ∧ d.removed.Disjoint d.changed

/-- Where names are text, the three parts are told by them. -/
theorem tells_of_namedInText (hs : s.image.NamedInText) (ht : t.image.NamedInText) :
    (s.diff t).Tells s t := by
  have hnew : ∀ {s t : Snapshot}, t.image.NamedInText → ∀ name : String,
      name ∈ (newNames s t).map Bytes.lossy ↔
        s.value? (Bytes.ofText name) = none ∧ t.value? (Bytes.ofText name) ≠ none :=
    fun ht name => ht.mem_map_lossy_iff.trans mem_newNames_iff
  have hchanged : ∀ name : String, name ∈ (changedNames s t).map Bytes.lossy ↔
      ∃ old new, s.value? (Bytes.ofText name) = some old ∧
        t.value? (Bytes.ofText name) = some new ∧ old ≠ new :=
    fun name => ht.mem_map_lossy_iff.trans mem_changedNames_iff
  have hincreasing : ∀ part ∈ [(newNames s t).map Bytes.lossy, (newNames t s).map Bytes.lossy,
      (changedNames s t).map Bytes.lossy],
      part.Pairwise fun m n => compare (Bytes.ofText m) (Bytes.ofText n) = .lt := by
    simp only [List.forall_mem_cons]
    exact ⟨ht.pairwise_map_lossy, hs.pairwise_map_lossy, ht.pairwise_map_lossy,
      List.forall_mem_nil _⟩
  rw [diff_eq]
  refine ⟨hnew ht, hnew hs, hchanged, fun part hpart => ?_, hincreasing, ?_⟩
  · exact (hincreasing part hpart).imp fun hlt heq => by simp [heq] at hlt
  · -- a name in two parts would be both there and not there in one of the images
    refine ⟨fun name hname hname' => ?_, fun name hname hname' => ?_, fun name hname hname' => ?_⟩
    · exact ((hnew ht name).1 hname).2 ((hnew hs name).1 hname').1
    · obtain ⟨old, new, hold, -⟩ := (hchanged name).1 hname'
      cases ((hnew ht name).1 hname).1.symm.trans hold
    · obtain ⟨old, new, -, hvalue, -⟩ := (hchanged name).1 hname'
      cases ((hnew hs name).1 hname).1.symm.trans hvalue

/-- **Differences.** Where the names of two images are text, the difference tells what was added,
what was removed and what has another value. The difference the other way has what was added and
what was removed in each other's place, and a difference is empty just between equal images,
whatever their names. -/
theorem diff_tells (s t : Snapshot) :
    (s.image.NamedInText → t.image.NamedInText → (s.diff t).Tells s t) ∧
      (t.diff s).added = (s.diff t).removed ∧ (t.diff s).removed = (s.diff t).added ∧
      (t.diff s).changed = (s.diff t).changed ∧ ((s.diff t).isEmpty ↔ s = t) := by
  refine ⟨tells_of_namedInText, ?_⟩
  rw [diff_eq, diff_eq, changedNames_comm, Diff.isEmpty]
  refine ⟨rfl, rfl, rfl, ?_⟩
  simp only [Bool.and_eq_true, List.isEmpty_iff, List.map_eq_nil_iff, and_assoc]
  constructor
  · rintro ⟨hnew, hold, hchanged⟩
    exact eq_of_names_eq_nil hnew hold hchanged
  · rintro rfl
    exact ⟨newNames_self s, newNames_self s, changedNames_self s⟩

/-- The image of variables that are text. -/
def imageOf (l : List (String × String)) : Snapshot :=
  .capture (.ofList (l.map fun x => (Bytes.ofText x.1, Bytes.ofText x.2)))

/-- An image before some variables are edited. -/
def beforeEdit : Snapshot := imageOf [("PATH", "/bin"), ("éa", "1"), ("LANG", "C"), ("Z", "")]

/-- An image after they have been edited. -/
def afterEdit : Snapshot := imageOf [("b", ""), ("PATH", "/bin"), ("LANG", "de"), ("B", "2")]

theorem diff_tells_edited :
    beforeEdit.image.NamedInText ∧ afterEdit.image.NamedInText ∧
      (beforeEdit.diff afterEdit).Tells beforeEdit afterEdit ∧
      beforeEdit.diff afterEdit = ⟨["B", "b"], ["Z", "éa"], ["LANG"]⟩ := by
  have hbefore : beforeEdit.image.NamedInText := by decide +kernel
  have hafter : afterEdit.image.NamedInText := by decide +kernel
  exact ⟨hbefore, hafter, (diff_tells beforeEdit afterEdit).1 hbefore hafter, by decide +kernel⟩

end Snapshot

end SiteRuntime
