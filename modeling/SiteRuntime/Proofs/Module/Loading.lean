import SiteRuntime.Module.InMemory

/-!
# What a load does to the loaded modules

A forced load walks through the loaded modules and unloads those that conflict with the new one. It
walks through the list as it was at the start, while the list itself gets shorter, so a module that
is listed twice comes up again after it has gone; and any of the unloads may fail, with some of them
done and some not. What is unloaded is recorded, and a job script repeats the record.

For a module system that goes by a list (`Backend.ByList`) the outcome can be told from that list
alone: `conflicting` has the modules that have to go, each once, and a load that succeeds takes away
just these, appends the new one, and answers with them. A failure takes away the first few of them
(`loadModule_outcome`). The walk is followed by `unloadConflicts_walk`, of which the invariant is
what is still to go, given what has gone already: `conflictingBeside`.
-/

namespace SiteRuntime.Backend

open Stateful (Fixes left)

variable {μ : Type}

/-! ### Modules that have to go -/

/-- The loaded modules that conflicts designate, each once, in the order in which they are first
listed. -/
def conflicting (conflicts loaded : List String) : List String :=
  (loaded.filter (isConflict conflicts)).eraseDups

/-- Those of them that have not been unloaded yet. -/
def conflictingBeside (conflicts loaded unloaded : List String) : List String :=
  (loaded.filter fun l => isConflict conflicts l && !unloaded.contains l).eraseDups

theorem conflictingBeside_nil (conflicts loaded : List String) :
    conflictingBeside conflicts loaded [] = conflicting conflicts loaded := by
  simp [conflictingBeside, conflicting]

/-- A module that has to go is the first of them, and from then on it has gone. -/
theorem conflictingBeside_cons_of_pos {conflicts rest unloaded : List String} {l : String}
    (h : isConflict conflicts l && !unloaded.contains l) :
    conflictingBeside conflicts (l :: rest) unloaded =
      l :: conflictingBeside conflicts rest (unloaded ++ [l]) := by
  rw [conflictingBeside, List.filter_cons, if_pos h, List.eraseDups_cons, List.filter_filter,
    conflictingBeside]
  have hsame : ∀ x, (!x == l && (isConflict conflicts x && !unloaded.contains x)) =
      (isConflict conflicts x && !(unloaded ++ [l]).contains x) := by
    intro x
    by_cases hx : x = l <;> simp [hx]
  simp only [hsame]

theorem conflictingBeside_cons_of_neg {conflicts rest unloaded : List String} {l : String}
    (h : (isConflict conflicts l && !unloaded.contains l) = false) :
    conflictingBeside conflicts (l :: rest) unloaded =
      conflictingBeside conflicts rest unloaded := by
  rw [conflictingBeside, List.filter_cons, h, if_neg Bool.false_ne_true, conflictingBeside]

theorem mem_conflicting_iff {conflicts loaded : List String} {l : String} :
    l ∈ conflicting conflicts loaded ↔ l ∈ loaded ∧ isConflict conflicts l := by
  rw [conflicting, List.mem_eraseDups, List.mem_filter]

/-! ### Module systems that go by a list -/

/-- **A module system that goes by a list.** What is loaded is appended, what is unloaded is removed
wherever it is listed, an operation that fails changes nothing in the list, and looking conflicts up
changes nothing either. Whether a module is loaded is answered by the list. -/
structure ByList (b : Backend μ) : Prop where
  isLoaded_eq : ∀ m name, b.isLoaded m name = reportsLoaded (b.loaded m) name
  fixes_conflicts : ∀ name, Fixes b.loaded (b.conflicts name)
  loaded_load : ∀ {name m m'}, b.load name m = .ok () m' → b.loaded m' = b.loaded m ++ [name]
  loaded_load_error : ∀ {name e m m'}, b.load name m = .error e m' → b.loaded m' = b.loaded m
  loaded_unload : ∀ {name m m'},
    b.unload name m = .ok () m' → b.loaded m' = (b.loaded m).filter (· ≠ name)
  loaded_unload_error : ∀ {name e m m'}, b.unload name m = .error e m' → b.loaded m' = b.loaded m

/-- The module system in memory is one of them. -/
theorem byList_inMemory {read : μ → InMemory} {put : InMemory → μ → μ}
    (hput : ∀ d s, read (put d s) = d) (s : InMemory.Setup) :
    ByList (InMemory.backend read put s) where
  isLoaded_eq _ _ := rfl
  fixes_conflicts _ _ := rfl
  loaded_load h := by
    simp only [InMemory.backend] at h
    split at h
    · cases h
    · cases h
      simp [InMemory.backend, hput]
  loaded_load_error h := by
    simp only [InMemory.backend] at h
    split at h
    · cases h
      rfl
    · cases h
  loaded_unload h := by
    cases h
    simp [InMemory.backend, hput]
  loaded_unload_error h := nomatch h

variable {b : Backend μ}

/-! ### The walk -/

/-- Without no modules a list is what it was. -/
theorem filter_notMem_nil (loaded : List String) :
    loaded.filter (· ∉ ([] : List String)) = loaded :=
  List.filter_eq_self.2 fun l _ => decide_eq_true (List.not_mem_nil (a := l))

/-- What is left of a list without one module and then without some more. -/
theorem filter_notMem_cons (loaded gone : List String) (l : String) :
    (loaded.filter (· ≠ l)).filter (· ∉ gone) = loaded.filter (· ∉ l :: gone) := by
  rw [List.filter_filter]
  refine List.filter_congr fun x _ => ?_
  by_cases hx : x = l <;> simp [hx]

/-- **The walk through the loaded modules** unloads, one by one, what has to go and has not gone
yet. It may fail at any of them, with those before it gone. -/
theorem ByList.unloadConflicts_walk (hb : ByList b) (conflicts ls unloaded : List String)
    (m : Machine μ) :
    match b.unloadConflicts conflicts ls unloaded m with
    | .ok out m' => out = unloaded ++ conflictingBeside conflicts ls unloaded ∧
        b.loaded m' = (b.loaded m).filter (· ∉ conflictingBeside conflicts ls unloaded)
    | .error e m' => ∃ gone l rest m₁,
        conflictingBeside conflicts ls unloaded = gone ++ l :: rest ∧
          b.unload l m₁ = .error e m' ∧ b.loaded m' = (b.loaded m).filter (· ∉ gone) := by
  -- along the list as it was; what has been unloaded so far is collected in `unloaded`
  induction ls generalizing unloaded m with
  | nil =>
    have hnone : conflictingBeside conflicts [] unloaded = [] := rfl
    rw [unloadConflicts, hnone]
    exact ⟨(List.append_nil _).symm, (filter_notMem_nil _).symm⟩
  | cons l ls ih =>
    rw [unloadConflicts]
    cases hl : isConflict conflicts l && !unloaded.contains l with
    | false =>
      rw [conflictingBeside_cons_of_neg hl]
      exact ih unloaded m
    | true =>
      rw [conflictingBeside_cons_of_pos hl, if_pos rfl]
      cases hun : b.unload l m with
      | error e m₁ =>
        rw [Stateful.bind_of_error hun]
        refine ⟨[], l, _, m, rfl, hun, ?_⟩
        rw [hb.loaded_unload_error hun, filter_notMem_nil]
      | ok _ m₁ =>
        rw [Stateful.bind_of_ok hun]
        have hrest := ih (unloaded ++ [l]) m₁
        cases hwalk : b.unloadConflicts conflicts ls (unloaded ++ [l]) m₁ with
        | ok out m' =>
          rw [hwalk] at hrest
          obtain ⟨hout, hloaded⟩ := hrest
          refine ⟨by rw [hout, List.append_assoc, List.singleton_append], ?_⟩
          rw [hloaded, hb.loaded_unload hun, filter_notMem_cons]
        | error e m' =>
          rw [hwalk] at hrest
          obtain ⟨gone, x, rest, m₂, hgone, hfails, hloaded⟩ := hrest
          refine ⟨l :: gone, x, rest, m₂, by rw [hgone, List.cons_append], hfails, ?_⟩
          rw [hloaded, hb.loaded_unload hun, filter_notMem_cons]

/-! ### Outcomes -/

/-- **What becomes of a forced load** of a module that is not loaded. -/
inductive Forced (b : Backend μ) (name : String) (m : Machine μ) :
    EStateM.Result ModuleError (Machine μ) (List String) → Prop
  /-- The modules that conflicts designate have gone, and the new one has been appended. -/
  | loaded {cs m₁ out m'} : b.conflicts name m = .ok cs m₁ → out = conflicting cs (b.loaded m) →
    b.loaded m' = (b.loaded m).filter (· ∉ out) ++ [name] → b.isLoaded m' name →
    Forced b name m (.ok out m')
  /-- The conflicts could not be looked up. -/
  | lookUpFailed {e m'} : b.conflicts name m = .error e m' → b.loaded m' = b.loaded m →
    Forced b name m (.error e m')
  /-- A module could not be unloaded; those before it have gone. -/
  | unloadFailed {cs m₁ gone l rest m₂ e m'} : b.conflicts name m = .ok cs m₁ →
    conflicting cs (b.loaded m) = gone ++ l :: rest → b.unload l m₂ = .error e m' →
    b.loaded m' = (b.loaded m).filter (· ∉ gone) → Forced b name m (.error e m')
  /-- The module itself could not be loaded, after all that had to go has gone. -/
  | loadFailed {cs m₁ m₂ e m'} : b.conflicts name m = .ok cs m₁ → b.load name m₂ = .error e m' →
    b.loaded m' = (b.loaded m).filter (· ∉ conflicting cs (b.loaded m)) →
    Forced b name m (.error e m')

/-- **What becomes of an unforced load** of a module that is not loaded. -/
inductive Unforced (b : Backend μ) (name : String) (m : Machine μ) :
    EStateM.Result ModuleError (Machine μ) (List String) → Prop
  /-- The module has been appended, and nothing has gone. -/
  | loaded {m'} : b.loaded m' = b.loaded m ++ [name] → b.isLoaded m' name →
    Unforced b name m (.ok [] m')
  /-- The module could not be loaded. -/
  | loadFailed {e m'} : b.load name m = .error e m' → b.loaded m' = b.loaded m →
    Unforced b name m (.error e m')

namespace ByList

/-- What has been loaded is reported. -/
theorem isLoaded_of_load (hb : ByList b) {name : String} {m m' : Machine μ}
    (h : b.load name m = .ok () m') : b.isLoaded m' name := by
  rw [hb.isLoaded_eq, hb.loaded_load h]
  exact reportsLoaded_of_mem (List.mem_append_right _ (List.mem_singleton.2 rfl))

/-- A module that is loaded is not loaded again. -/
theorem loadModule_of_reported (hb : ByList b) {name : String} {m : Machine μ}
    (h : reportsLoaded (b.loaded m) name) (force : Bool) :
    b.loadModule name force m = .ok [] m := by
  rw [loadModule, Stateful.get_bind, hb.isLoaded_eq, h]
  rfl

/-- **A forced load** of a module that is not loaded comes out in one of four ways. -/
theorem forced_loadModule (hb : ByList b) {name : String} {m : Machine μ}
    (h : reportsLoaded (b.loaded m) name = false) :
    Forced b name m (b.loadModule name true m) := by
  have hlooked := hb.fixes_conflicts name m
  have hmissing : b.isLoaded m name = false := by rw [hb.isLoaded_eq, h]
  cases hload : b.loadModule name true m with
  | ok out m' =>
    rcases loadModule_eq_ok_iff.1 hload with ⟨hfound, -, -⟩ | ⟨-, cs, m₁, m₂, hcs, hun, hl⟩
    · rw [hmissing] at hfound
      cases hfound
    · rw [hcs, left] at hlooked
      have hwalk := hb.unloadConflicts_walk cs (b.loaded m₁) [] m₁
      rw [hun, hlooked, conflictingBeside_nil] at hwalk
      obtain ⟨hout, hloaded⟩ := hwalk
      rw [List.nil_append] at hout
      refine .loaded hcs hout ?_ (hb.isLoaded_of_load hl)
      rw [hb.loaded_load hl, hloaded, hout]
  | error e m' =>
    obtain ⟨-, hcs | ⟨cs, m₁, hcs, hun⟩⟩ := loadModule_eq_error_iff.1 hload
    · rw [hcs, left] at hlooked
      exact .lookUpFailed hcs hlooked
    · rw [hcs, left] at hlooked
      have hwalk := hb.unloadConflicts_walk cs (b.loaded m₁) [] m₁
      rw [hlooked, conflictingBeside_nil] at hwalk
      rw [hlooked] at hun
      rcases hun with hun | ⟨out, m₂, hun, hl⟩
      · rw [hun] at hwalk
        obtain ⟨gone, l, rest, m₂, hgone, hfails, hloaded⟩ := hwalk
        exact .unloadFailed hcs hgone hfails hloaded
      · rw [hun] at hwalk
        refine .loadFailed hcs hl ?_
        rw [hb.loaded_load_error hl, hwalk.2]

/-- **An unforced load** of a module that is not loaded asks for no conflicts. -/
theorem unforced_loadModule (hb : ByList b) {name : String} {m : Machine μ}
    (h : reportsLoaded (b.loaded m) name = false) :
    Unforced b name m (b.loadModule name false m) := by
  have hmissing : b.isLoaded m name = false := by rw [hb.isLoaded_eq, h]
  have hsame : b.loadModule name false m = (do b.load name; return []) m := by
    rw [loadModule, Stateful.get_bind, hmissing]
    rfl
  rw [hsame]
  cases hl : b.load name m with
  | ok _ m' =>
    rw [Stateful.bind_of_ok hl]
    exact .loaded (hb.loaded_load hl) (hb.isLoaded_of_load hl)
  | error e m' =>
    rw [Stateful.bind_of_error hl]
    exact .loadFailed hl (hb.loaded_load_error hl)

end ByList

/-- **What a load does.** With a module system that goes by a list: a module that is loaded is left
alone. Of any other module a forced load unloads what its conflicts designate, each module once and
in order, and then appends it; if it fails, the modules before the failure have gone and no more. An
unforced load appends it and unloads nothing. -/
theorem loadModule_outcome (hb : ByList b) (name : String) (m : Machine μ) :
    (reportsLoaded (b.loaded m) name → ∀ force, b.loadModule name force m = .ok [] m) ∧
      (reportsLoaded (b.loaded m) name = false →
        Forced b name m (b.loadModule name true m) ∧
          Unforced b name m (b.loadModule name false m)) :=
  ⟨hb.loadModule_of_reported, fun h => ⟨hb.forced_loadModule h, hb.unforced_loadModule h⟩⟩

/-- A module system in memory with a compiler that others have to make way for. -/
def withRivals : Backend InMemory :=
  InMemory.backend id (fun d _ => d) ⟨.ofList [("llvm", ["gcc", "intel/2023"])], []⟩

/-- A machine on which two versions of one compiler are loaded, one of them twice. -/
def crowded : Machine InMemory :=
  ⟨.ofList [], .empty, [], ⟨["gcc/11", "cmake", "gcc/9", "gcc/11", "intel/2024"], []⟩⟩

theorem loadModule_outcome_crowded :
    ByList withRivals ∧ reportsLoaded (withRivals.loaded crowded) "llvm" = false ∧
      ∃ m', withRivals.loadModule "llvm" true crowded = .ok ["gcc/11", "gcc/9"] m' ∧
        withRivals.loaded m' = ["cmake", "intel/2024", "llvm"] ∧ withRivals.isLoaded m' "llvm" := by
  have hlist : ByList withRivals := byList_inMemory (fun _ _ => rfl) _
  have hmissing : reportsLoaded (withRivals.loaded crowded) "llvm" = false := by decide +kernel
  obtain ⟨-, houtcome⟩ := loadModule_outcome hlist "llvm" crowded
  obtain ⟨hforced, -⟩ := houtcome hmissing
  have hconflicts : withRivals.conflicts "llvm" crowded = .ok ["gcc", "intel/2023"] crowded := rfl
  refine ⟨hlist, hmissing, ?_⟩
  cases hload : withRivals.loadModule "llvm" true crowded with
  | ok out m' =>
    rw [hload] at hforced
    cases hforced with
    | loaded hcs hout hloaded hreported =>
      cases hconflicts.symm.trans hcs
      have hgone : out = ["gcc/11", "gcc/9"] := hout.trans (by decide +kernel)
      refine ⟨m', by rw [hgone], ?_, hreported⟩
      rw [hloaded, hgone]
      decide +kernel
  | error e m' =>
    rw [hload] at hforced
    cases hforced with
    | lookUpFailed hcs => cases hconflicts.symm.trans hcs
    | unloadFailed _ _ hun => cases hun
    | loadFailed hcs hl => cases hl

end SiteRuntime.Backend
