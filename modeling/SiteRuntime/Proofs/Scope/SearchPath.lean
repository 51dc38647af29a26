import SiteRuntime.Proofs.Lmod.SearchPath
import SiteRuntime.Proofs.Runtime.WorkDirectory
import SiteRuntime.Runtime.Guard

/-!
# The search path around a scope

A scope of directories that are searched for modules keeps no image of the search path. It is
entered with one call of the module system and left with the opposite call, and the second undoes
the first only in part. What is taken out are all entries that name one of the directories, also
those that were there before the scope. So the search path comes back just if none of them was
(`LeavesSearchPath.restored_iff`).

Lmod is taken with any command that keeps the search path, as `Lmod.KeepsSearchPath` has it, and
nothing is asked of the search path. It may be missing, name a directory twice, or be no text at
all. In the last case the scope turns it into text, and then entries are found in it which were not
found before (`usePaths_drop`).
-/

namespace SiteRuntime.Guard

open Lmod (IsEntry KeepsSearchPath HasText searchEntries)

variable {μ : Type}

/-- **What a scope leaves of the search path**, from the machine before it and the one after it. -/
structure LeavesSearchPath (b : Backend μ) (paths : List String) (before after : Machine μ) :
    Prop where
  /-- The entries that were there before are there, apart from the directories of the scope. -/
  entries : paths ≠ [] →
    b.searchPath after = ((searchEntries before.env).map Bytes.lossy).filter (· ∉ paths)
  /-- The search path is as it was just if none of the directories was in it. -/
  restored_iff : HasText before.env →
    (b.searchPath after = b.searchPath before ↔ ∀ p ∈ paths, p ∉ b.searchPath before)
  /-- In a search path that is not text nothing was found before, and the entries are found after,
  as they are shown. -/
  restored_iff_of_not_hasText : ¬ HasText before.env →
    (b.searchPath after = b.searchPath before ↔
      paths = [] ∨ ∀ entry ∈ searchEntries before.env, Bytes.lossy entry ∈ paths)

/-- Entering the scope is a call of the module system of the current context. -/
theorem usePaths_eq {rt : Runtime μ} {r : Running μ} (hcurrent : rt.current? = some r)
    (paths : List String) :
    usePaths paths rt =
      match r.context.backend.addPaths paths rt.machine with
      | .ok _ m => .ok (.modules r.context.backend paths) { rt with machine := m }
      | .error e m => .error (.modules e) { rt with machine := m } := by
  have hrunning : Runtime.running rt = .ok r rt := by
    rw [Runtime.running, hcurrent]
  rw [usePaths, Stateful.bind_of_ok hrunning]
  cases h : r.context.backend.addPaths paths rt.machine with
  | ok _ m =>
    have hadded :
        Runtime.onto (EStateM.adaptExcept .modules (r.context.backend.addPaths paths)) rt =
        .ok () { rt with machine := m } := by
      rw [Runtime.onto, EStateM.adaptExcept, h]
    exact Stateful.bind_of_ok hadded
  | error e m =>
    have hadded :
        Runtime.onto (EStateM.adaptExcept .modules (r.context.backend.addPaths paths)) rt =
        .error (.modules e) { rt with machine := m } := by
      rw [Runtime.onto, EStateM.adaptExcept, h]
    exact Stateful.bind_of_error hadded

/-- Leaving it is another call, on the machine as it is by then. -/
theorem machine_drop_modules {b : Backend μ} {rt : Runtime μ} {paths : List String} {m : Machine μ}
    (h : b.removePaths paths rt.machine = .ok () m) :
    ((Guard.modules b paths).drop rt).machine = m := by
  rw [drop, h]

section Lmod

variable {l : Lmod μ} {rt : Runtime μ} {r : Running μ} {paths : List String}

/-- A scope of no directories leaves everything. -/
theorem leavesSearchPath_nil (b : Backend μ) (m : Machine μ) : LeavesSearchPath b [] m m where
  entries h := absurd rfl h
  restored_iff _ := iff_of_true rfl nofun
  restored_iff_of_not_hasText _ := iff_of_true rfl (.inl rfl)

theorem leavesSearchPath_of_ne_nil {before after : Machine μ} (hne : paths ≠ [])
    (hafter : l.backend.searchPath after =
      ((searchEntries before.env).map Bytes.lossy).filter (· ∉ paths)) :
    LeavesSearchPath l.backend paths before after where
  entries _ := hafter
  restored_iff htext := by
    have hbefore : (searchEntries before.env).map Bytes.lossy = l.backend.searchPath before :=
      Lmod.map_lossy_searchEntries htext
    rw [hafter, hbefore, List.filter_eq_self]
    simp only [decide_eq_true_eq]
    exact ⟨fun h p hp hmem => h p hmem hp, fun h p hmem hp => h p hp hmem⟩
  restored_iff_of_not_hasText htext := by
    have hbefore : l.backend.searchPath before = [] := Lmod.pathEntries_of_not_hasText htext
    rw [hafter, hbefore, List.filter_eq_nil_iff, List.forall_mem_map]
    simp [hne]

/-- **Directories searched for a scope.** A scope of directories can be entered just if the command
can be given their names, and dropping its guard leaves the other entries of the search path. -/
theorem usePaths_drop (hl : KeepsSearchPath l.program) (hcurrent : rt.current? = some r)
    (hbackend : r.context.backend = l.backend) (hvalid : rt.machine.env.Valid)
    (hpaths : ∀ p ∈ paths, IsEntry p) :
    ((∃ p ∈ paths, '\x00' ∈ p.toList) → ∃ e, usePaths paths rt = .error e rt) ∧
      ((∀ p ∈ paths, '\x00' ∉ p.toList) →
        ∃ inside, usePaths paths rt = .ok (.modules l.backend paths) inside ∧
          LeavesSearchPath l.backend paths rt.machine
            ((Guard.modules l.backend paths).drop inside).machine) := by
  have henter := usePaths_eq hcurrent paths
  rw [hbackend] at henter
  constructor
  · rintro ⟨p, hp, hnul⟩
    obtain ⟨cause, hcause⟩ := hl.refuses rt.machine ("sh" :: "use" :: paths)
      ⟨p, List.mem_cons_of_mem _ (List.mem_cons_of_mem _ hp), hnul⟩
    have hadd : l.backend.addPaths paths rt.machine =
        .error (.spawn (l.commandLine ("use" :: paths)) cause) rt.machine := by
      have hexecute := Lmod.execute_of_refused hcause
      rwa [← Lmod.executeOn_of_ne_nil l "use" (List.ne_nil_of_mem hp)] at hexecute
    rw [henter, hadd]
    exact ⟨_, rfl⟩
  · intro hnul
    by_cases hne : paths = []
    · -- the command is not called at all
      subst hne
      have hadd : l.backend.addPaths [] rt.machine = .ok () rt.machine := rfl
      rw [henter, hadd]
      exact ⟨_, rfl, leavesSearchPath_nil _ _⟩
    · have hargs : ∀ p ∈ paths, IsEntry p ∧ '\x00' ∉ p.toList := fun p hp =>
        ⟨hpaths p hp, hnul p hp⟩
      obtain ⟨m, hadd, hm, htext, hinside⟩ :=
        Lmod.execute_of_prints (hl.use rt.machine hvalid paths hne hargs) hvalid
      obtain ⟨m', hremove, -, -, hafter⟩ :=
        Lmod.execute_of_prints (hl.unuse m hm paths hne hargs) hm
      rw [← Lmod.executeOn_of_ne_nil l _ hne] at hadd hremove
      have hadd' : l.backend.addPaths paths rt.machine = .ok () m := hadd
      -- the second call finds the search path as the first one has left it
      have hleft := hafter.trans (Lmod.otherEntries_of_added htext hinside)
      rw [henter, hadd']
      refine ⟨_, rfl, ?_⟩
      rw [machine_drop_modules hremove]
      exact leavesSearchPath_of_ne_nil hne hleft

end Lmod

/-- Lmod with a command that keeps the search path. -/
def searchLmod : Lmod Unit := ⟨Bytes.ofText "/opt/lmod", "8.7.32", Lmod.searchCommand⟩

/-- A runtime that uses it, with a search path. -/
def searching (value : Bytes) : Runtime Unit where
  machine := ⟨.ofList [(Lmod.searchVariable, value)], .empty, [], ()⟩
  contexts := [⟨{ Runtime.siteContext with
    system := { Runtime.siteContext.system with backend := searchLmod.backend } }, 0⟩]
  current := some 0

theorem usePaths_drop_addedTwice :
    KeepsSearchPath searchLmod.program ∧
      (searching (Bytes.ofText "/site/modules:/k:/k")).machine.env.Valid ∧
      (∀ p ∈ ["/opt/mine", "/opt/mine"], IsEntry p) ∧
      ∃ guard inside, usePaths ["/opt/mine", "/opt/mine"]
          (searching (Bytes.ofText "/site/modules:/k:/k")) = .ok guard inside ∧
        searchLmod.backend.searchPath (guard.drop inside).machine =
          ["/site/modules", "/k", "/k"] := by
  have hl : KeepsSearchPath searchLmod.program := Lmod.keepsSearchPath_searchCommand
  have hvalid : (searching (Bytes.ofText "/site/modules:/k:/k")).machine.env.Valid := by
    decide +kernel
  have hpaths : ∀ p ∈ ["/opt/mine", "/opt/mine"], IsEntry p := by decide
  have hbefore : searchLmod.backend.searchPath
      (searching (Bytes.ofText "/site/modules:/k:/k")).machine = ["/site/modules", "/k", "/k"] := by
    decide +kernel
  have htext : HasText (searching (Bytes.ofText "/site/modules:/k:/k")).machine.env := fun v hv =>
    ⟨"/site/modules:/k:/k", Option.some.inj (hv.symm.trans (by decide +kernel))⟩
  obtain ⟨inside, henter, hleaves⟩ :=
    (usePaths_drop (r := ⟨_, 0⟩) hl rfl rfl hvalid hpaths).2 (by decide)
  refine ⟨hl, hvalid, hpaths, _, inside, henter, ?_⟩
  rw [← hbefore, hleaves.restored_iff htext, hbefore]
  decide

/-- The search path after a scope, if the scope can be entered. -/
def searchPathAfter (b : Backend μ) (paths : List String) (rt : Runtime μ) : Option (List String) :=
  match usePaths paths rt with
  | .ok guard inside => some (b.searchPath (guard.drop inside).machine)
  | .error _ _ => none

/-- **A search path that is not restored.** A directory that was searched before the scope is not
searched any more after it. Where the search path was not text, directories are found after a scope
that were not found before it. -/
theorem search_path_not_restored :
    KeepsSearchPath searchLmod.program ∧ IsEntry "/a" ∧
      searchLmod.backend.searchPath (searching (Bytes.ofText "/a:/b")).machine = ["/a", "/b"] ∧
      searchPathAfter searchLmod.backend ["/a"] (searching (Bytes.ofText "/a:/b")) = some ["/b"] ∧
      searchLmod.backend.searchPath (searching [0x2f, 0x6b, 0x3a, 0xff]).machine = [] ∧
      searchPathAfter searchLmod.backend ["/a"] (searching [0x2f, 0x6b, 0x3a, 0xff]) =
        some ["/k", "\ufffd"] :=
  ⟨Lmod.keepsSearchPath_searchCommand, by decide, by decide +kernel, by decide +kernel,
    by decide +kernel, by decide +kernel⟩

end SiteRuntime.Guard
