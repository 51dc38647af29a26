import Mathlib.Data.List.Nodup
import SiteRuntime.Proofs.Activation.Effect
import SiteRuntime.Proofs.Module.Loading

/-!
# Conflicts between modules

A module declares what it conflicts with, and a forced load looks at the declarations of the new
module only: what they designate among the loaded modules is unloaded first. This one-sided check is
enough to keep any two loaded modules from conflicting, in whatever order they came
(`Backend.compatible_foldl`), if declarations are mutual. Nothing more is asked of them. Designation
is not transitive, since it ignores a version that one side leaves open, and two modules of one name
need not conflict.

The invariant is `Backend.Compatible`. What a forced load does to the list of loaded modules is
known for each outcome (`Backend.Forced`), and it comes to this: a success appends the module to
some that it does not conflict with, a failure at any point takes modules away at most. From there
on the invariant is carried through activations by `Stateful.Maintains`.
-/

namespace SiteRuntime

open Stateful (left Maintains Fixes maintains_pure)

variable {μ : Type}

namespace Backend

/-! ### Modules without conflicts -/

/-- **Modules without conflicts**: none is listed twice, and none is designated by a conflict that
is declared for another one. -/
structure Compatible (declared : String → List String) (loaded : List String) : Prop where
  nodup : loaded.Nodup
  apart : ∀ x ∈ loaded, ∀ y ∈ loaded, x ≠ y → isConflict (declared x) y = false

/-- Declarations of which one module designates another just if this one does the first. -/
def Mutual (declared : String → List String) : Prop :=
  ∀ x y, isConflict (declared x) y = isConflict (declared y) x

variable {declared : String → List String} {loaded : List String}

/-- Taking modules away brings no conflict. -/
theorem Compatible.sublist (h : Compatible declared loaded) {kept : List String}
    (hkept : kept.Sublist loaded) : Compatible declared kept where
  nodup := h.nodup.sublist hkept
  apart x hx y hy hne := h.apart x (hkept.subset hx) y (hkept.subset hy) hne

/-- A new module may be appended if its own declarations spare the other ones. -/
theorem Compatible.append_singleton (h : Compatible declared loaded) (hmutual : Mutual declared)
    {x : String} (hnew : x ∉ loaded) (hspares : ∀ y ∈ loaded, isConflict (declared x) y = false) :
    Compatible declared (loaded ++ [x]) where
  nodup := List.nodup_append_comm.1 (List.nodup_cons.2 ⟨hnew, h.nodup⟩)
  apart y hy z hz hne := by
    rw [List.mem_append, List.mem_singleton] at hy hz
    rcases hy with hy | rfl <;> rcases hz with hz | rfl
    · exact h.apart y hy z hz hne
    · -- the new module was not asked about by the old one, but the other way round
      rw [hmutual]
      exact hspares y hy
    · exact hspares z hz
    · exact absurd rfl hne

/-! ### Module systems that keep a list -/

/-- **A module system that keeps a list.** What is loaded is appended, what is unloaded is removed
wherever it is listed, and nothing else changes which modules are loaded. Whether one is loaded is
answered by the list, and conflicts are answered as they are declared. -/
structure Listing (b : Backend μ) (declared : String → List String) : Prop where
  isLoaded_eq : ∀ m name, b.isLoaded m name = reportsLoaded (b.loaded m) name
  conflicts_eq : ∀ {name cs m m'}, b.conflicts name m = .ok cs m' → cs = declared name
  fixes_conflicts : ∀ name, Fixes b.loaded (b.conflicts name)
  loaded_load : ∀ {name m m'}, b.load name m = .ok () m' → b.loaded m' = b.loaded m ++ [name]
  loaded_load_error : ∀ {name e m m'}, b.load name m = .error e m' → b.loaded m' = b.loaded m
  loaded_unload : ∀ {name m m'},
    b.unload name m = .ok () m' → b.loaded m' = (b.loaded m).filter (· ≠ name)
  loaded_unload_error : ∀ {name e m m'}, b.unload name m = .error e m' → b.loaded m' = b.loaded m
  loaded_write : ∀ m ws, b.loaded (m.write ws) = b.loaded m

namespace Listing

variable {b : Backend μ}

/-- What changes the list of loaded modules and how is all that loads have to do with. -/
theorem byList (hb : Listing b declared) : ByList b where
  isLoaded_eq := hb.isLoaded_eq
  fixes_conflicts := hb.fixes_conflicts
  loaded_load := hb.loaded_load
  loaded_load_error := hb.loaded_load_error
  loaded_unload := hb.loaded_unload
  loaded_unload_error := hb.loaded_unload_error

/-- **A forced load that succeeds** either finds the module loaded, or it appends the module to some
of the loaded ones, which did not have it and do not conflict with it. -/
theorem loaded_of_loadModule_eq_ok (hb : Listing b declared) {name : String} {out : List String}
    {m m' : Machine μ} (h : b.loadModule name true m = .ok out m') :
    m' = m ∨ ∃ kept, kept.Sublist (b.loaded m) ∧ name ∉ kept ∧
      (∀ y ∈ kept, isConflict (declared name) y = false) ∧ b.loaded m' = kept ++ [name] := by
  cases hreported : reportsLoaded (b.loaded m) name with
  | true =>
    have hsame := hb.byList.loadModule_of_reported hreported true
    rw [h] at hsame
    cases hsame
    exact .inl rfl
  | false =>
    have hforced := hb.byList.forced_loadModule hreported
    rw [h] at hforced
    cases hforced with
    | loaded hcs hout hloaded =>
      have hkept : ((b.loaded m).filter (· ∉ out)).Sublist (b.loaded m) := List.filter_sublist
      refine .inr ⟨_, hkept, ?_, ?_, hloaded⟩
      · intro hmem
        rw [reportsLoaded_of_mem (hkept.subset hmem)] at hreported
        cases hreported
      · -- all that conflicts has gone
        intro y hy
        obtain ⟨hmem, hstays⟩ := List.mem_filter.1 hy
        rw [← hb.conflicts_eq hcs, Bool.eq_false_iff]
        intro hconflict
        exact of_decide_eq_true hstays (hout ▸ mem_conflicting_iff.2 ⟨hmem, hconflict⟩)

/-- **A forced load that fails** takes some of the loaded modules away at most. -/
theorem sublist_of_loadModule_eq_error (hb : Listing b declared) {name : String} {e : ModuleError}
    {m m' : Machine μ} (h : b.loadModule name true m = .error e m') :
    (b.loaded m').Sublist (b.loaded m) := by
  cases hreported : reportsLoaded (b.loaded m) name with
  | true =>
    have hsame := hb.byList.loadModule_of_reported hreported true
    rw [h] at hsame
    cases hsame
  | false =>
    have hforced := hb.byList.forced_loadModule hreported
    rw [h] at hforced
    cases hforced with
    | lookUpFailed _ hloaded => rw [hloaded]
    | unloadFailed _ _ _ hloaded =>
      rw [hloaded]
      exact List.filter_sublist
    | loadFailed _ _ hloaded =>
      rw [hloaded]
      exact List.filter_sublist

/-- A forced load brings no conflict, whether it fails or not. -/
theorem maintains_loadModule (hb : Listing b declared) (hmutual : Mutual declared) (name : String) :
    Maintains (fun m => Compatible declared (b.loaded m)) (b.loadModule name true) := by
  intro m hm
  cases h : b.loadModule name true m with
  | ok out m' =>
    rcases hb.loaded_of_loadModule_eq_ok h with rfl | ⟨kept, hkept, hnew, hspares, hloaded⟩
    · exact hm
    · rw [left, hloaded]
      exact (hm.sublist hkept).append_singleton hmutual hnew hspares
  | error e m' => exact hm.sublist (hb.sublist_of_loadModule_eq_error h)

end Listing

end Backend

/-! ### Activations -/

namespace Activation

variable {b : Backend μ} {P : Machine μ → Prop}

theorem maintains_loading {α : Type} {environment module : String} {a : Action μ ModuleError α}
    (ha : Maintains P a) : Maintains P (loading environment module a) := by
  intro m hm
  have hleft := ha m hm
  rw [loading, EStateM.adaptExcept]
  cases h : a m <;> rw [h] at hleft <;> exact hleft

variable [Account]

theorem maintains_setVariable (hwrite : ∀ m ws, P m → P (m.write ws))
    (environment name value : String) :
    Maintains P (setVariable environment name value : Action μ RuntimeError Unit) := by
  intro m hm
  rw [setVariable]
  split
  · exact hwrite m _ hm
  · exact hm

/-- **An activation keeps** what forced loads and writes to the process environment keep. -/
theorem maintains_activateAll (hload : ∀ name, Maintains P (b.loadModule name true))
    (hwrite : ∀ m ws, P m → P (m.write ws)) (es : List Environment) :
    Maintains P (activateAll b es) := by
  refine activateAll_of_parts maintains_pure Maintains.bind (fun environment module => ?_)
    (maintains_setVariable hwrite) es
  exact maintains_loading (hload module)

theorem maintains_load (hload : ∀ name, Maintains P (b.loadModule name true))
    (hwrite : ∀ m ws, P m → P (m.write ws)) (es : List Environment) : Maintains P (load b es) :=
  Maintains.bind (fun _ hm => hm) fun _ =>
    (maintains_activateAll hload hwrite es).bind fun _ => maintains_pure _

end Activation

namespace Backend

/-! ### Runs -/

/-- What a module system can be asked for: to load a module by force, or to activate
environments. -/
inductive Demand where
  | load (name : String)
  | activate (es : List Environment)

section Runs

variable [Account]

/-- The machine after a demand, whether it was met or failed. -/
def Demand.after (b : Backend μ) (m : Machine μ) : Demand → Machine μ
  | .load name => left (b.loadModule name true m)
  | .activate es => left (Activation.load b es m)

variable {b : Backend μ} {declared : String → List String}

/-- A demand brings no conflict. -/
theorem compatible_after (hb : Listing b declared) (hmutual : Mutual declared) (d : Demand)
    {m : Machine μ} (h : Compatible declared (b.loaded m)) :
    Compatible declared (b.loaded (d.after b m)) := by
  have hload := hb.maintains_loadModule hmutual
  cases d with
  | load name => exact hload name m h
  | activate es =>
    refine Activation.maintains_load hload (fun m ws hm => ?_) es m h
    rwa [hb.loaded_write]

/-- **Conflicting modules are never loaded together.** With a module system that keeps a list and
mutual declarations, loaded modules without conflicts stay so under all demands, met or failed. -/
theorem compatible_foldl (hb : Listing b declared) (hmutual : Mutual declared)
    (demands : List Demand) {m : Machine μ} (h : Compatible declared (b.loaded m)) :
    Compatible declared (b.loaded (demands.foldl (Demand.after b) m)) := by
  induction demands generalizing m with
  | nil => exact h
  | cons d rest ih => exact ih (compatible_after hb hmutual d h)

end Runs

/-- The compiler that a module conflicts with, in any version of it. -/
def rivalsOf (name : String) : List String :=
  if (ModuleName.ofText name).name = "gcc" then ["intel"]
  else if (ModuleName.ofText name).name = "intel" then ["gcc"]
  else []

theorem isConflict_rivalsOf (x y : String) :
    isConflict (rivalsOf x) y ↔
      (ModuleName.ofText x).name = "gcc" ∧ (ModuleName.ofText y).name = "intel" ∨
        (ModuleName.ofText x).name = "intel" ∧ (ModuleName.ofText y).name = "gcc" := by
  have hgcc : ModuleName.ofText "gcc" = ⟨"gcc", none⟩ := by decide +kernel
  have hintel : ModuleName.ofText "intel" = ⟨"intel", none⟩ := by decide +kernel
  unfold rivalsOf isConflict
  split_ifs with hx hx'
  · simp [hx, hintel, ModuleName.designates, eq_comm]
  · simp [hx', hgcc, ModuleName.designates, eq_comm]
  · simp [hx, hx']

theorem mutual_rivalsOf : Mutual rivalsOf := by
  intro x y
  rw [Bool.eq_iff_iff, isConflict_rivalsOf, isConflict_rivalsOf, or_comm]
  exact or_congr and_comm and_comm

/-- A module system of two compilers that exclude each other, in which one module is missing. -/
def compilers : Backend InMemory :=
  { InMemory.backend id (fun d _ => d) ⟨.ofList [], ["missing"]⟩ with
    conflicts := fun name => pure (rivalsOf name) }

theorem listing_compilers : Listing compilers rivalsOf where
  isLoaded_eq _ _ := rfl
  conflicts_eq h := by
    cases h
    rfl
  fixes_conflicts _ _ := rfl
  loaded_load h := by
    simp only [compilers, InMemory.backend] at h
    split at h
    · cases h
    · cases h
      rfl
  loaded_load_error h := by
    simp only [compilers, InMemory.backend] at h
    split at h
    · cases h
      rfl
    · cases h
  loaded_unload h := by
    cases h
    rfl
  loaded_unload_error h := nomatch h
  loaded_write _ _ := rfl

/-- A run in which one compiler takes the place of the other twice, and of which an activation fails
after that. -/
def swaps : List Demand :=
  [.load "intel/2024", .activate [⟨"build", ["cmake", "gcc/12", "missing"], [("CC", "gcc")]⟩],
    .load "intel"]

attribute [local instance] Account.unlisted

theorem compatible_foldl_swaps :
    Listing compilers rivalsOf ∧ Mutual rivalsOf ∧ Compatible rivalsOf ["gcc/11", "gcc/9"] ∧
      ∃ m, m = swaps.foldl (Demand.after compilers)
          (Activation.withPath ⟨["gcc/11", "gcc/9"], []⟩) ∧
        Compatible rivalsOf (compilers.loaded m) ∧ compilers.loaded m = ["cmake", "intel"] := by
  have hstart : Compatible rivalsOf ["gcc/11", "gcc/9"] :=
    ⟨by decide +kernel, by decide +kernel⟩
  have hrun := compatible_foldl listing_compilers mutual_rivalsOf swaps
    (m := Activation.withPath ⟨["gcc/11", "gcc/9"], []⟩) hstart
  exact ⟨listing_compilers, mutual_rivalsOf, hstart, _, rfl, hrun, by decide +kernel⟩

end Backend

end SiteRuntime
