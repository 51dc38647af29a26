import SiteRuntime.Module.InMemory
import SiteRuntime.Proofs.Activation.Assignments
import SiteRuntime.Runtime.Loading

/-!
# What an activation achieves

After an environment has been activated one expects to find it loaded: all its modules reported, all
its variables holding their values. But activating goes step by step while looking takes place at
the end, so what comes later may undo or blur what came before. `not_isLoaded_after_load` has the
ways in which it does:

* A value that refers to its own variable, or to one that is assigned later, expands to something
  else at the end. So it is for a search path that is put in front of the old one.
* A variable that is assigned twice with different values has only the last of them.
* A module unloads what conflicts with it, and that may be an earlier module of the environment.
* A module system may drop a module on its own when it works on another one, or keep what is loaded
  in variables that the environment assigns.

Where nothing of this happens the expectation is met, in every runtime and for every module system
(`isLoaded_after_load`). Modules and variables are dealt with apart. For the modules the invariant
is that all modules loaded so far are reported, carried along the run by `Undisturbed`. For the
variables the induction goes from the front: a variable that is not assigned again keeps its value,
and what its value reads is not assigned again either (`holds_assigned_of_steady`).
-/

namespace SiteRuntime

namespace Activation

variable {μ : Type}

/-! ### Reported modules -/

/-- **A module system that keeps what it loads**, also when the given variables are assigned. It
answers by the list of its loaded modules. -/
structure Keeping (b : Backend μ) (assignments : List (String × String)) : Prop where
  /-- A module is found by its name among the loaded ones. -/
  isLoaded_eq : ∀ m x, b.isLoaded m x = Backend.reportsLoaded (b.loaded m) x
  /-- What is loaded is added to the loaded modules. -/
  loaded_load : ∀ {x m m'}, b.load x m = .ok () m' → x ∈ b.loaded m' ∧ b.loaded m ⊆ b.loaded m'
  /-- Nothing but the module is unloaded. -/
  loaded_unload : ∀ {x m m'}, b.unload x m = .ok () m' → ∀ l ∈ b.loaded m, l ≠ x → l ∈ b.loaded m'
  /-- Looking conflicts up unloads nothing. -/
  loaded_conflicts : ∀ {x cs m m'}, b.conflicts x m = .ok cs m' → b.loaded m ⊆ b.loaded m'
  /-- The loaded modules are not kept in the variables. -/
  loaded_write : ∀ m, ∀ a ∈ assignments, ∀ v,
    b.loaded m ⊆ b.loaded (m.write [.set (Bytes.ofText a.1) v])

/-- The module system in memory is one of them, whatever the variables are. -/
theorem keeping_inMemory {read : μ → InMemory} {put : InMemory → μ → μ}
    (hput : ∀ d s, read (put d s) = d) (s : InMemory.Setup)
    (assignments : List (String × String)) :
    Keeping (InMemory.backend read put s) assignments where
  isLoaded_eq _ _ := rfl
  loaded_load {x m m'} h := by
    simp only [InMemory.backend] at h
    split at h
    · cases h
    · cases h
      simp [InMemory.backend, hput]
  loaded_unload h := by
    cases h
    simp only [InMemory.backend, hput]
    exact fun l hl hne => List.mem_filter.2 ⟨hl, decide_eq_true hne⟩
  loaded_conflicts h := by
    cases h
    exact List.Subset.refl _
  loaded_write _ _ _ _ := List.Subset.refl _

/-- What was not unloaded stays loaded. -/
theorem mem_loaded_unloadConflicts {b : Backend μ} {assignments : List (String × String)}
    (hb : Keeping b assignments) {conflicts ls unloaded out : List String} {m m' : Machine μ}
    (h : b.unloadConflicts conflicts ls unloaded m = .ok out m') :
    unloaded ⊆ out ∧ ∀ l ∈ b.loaded m, l ∉ out → l ∈ b.loaded m' := by
  induction ls generalizing unloaded m with
  | nil =>
    cases h
    exact ⟨List.Subset.refl _, fun l hl _ => hl⟩
  | cons x ls ih =>
    rcases Backend.unloadConflicts_cons_eq_ok_iff.1 h with ⟨m₁, -, hun, h⟩ | ⟨-, h⟩
    · obtain ⟨hsub, hkept⟩ := ih h
      refine ⟨fun l hl => hsub (List.mem_append_left _ hl), fun l hl hout => ?_⟩
      refine hkept l (hb.loaded_unload hun l hl ?_) hout
      -- what is unloaded now is in the result
      rintro rfl
      exact hout (hsub (List.mem_append_right _ (List.mem_singleton.2 rfl)))
    · exact ih h

/-- A module that is loaded is reported, and only what was unloaded for it has gone. -/
theorem isLoaded_loadModule {b : Backend μ} {assignments : List (String × String)}
    (hb : Keeping b assignments) {x : String} {unloaded : List String} {m m' : Machine μ}
    (h : b.loadModule x true m = .ok unloaded m') :
    b.isLoaded m' x ∧ ∀ l ∈ b.loaded m, l ∉ unloaded → l ∈ b.loaded m' := by
  rcases Backend.loadModule_eq_ok_iff.1 h with ⟨hl, -, rfl⟩ | ⟨-, cs, m₁, m₂, hcs, hun, hld⟩
  · exact ⟨hl, fun l hl _ => hl⟩
  · obtain ⟨hmem, hsub⟩ := hb.loaded_load hld
    refine ⟨hb.isLoaded_eq m' x ▸ Backend.reportsLoaded_of_mem hmem, fun l hl hout => ?_⟩
    exact hsub ((mem_loaded_unloadConflicts hb hun).2 l (hb.loaded_conflicts hcs hl) hout)

/-- A module stays reported if nothing that it designates is unloaded. -/
theorem isLoaded_of_kept {b : Backend μ} {assignments : List (String × String)}
    (hb : Keeping b assignments) {y : String} {unloaded : List String} {m m' : Machine μ}
    (hy : b.isLoaded m y) (hun : ∀ l ∈ unloaded, Backend.reportsLoaded [l] y = false)
    (hkept : ∀ l ∈ b.loaded m, l ∉ unloaded → l ∈ b.loaded m') : b.isLoaded m' y := by
  rw [hb.isLoaded_eq] at hy ⊢
  obtain ⟨l, hl, hd⟩ := List.any_eq_true.1 hy
  refine List.any_eq_true.2 ⟨l, hkept l hl fun hout => ?_, hd⟩
  have hreported : Backend.reportsLoaded [l] y :=
    List.any_eq_true.2 ⟨l, List.mem_singleton.2 rfl, hd⟩
  rw [hun l hout] at hreported
  cases hreported

/-- Loading the modules `rest` in order from a machine unloads nothing that a module before
designates, be it one of `before` or one of `rest`. -/
def Undisturbed (b : Backend μ) : List String → List String → Machine μ → Prop
  | _, [], _ => True
  | before, x :: rest, m =>
    match b.loadModule x true m with
    | .ok unloaded m' =>
      (∀ y ∈ before, ∀ l ∈ unloaded, Backend.reportsLoaded [l] y = false) ∧
        Undisturbed b (before ++ [x]) rest m'
    | .error _ _ => True

theorem undisturbed_cons_of_ok {b : Backend μ} {before rest unloaded : List String} {x : String}
    {m m' : Machine μ} (h : b.loadModule x true m = .ok unloaded m') :
    Undisturbed b before (x :: rest) m ↔
      (∀ y ∈ before, ∀ l ∈ unloaded, Backend.reportsLoaded [l] y = false) ∧
        Undisturbed b (before ++ [x]) rest m' := by
  rw [Undisturbed, h]

instance Undisturbed.decidable (b : Backend μ) :
    ∀ before rest m, Decidable (Undisturbed b before rest m)
  | _, [], _ => isTrue trivial
  | before, x :: rest, m =>
    match h : b.loadModule x true m with
    | .ok _ m' =>
      have := Undisturbed.decidable b (before ++ [x]) rest m'
      decidable_of_iff _ (undisturbed_cons_of_ok h).symm
    | .error _ _ => isTrue (by rw [Undisturbed, h]; trivial)

/-- Modules that were reported before stay so, and all that are loaded after them are reported. -/
theorem isLoaded_loadModules {b : Backend μ} {assignments : List (String × String)}
    (hb : Keeping b assignments) {environment : String} {before modules commands : List String}
    {m m' : Machine μ} (hun : Undisturbed b before modules m)
    (hbefore : ∀ y ∈ before, b.isLoaded m y)
    (h : loadModules b environment modules m = .ok commands m') :
    ∀ y ∈ before ++ modules, b.isLoaded m' y := by
  -- on the modules that are left; those loaded so far are collected in `before`
  induction modules generalizing before m commands with
  | nil =>
    cases h
    rwa [List.append_nil]
  | cons x rest ih =>
    obtain ⟨unloaded, m₁, more, hload, hmore, rfl⟩ := loadModules_cons_eq_ok_iff.1 h
    obtain ⟨hkeep, hrest⟩ := (undisturbed_cons_of_ok hload).1 hun
    obtain ⟨hx, hkept⟩ := isLoaded_loadModule hb hload
    have hbefore₁ : ∀ y ∈ before ++ [x], b.isLoaded m₁ y := by
      intro y hy
      rcases List.mem_append.1 hy with hy | hy
      · exact isLoaded_of_kept hb (hbefore y hy) (hkeep y hy) hkept
      · exact List.mem_singleton.1 hy ▸ hx
    have hall := ih hrest hbefore₁ hmore
    rwa [List.append_assoc, List.singleton_append] at hall

/-! ### Variables -/

/-- **Assignments that stay true.** No value reads its own variable or one that is assigned later,
and a variable that is assigned again is assigned the same. -/
def Steady (assignments : List (String × String)) : Prop :=
  (∀ a ∈ assignments, Bytes.ofText a.1 ∉ ProcessEnv.reads a.2) ∧
    assignments.Pairwise fun a later =>
      Bytes.ofText later.1 ∉ ProcessEnv.reads a.2 ∧ (later.1 = a.1 → later.2 = a.2)

instance (assignments : List (String × String)) : Decidable (Steady assignments) :=
  inferInstanceAs (Decidable (_ ∧ _))

section

variable [Account]

/-- After assignments that stay true each of them holds. -/
theorem holds_assigned_of_steady {assignments : List (String × String)} (hs : Steady assignments)
    (hnames : ∀ a ∈ assignments, isVariableName a.1) (e : ProcessEnv) :
    ∀ a ∈ assignments, holds (e.assigned assignments) a.1 a.2 := by
  -- from the front: the rest leaves the first variable alone, or assigns it the same
  induction assignments generalizing e with
  | nil => exact fun a ha => nomatch ha
  | cons a rest ih =>
    obtain ⟨hself, hlater⟩ := hs
    obtain ⟨hfirst, hpairs⟩ := List.pairwise_cons.1 hlater
    have hrest := ih ⟨fun x hx => hself x (List.mem_cons_of_mem _ hx), hpairs⟩
      (fun x hx => hnames x (List.mem_cons_of_mem _ hx))
      (e.set (Bytes.ofText a.1) (Bytes.ofText (e.expand a.2)))
    intro x hx
    rcases List.mem_cons.1 hx with rfl | hx
    · by_cases hagain : ∃ y ∈ rest, y.1 = x.1
      · -- the later assignment says the same
        obtain ⟨y, hy, hyx⟩ := hagain
        have hsame : y = x := Prod.ext hyx ((hfirst y hy).2 hyx)
        exact hrest x (hsame ▸ hy)
      · -- nothing that is assigned later is the variable or is read by its value
        exact holds_assigned (hnames x List.mem_cons_self) (fun y hy hyx => hagain ⟨y, hy, hyx⟩)
          (hself x List.mem_cons_self) fun y hy => (hfirst y hy).1
    · exact hrest x hx

/-- Setting variables unloads nothing where modules are not kept in them. -/
theorem loaded_setVariables {b : Backend μ} {assignments : List (String × String)}
    (hb : Keeping b assignments) {environment : String} {rest : List (String × String)}
    {commands : List String} {m m' : Machine μ} (hsub : rest ⊆ assignments)
    (h : setVariables environment rest m = .ok commands m') : b.loaded m ⊆ b.loaded m' := by
  induction rest generalizing m commands with
  | nil =>
    cases h
    exact List.Subset.refl _
  | cons a rest ih =>
    obtain ⟨m₁, more, hset, hmore, rfl⟩ := setVariables_cons_eq_ok_iff.1 h
    obtain ⟨-, -, rfl⟩ := setVariable_eq_ok_iff.1 hset
    have hfirst := hb.loaded_write m a (hsub List.mem_cons_self) (Bytes.ofText (m.env.expand a.2))
    have hmost := ih (fun x hx => hsub (List.mem_cons_of_mem _ hx)) hmore
    exact List.Subset.trans hfirst hmost

/-! ### Environments -/

/-- **What keeps an environment loaded** that is activated on a machine: either there is no module
system, or it keeps what it loads and no module is unloaded for a later one. -/
def KeepsModules (b : Backend μ) (e : Environment) (m : Machine μ) : Prop :=
  b = .noModules ∨ Keeping b e.assignments ∧ Undisturbed b [] e.modules m

theorem all_isLoaded_activate {b : Backend μ} {e : Environment} {commands : List String}
    {m m' : Machine μ} (hb : KeepsModules b e m) (h : activate b e m = .ok commands m') :
    ∀ x ∈ e.modules, b.isLoaded m' x := by
  obtain ⟨modules, m₁, assignments, hload, hset, rfl⟩ := activate_eq_ok_iff.1 h
  rcases hb with rfl | ⟨hb, hun⟩
  · exact fun x hx => rfl
  · intro x hx
    have hx₁ := isLoaded_loadModules hb hun (fun y hy => nomatch hy) hload x hx
    rw [hb.isLoaded_eq] at hx₁ ⊢
    exact Backend.reportsLoaded_mono (loaded_setVariables hb (List.Subset.refl _) hset) hx₁

theorem isLoaded_activate {b : Backend μ} {e : Environment} {commands : List String}
    {m m' : Machine μ} (hb : KeepsModules b e m) (hs : Steady e.assignments)
    (h : activate b e m = .ok commands m') : isLoaded b m' e := by
  rw [isLoaded, Bool.and_eq_true, List.all_eq_true, List.all_eq_true]
  refine ⟨all_isLoaded_activate hb h, ?_⟩
  obtain ⟨modules, m₁, assignments, -, hset, rfl⟩ := activate_eq_ok_iff.1 h
  obtain ⟨hassignable, rfl, -⟩ := setVariables_eq_ok_iff.1 hset
  exact holds_assigned_of_steady hs hassignable.isVariableName m₁.env

/-- **An environment is loaded after it was activated.** -/
theorem isLoaded_after_load {b : Option (Backend μ)} {e : Environment} {loaded : Loaded}
    {rt rt' : Runtime μ}
    (hb : ∀ found, Runtime.backend b rt = .ok found rt → KeepsModules found e rt.machine)
    (hs : Steady e.assignments) (h : Runtime.load b [e] rt = .ok loaded rt') :
    Runtime.isLoaded b e rt' = .ok true rt' := by
  obtain ⟨found, m, hfound, hload, rfl⟩ := Runtime.load_eq_ok_iff.1 h
  obtain ⟨first, m₁, more, hfirst, hmore, hcommands⟩ :=
    activateAll_cons_eq_ok_iff.1 (load_eq_ok_iff.1 hload).2
  cases hmore
  have hloaded : isLoaded found m e := isLoaded_activate (hb found hfound) hs hfirst
  rw [Runtime.isLoaded, Stateful.bind_of_ok (Runtime.backend_withMachine hfound m),
    Stateful.get_bind, hloaded]
  rfl

end

/-- A module system in which `intel` conflicts with `gcc`. -/
def rivals : Backend InMemory :=
  InMemory.backend id (fun d _ => d) ⟨.ofList [("intel", ["gcc"])], []⟩

/-- A machine with a search path for programs. -/
def withPath (store : μ) : Machine μ :=
  ⟨.ofList [(Bytes.ofText "PATH", Bytes.ofText "/bin")], .empty, [], store⟩

/-- An environment of which the first module has a conflict with what is loaded and the second value
reads the first variable. -/
def intelTools : Environment :=
  ⟨"intel", ["intel", "cmake"], [("ROOT", "~/intel"), ("CC", "$ROOT/bin/icc")]⟩

section

attribute [local instance] Account.listed

theorem isLoaded_after_load_intelTools :
    ∃ loaded rt', Runtime.load (some rivals) [intelTools] (.onMachine (withPath ⟨["gcc/12"], []⟩)) =
        .ok loaded rt' ∧
      KeepsModules rivals intelTools (withPath ⟨["gcc/12"], []⟩) ∧
      Steady intelTools.assignments ∧
      Runtime.isLoaded (some rivals) intelTools rt' = .ok true rt' := by
  have hkeeps : KeepsModules rivals intelTools (withPath ⟨["gcc/12"], []⟩) :=
    .inr ⟨keeping_inMemory (fun _ _ => rfl) _ _, by decide +kernel⟩
  have hsteady : Steady intelTools.assignments := by decide +kernel
  have hok : (match Runtime.load (some rivals) [intelTools]
      (.onMachine (withPath ⟨["gcc/12"], []⟩)) with
      | .ok _ _ => true
      | .error _ _ => false) = true := by decide +kernel
  cases h : Runtime.load (some rivals) [intelTools] (.onMachine (withPath ⟨["gcc/12"], []⟩)) with
  | ok loaded rt' =>
    refine ⟨loaded, rt', rfl, hkeeps, hsteady, isLoaded_after_load ?_ hsteady h⟩
    intro found hfound
    cases hfound
    exact hkeeps
  | error e rt' =>
    rw [h] at hok
    cases hok

end

/-! ### Environments that are not loaded -/

/-- A module system that adds what it loads and removes what it unloads, and of which no more is
known. -/
structure Nominal (b : Backend μ) : Prop where
  mem_load : ∀ {x m m'}, b.load x m = .ok () m' → x ∈ b.loaded m'
  notMem_unload : ∀ {x m m'}, b.unload x m = .ok () m' → x ∉ b.loaded m'

theorem nominal_rivals : Nominal rivals where
  mem_load h := ((keeping_inMemory (fun _ _ => rfl) _ []).loaded_load h).1
  notMem_unload h := by
    cases h
    simp [rivals, InMemory.backend]

/-- A module system that reports no module. -/
def silent : Backend InMemory := { rivals with isLoaded := fun _ _ => false }

theorem nominal_silent : Nominal silent := ⟨nominal_rivals.mem_load, nominal_rivals.notMem_unload⟩

/-- A module system that drops all modules when one is loaded. -/
def single : Backend InMemory :=
  { rivals with load := fun x m => .ok () { m with store := ⟨[x], []⟩ } }

theorem nominal_single : Nominal single where
  mem_load h := by
    cases h
    exact List.mem_singleton.2 rfl
  notMem_unload := nominal_rivals.notMem_unload

/-- A module system that drops all modules when one is unloaded. -/
def clearing : Backend InMemory :=
  { rivals with unload := fun _ m => .ok () { m with store := ⟨[], []⟩ } }

theorem nominal_clearing : Nominal clearing where
  mem_load := nominal_rivals.mem_load
  notMem_unload h := by
    cases h
    exact List.not_mem_nil

/-- A module system that drops all modules when it is asked for conflicts. -/
def forgetful : Backend InMemory :=
  { rivals with conflicts := fun _ m => .ok [] { m with store := ⟨[], []⟩ } }

theorem nominal_forgetful : Nominal forgetful :=
  ⟨nominal_rivals.mem_load, nominal_rivals.notMem_unload⟩

/-- A module system that keeps the one loaded module in a variable. -/
def inVariable : Backend InMemory :=
  let loaded := fun m => (m.env.text? "LOADED").toList
  { rivals with
    loaded
    load := fun x m => .ok () (m.write [.set (Bytes.ofText "LOADED") (Bytes.ofText x)])
    unload := fun _ m => .ok () (m.write [.unset (Bytes.ofText "LOADED")])
    isLoaded := fun m x => Backend.reportsLoaded (loaded m) x }

theorem nominal_inVariable : Nominal inVariable where
  mem_load h := by
    cases h
    exact Option.mem_toList.2 (ProcessEnv.text?_of_value? rfl (ProcessEnv.value?_set_self ..))
  notMem_unload {x m m'} h := by
    cases h
    intro hx
    have hvalue : (m.env.unset (Bytes.ofText "LOADED")).text? "LOADED" = some x :=
      Option.mem_toList.1 hx
    rw [ProcessEnv.text?, ProcessEnv.read?_eq_value? (by decide), ProcessEnv.value?_unset_self]
      at hvalue
    cases hvalue

attribute [local instance] Account.unlisted

/-- Whether activating an environment succeeds and leaves it not loaded. -/
def misses (b : Backend μ) (e : Environment) (m : Machine μ) : Bool :=
  match Runtime.load (some b) [e] (.onMachine m) with
  | .ok _ rt =>
    match Runtime.isLoaded (some b) e rt with
    | .ok found _ => !found
    | .error _ _ => false
  | .error _ _ => false

/-- **Activated and not loaded.** One case for each condition of `Steady`, of `Undisturbed` and of
`Keeping`. -/
theorem not_isLoaded_after_load :
    misses .noModules ⟨"own", [], [("PATH", "/opt/bin:$PATH")]⟩ (withPath ()) ∧
      misses .noModules ⟨"later", [], [("A", "$B"), ("B", "1")]⟩ (withPath ()) ∧
      misses .noModules ⟨"again", [], [("A", "1"), ("A", "2")]⟩ (withPath ()) ∧
      (Nominal rivals ∧
        misses rivals ⟨"conflict", ["gcc", "intel"], []⟩ (withPath ⟨[], []⟩)) ∧
      (Nominal silent ∧ misses silent ⟨"one", ["gcc"], []⟩ (withPath ⟨[], []⟩)) ∧
      (Nominal single ∧ misses single ⟨"two", ["gcc", "cmake"], []⟩ (withPath ⟨[], []⟩)) ∧
      (Nominal clearing ∧
        misses clearing ⟨"two", ["cmake", "intel"], []⟩ (withPath ⟨["gcc"], []⟩)) ∧
      (Nominal forgetful ∧
        misses forgetful ⟨"two", ["gcc", "cmake"], []⟩ (withPath ⟨[], []⟩)) ∧
      (Nominal inVariable ∧
        misses inVariable ⟨"state", ["gcc"], [("LOADED", "none")]⟩ (withPath ⟨[], []⟩)) := by
  refine ⟨?_, ?_, ?_, ⟨nominal_rivals, ?_⟩, ⟨nominal_silent, ?_⟩, ⟨nominal_single, ?_⟩,
    ⟨nominal_clearing, ?_⟩, ⟨nominal_forgetful, ?_⟩, ⟨nominal_inVariable, ?_⟩⟩ <;>
    decide +kernel

end Activation

end SiteRuntime
