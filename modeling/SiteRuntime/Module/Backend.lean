import SiteRuntime.Machine
import SiteRuntime.Module.Error
import SiteRuntime.Module.Name

/-!
# Module systems

A `Backend` is a module system as the runtime uses it: a record of its primitive operations. Two
operations are derived from the primitives for every backend. `Backend.reportsLoaded` finds a
module among the loaded ones by name; a backend may answer the question differently in its field
`isLoaded`. `Backend.loadModule` loads a module and, if asked to, first unloads what conflicts with
it; it returns what it unloaded.
-/

namespace SiteRuntime

/-- A module system over machines with a store of type `μ`. -/
structure Backend (μ : Type) where
  /-- The name of the module system in configurations. -/
  name : String
  /-- The version of the module system, if known. -/
  version : Option String
  /-- The loaded modules in the order of their loading. -/
  loaded : Machine μ → List String
  /-- The modules declared to conflict with a module. -/
  conflicts : String → Action μ ModuleError (List String)
  /-- Loads a module without regard to conflicts. -/
  load : String → Action μ ModuleError Unit
  /-- Unloads a module. -/
  unload : String → Action μ ModuleError Unit
  /-- Shell commands that load a module. -/
  loadCommands : String → List String
  /-- Shell commands that unload a module. -/
  unloadCommands : String → List String
  /-- The directories searched for modules. -/
  searchPath : Machine μ → List String
  /-- Puts directories in front of the search path. -/
  addPaths : List String → Action μ ModuleError Unit
  /-- Takes directories out of the search path. -/
  removePaths : List String → Action μ ModuleError Unit
  /-- Whether a module counts as loaded. -/
  isLoaded : Machine μ → String → Bool

namespace Backend

variable {μ : Type}

/-- Whether a name designates one of a list of loaded modules. -/
def reportsLoaded (loaded : List String) (name : String) : Bool :=
  loaded.any fun l => (ModuleName.ofText name).designates (ModuleName.ofText l)

/-- Whether some of a list of conflicts designates a loaded module. -/
def isConflict (conflicts : List String) (loaded : String) : Bool :=
  conflicts.any fun c => (ModuleName.ofText c).designates (ModuleName.ofText loaded)

/-- Unloads what conflicts among the given loaded modules, each module once, and adds it to what
has been unloaded already. -/
def unloadConflicts (b : Backend μ) (conflicts : List String) :
    List String → List String → Action μ ModuleError (List String)
  | [], unloaded => pure unloaded
  | l :: rest, unloaded =>
    if isConflict conflicts l && !unloaded.contains l then do
      b.unload l
      unloadConflicts b conflicts rest (unloaded ++ [l])
    else unloadConflicts b conflicts rest unloaded

/-- Loads a module unless it is loaded already. With `force` the loaded modules that conflict with
it are unloaded first. The result is what was unloaded. -/
def loadModule (b : Backend μ) (name : String) (force : Bool) :
    Action μ ModuleError (List String) := do
  if b.isLoaded (← get) name then return []
  let unloaded ←
    if force then do
      let conflicts ← b.conflicts name
      b.unloadConflicts conflicts (b.loaded (← get)) []
    else pure []
  b.load name
  return unloaded

/-- With more modules loaded no fewer names are reported. -/
theorem reportsLoaded_mono {loaded loaded' : List String} (h : loaded ⊆ loaded') {name : String}
    (hl : reportsLoaded loaded name) : reportsLoaded loaded' name := by
  rw [reportsLoaded, List.any_eq_true] at hl ⊢
  obtain ⟨l, hmem, hd⟩ := hl
  exact ⟨l, h hmem, hd⟩

theorem reportsLoaded_of_mem {loaded : List String} {name : String} (h : name ∈ loaded) :
    reportsLoaded loaded name :=
  List.any_eq_true.2 ⟨name, h, ModuleName.designates_self _⟩

/-! ### What success means -/

/-- A conflict is unloaded when its turn comes, unless a module of that name was before. -/
theorem unloadConflicts_cons_eq_ok_iff {b : Backend μ} {conflicts rest unloaded out : List String}
    {l : String} {m m' : Machine μ} :
    b.unloadConflicts conflicts (l :: rest) unloaded m = .ok out m' ↔
      (∃ m₁, (isConflict conflicts l && !unloaded.contains l) ∧ b.unload l m = .ok () m₁ ∧
        b.unloadConflicts conflicts rest (unloaded ++ [l]) m₁ = .ok out m') ∨
      ((isConflict conflicts l && !unloaded.contains l) = false ∧
        b.unloadConflicts conflicts rest unloaded m = .ok out m') := by
  rw [unloadConflicts]
  cases hl : isConflict conflicts l && !unloaded.contains l with
  | true =>
    simp only [if_true, true_and, Bool.true_eq_false, false_and, or_false]
    rw [Stateful.bind_eq_ok_iff]
    exact ⟨fun ⟨_, m₁, h⟩ => ⟨m₁, h⟩, fun ⟨m₁, h⟩ => ⟨⟨⟩, m₁, h⟩⟩
  | false => simp

/-- A forced load either finds the module loaded, or unloads what conflicts and then loads it. -/
theorem loadModule_eq_ok_iff {b : Backend μ} {name : String} {unloaded : List String}
    {m m' : Machine μ} :
    b.loadModule name true m = .ok unloaded m' ↔
      (b.isLoaded m name ∧ unloaded = [] ∧ m' = m) ∨
      (b.isLoaded m name = false ∧ ∃ cs m₁ m₂, b.conflicts name m = .ok cs m₁ ∧
        b.unloadConflicts cs (b.loaded m₁) [] m₁ = .ok unloaded m₂ ∧
        b.load name m₂ = .ok () m') := by
  rw [loadModule, Stateful.get_bind]
  cases hl : b.isLoaded m name with
  | true =>
    simp only [if_true, Bool.true_eq_false, true_and, false_and, or_false]
    exact ⟨fun h => by cases h; exact ⟨rfl, rfl⟩, fun ⟨hu, hm⟩ => by rw [hu, hm]; rfl⟩
  | false =>
    simp only [if_true, Bool.false_eq_true, if_false, false_and, false_or, true_and]
    constructor
    · intro h
      obtain ⟨cs, m₁, hcs, h⟩ := Stateful.bind_eq_ok_iff.1 h
      rw [Stateful.get_bind] at h
      obtain ⟨out, m₂, hun, h⟩ := Stateful.bind_eq_ok_iff.1 h
      obtain ⟨⟨⟩, m₃, hload, h⟩ := Stateful.bind_eq_ok_iff.1 h
      cases h
      exact ⟨cs, m₁, m₂, hcs, hun, hload⟩
    · rintro ⟨cs, m₁, m₂, hcs, hun, hload⟩
      rw [Stateful.bind_of_ok hcs, Stateful.get_bind, Stateful.bind_of_ok hun,
        Stateful.bind_of_ok hload]
      rfl

/-- A forced load fails where looking up conflicts, unloading them, or loading does. -/
theorem loadModule_eq_error_iff {b : Backend μ} {name : String} {e : ModuleError}
    {m m' : Machine μ} :
    b.loadModule name true m = .error e m' ↔
      b.isLoaded m name = false ∧ (b.conflicts name m = .error e m' ∨
        ∃ cs m₁, b.conflicts name m = .ok cs m₁ ∧
          (b.unloadConflicts cs (b.loaded m₁) [] m₁ = .error e m' ∨
            ∃ unloaded m₂, b.unloadConflicts cs (b.loaded m₁) [] m₁ = .ok unloaded m₂ ∧
              b.load name m₂ = .error e m')) := by
  rw [loadModule, Stateful.get_bind]
  cases hl : b.isLoaded m name with
  | true =>
    simp only [if_true, Bool.true_eq_false, false_and, iff_false]
    exact fun h => nomatch h
  | false =>
    have hload : ∀ (unloaded : List String) m₂,
        (b.load name >>= fun _ => pure unloaded) m₂ = .error e m' ↔
          b.load name m₂ = .error e m' := by
      intro unloaded m₂
      rw [Stateful.bind_eq_error_iff]
      constructor
      · rintro (h | ⟨_, _, _, hpure⟩)
        · exact h
        · cases hpure
      · exact .inl
    simp only [if_true, Bool.false_eq_true, if_false, true_and]
    rw [Stateful.bind_eq_error_iff]
    simp only [Stateful.get_bind, Stateful.bind_eq_error_iff, hload]

end Backend

/-- The module system of systems without one: every operation does nothing, and every module counts
as loaded. -/
def Backend.noModules {μ : Type} : Backend μ where
  name := "nomod"
  version := none
  loaded := fun _ => []
  conflicts := fun _ => pure []
  load := fun _ => pure ()
  unload := fun _ => pure ()
  loadCommands := fun _ => []
  unloadCommands := fun _ => []
  searchPath := fun _ => []
  addPaths := fun _ => pure ()
  removePaths := fun _ => pure ()
  isLoaded := fun _ _ => true

end SiteRuntime
