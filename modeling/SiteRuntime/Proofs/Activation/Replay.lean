import SiteRuntime.Module.InMemory
import SiteRuntime.Activation
import SiteRuntime.Proofs.Environment.Text
import SiteRuntime.Proofs.Expansion.References

/-!
# The commands of an activation

An activation leaves the shell commands that do the same. Here those commands get a meaning of their
own: `Command.ofText?` reads one back from its text, `Command.run` carries it out on a machine, and
`replay` does so with a list of them. `replay_commands_load` says that from the machine before the
activation they lead to the machine that the activation left, with its process environment, its
loaded modules and whatever else a module system changes.

The activation does more than the commands say, and each difference needs an argument:

* A module that is loaded already is recorded all the same. Its command then finds it loaded and
  does nothing.
* A module that is loaded anew was not loaded before its conflicts were unloaded. Its command looks
  only after that, so unloading must not have made it loaded; this is what
  `Backend.Recordable.loaded_unload` is for, and it is the reason for carrying along that the loaded
  modules only get fewer (`replay_unloadConflicts`).
* A value is recorded as it was written and expanded when its turn comes. The environment is then
  the one that it was expanded in the first time, because everything before it has been replayed.
* An assignment is read back up to its first `=`, which is where the name ends, since names with an
  `=` are refused.
-/

namespace SiteRuntime.Activation

variable {μ : Type}

/-! ### Commands -/

/-- A command that an activation records. -/
inductive Command where
  | load (module : String)
  | unload (module : String)
  | assign (name value : String)
  deriving DecidableEq, Repr

namespace Command

/-- The text of a command. -/
def text : Command → String
  | .load module => "module load " ++ module
  | .unload module => "module unload " ++ module
  | .assign name value => exportCommand name value

/-- The command that a text writes. -/
def ofText? (s : String) : Option Command :=
  match Text.dropStart? "module load ".toList s.toList with
  | some module => some (.load (String.ofList module))
  | none =>
    match Text.dropStart? "module unload ".toList s.toList with
    | some module => some (.unload (String.ofList module))
    | none => do
      let assignment ← Text.dropStart? "export ".toList s.toList
      let (name, value) ← Text.splitOnce? '=' assignment
      return .assign (String.ofList name) (String.ofList value)

theorem ofText?_load (module : String) : ofText? (text (.load module)) = some (.load module) := by
  have h : Text.dropStart? "module load ".toList (text (.load module)).toList =
      some module.toList := by
    rw [Text.dropStart?_eq_some_iff, text, String.toList_append]
  simp only [ofText?, h, String.ofList_toList]

theorem ofText?_unload (module : String) :
    ofText? (text (.unload module)) = some (.unload module) := by
  have hnot : Text.dropStart? "module load ".toList (text (.unload module)).toList = none := by
    rw [text, String.toList_append]
    rfl
  have h : Text.dropStart? "module unload ".toList (text (.unload module)).toList =
      some module.toList := by
    rw [Text.dropStart?_eq_some_iff, text, String.toList_append]
  simp only [ofText?, hnot, h, String.ofList_toList]

/-- A name ends at the first `=` if it holds none. -/
theorem ofText?_assign {name : String} (value : String) (h : '=' ∉ name.toList) :
    ofText? (text (.assign name value)) = some (.assign name value) := by
  have htext : (text (.assign name value)).toList =
      "export ".toList ++ (name.toList ++ '=' :: value.toList) := by
    have hparts : text (.assign name value) = "export " ++ name ++ "=" ++ value := rfl
    simp [hparts]
  have hload : Text.dropStart? "module load ".toList (text (.assign name value)).toList = none := by
    rw [htext]
    rfl
  have hunload : Text.dropStart? "module unload ".toList (text (.assign name value)).toList =
      none := by
    rw [htext]
    rfl
  have hexport : Text.dropStart? "export ".toList (text (.assign name value)).toList =
      some (name.toList ++ '=' :: value.toList) := Text.dropStart?_eq_some_iff.2 htext
  have hsplit : Text.splitOnce? '=' (name.toList ++ '=' :: value.toList) =
      some (name.toList, value.toList) := Text.splitOnce?_eq_some_iff.2 ⟨rfl, h⟩
  simp only [ofText?, hload, hunload, hexport, hsplit, Option.bind_eq_bind, Option.bind_some,
    String.ofList_toList]
  rfl

/-- The machine that an action leaves if it succeeds. -/
def outcome? (a : Action μ ModuleError Unit) (m : Machine μ) : Option (Machine μ) :=
  match a m with
  | .ok _ m' => some m'
  | .error _ _ => none

theorem outcome?_eq_some_iff {a : Action μ ModuleError Unit} {m m' : Machine μ} :
    outcome? a m = some m' ↔ a m = .ok () m' := by
  rw [outcome?]
  cases a m <;> simp

end Command

/-! ### Modules -/

/-- **What replaying asks of a module system.** Its commands are those of the shell, it answers by
the list of its loaded modules, and its operations do not reach into what they are not about. -/
structure Recordable (b : Backend μ) : Prop where
  /-- One command loads a module. -/
  loadCommands_eq : ∀ x, b.loadCommands x = [(Command.load x).text]
  /-- One command unloads a module. -/
  unloadCommands_eq : ∀ x, b.unloadCommands x = [(Command.unload x).text]
  /-- A module is found by its name among the loaded ones. -/
  isLoaded_eq : ∀ m x, b.isLoaded m x = Backend.reportsLoaded (b.loaded m) x
  /-- Looking conflicts up changes nothing. -/
  conflicts_reads : ∀ {x cs m m'}, b.conflicts x m = .ok cs m' → m' = m
  /-- Unloading loads nothing. -/
  loaded_unload : ∀ {x m m'}, b.unload x m = .ok () m' → b.loaded m' ⊆ b.loaded m

/-- The module system in memory is one of them, wherever in the store it is kept. -/
theorem recordable_inMemory {read : μ → InMemory} {put : InMemory → μ → μ}
    (hput : ∀ d s, read (put d s) = d) (s : InMemory.Setup) :
    Recordable (InMemory.backend read put s) where
  loadCommands_eq _ := rfl
  unloadCommands_eq _ := rfl
  isLoaded_eq _ _ := rfl
  conflicts_reads h := by
    cases h
    rfl
  loaded_unload h := by
    cases h
    simp only [InMemory.backend, hput]
    exact List.filter_sublist.subset

/-! ### Replaying -/

section Replay

variable [Account]

/-- What a command does. A module is loaded unless it is loaded already; a value is expanded in the
environment as it is. -/
def Command.run (b : Backend μ) : Command → Machine μ → Option (Machine μ)
  | .load module, m => if b.isLoaded m module then some m else Command.outcome? (b.load module) m
  | .unload module, m => Command.outcome? (b.unload module) m
  | .assign name value, m =>
    let w := Write.set (Bytes.ofText name) (Bytes.ofText (m.env.expand value))
    if w.Valid then some (m.write [w]) else none

/-- Carries out commands in order, from their texts. There is no result if one cannot be read or
fails. -/
def replay (b : Backend μ) : List String → Machine μ → Option (Machine μ)
  | [], m => some m
  | text :: rest, m => do
    let command ← Command.ofText? text
    let m ← command.run b m
    replay b rest m

@[simp] theorem replay_nil (b : Backend μ) (m : Machine μ) : replay b [] m = some m := rfl

/-- What is replayed first is where the rest starts. -/
theorem replay_append (b : Backend μ) (first rest : List String) (m : Machine μ) :
    replay b (first ++ rest) m = (replay b first m).bind (replay b rest) := by
  induction first generalizing m with
  | nil => rfl
  | cons text first ih =>
    rw [List.cons_append, replay, replay]
    cases Command.ofText? text with
    | none => rfl
    | some command =>
      cases h : command.run b m with
      | none => simp [h]
      | some m' => simpa [h] using ih m'

theorem replay_append_of_eq_some {b : Backend μ} {first rest : List String} {m m₁ m' : Machine μ}
    (hfirst : replay b first m = some m₁) (hrest : replay b rest m₁ = some m') :
    replay b (first ++ rest) m = some m' := by
  rw [replay_append, hfirst, Option.bind_some, hrest]

theorem replay_singleton {b : Backend μ} {command : Command} {m : Machine μ}
    (h : Command.ofText? command.text = some command) :
    replay b [command.text] m = command.run b m := by
  simp [replay, h]

/-- What was unloaded is unloaded again, and there are no more loaded modules than before. -/
theorem replay_unloadConflicts {b : Backend μ} (hb : Recordable b)
    {conflicts ls unloaded out : List String} {m m' : Machine μ}
    (h : b.unloadConflicts conflicts ls unloaded m = .ok out m') :
    ∃ more, out = unloaded ++ more ∧ replay b (more.flatMap b.unloadCommands) m = some m' ∧
      b.loaded m' ⊆ b.loaded m := by
  -- on the modules that were loaded at first; the machine is generalised, as it loses some of them
  induction ls generalizing unloaded m with
  | nil =>
    cases h
    exact ⟨[], (List.append_nil _).symm, rfl, List.Subset.refl _⟩
  | cons l ls ih =>
    rcases Backend.unloadConflicts_cons_eq_ok_iff.1 h with ⟨m₁, -, hun, h⟩ | ⟨-, h⟩
    · obtain ⟨more, rfl, hreplay, hsub⟩ := ih h
      have hl : replay b (b.unloadCommands l) m = some m₁ := by
        rw [hb.unloadCommands_eq, replay_singleton (Command.ofText?_unload l)]
        exact Command.outcome?_eq_some_iff.2 hun
      refine ⟨l :: more, by rw [List.append_assoc, List.singleton_append], ?_, ?_⟩
      · rw [List.flatMap_cons]
        exact replay_append_of_eq_some hl hreplay
      · exact List.Subset.trans hsub (hb.loaded_unload hun)
    · exact ih h

/-- Whether the commands recorded for a module do what loading it did. -/
def ReplaysModules (b : Backend μ) : Prop :=
  ∀ {name : String} {unloaded : List String} {m m' : Machine μ},
    b.loadModule name true m = .ok unloaded m' →
      replay b (moduleCommands b name unloaded) m = some m'

/-- Without a module system nothing is loaded and nothing recorded. -/
theorem replaysModules_noModules : ReplaysModules (Backend.noModules : Backend μ) := by
  intro name unloaded m m' h
  rcases Backend.loadModule_eq_ok_iff.1 h with ⟨-, rfl, rfl⟩ | ⟨h, -⟩
  · rfl
  · cases h

theorem replaysModules_of_recordable {b : Backend μ} (hb : Recordable b) : ReplaysModules b := by
  intro name unloaded m m' h
  have hload : ∀ m, replay b (b.loadCommands name) m = (Command.load name).run b m := fun m => by
    rw [hb.loadCommands_eq, replay_singleton (Command.ofText?_load name)]
  rw [moduleCommands]
  rcases Backend.loadModule_eq_ok_iff.1 h with ⟨hl, rfl, rfl⟩ | ⟨hl, cs, m₁, m₂, hcs, hun, hld⟩
  · -- recorded although it was loaded; replaying finds it loaded too
    rw [List.flatMap_nil, List.nil_append, hload, Command.run, if_pos hl]
  · obtain rfl := hb.conflicts_reads hcs
    obtain ⟨more, rfl, hreplay, hsub⟩ := replay_unloadConflicts hb hun
    refine replay_append_of_eq_some hreplay ?_
    -- the command asks once more after the conflicts have gone, and unloading cannot have made the
    -- module loaded
    have hl₂ : b.isLoaded m₂ name = false := by
      rw [hb.isLoaded_eq] at hl ⊢
      refine Bool.eq_false_iff.2 fun hl₂ => ?_
      rw [Backend.reportsLoaded_mono hsub hl₂] at hl
      cases hl
    rw [hload, Command.run, if_neg (Bool.eq_false_iff.1 hl₂)]
    exact Command.outcome?_eq_some_iff.2 hld

/-! ### Environments -/

theorem replay_loadModules {b : Backend μ} (hb : ReplaysModules b) {environment : String}
    {modules commands : List String} {m m' : Machine μ}
    (h : loadModules b environment modules m = .ok commands m') :
    replay b commands m = some m' := by
  induction modules generalizing m commands with
  | nil =>
    cases h
    rfl
  | cons module rest ih =>
    obtain ⟨unloaded, m₁, more, hload, hmore, rfl⟩ := loadModules_cons_eq_ok_iff.1 h
    exact replay_append_of_eq_some (hb hload) (ih hmore)

/-- A variable that was set is set again to the same value in the same environment. -/
theorem replay_setVariable {b : Backend μ} {environment name value : String} {m m' : Machine μ}
    (h : setVariable environment name value m = .ok () m') :
    replay b [exportCommand name value] m = some m' := by
  obtain ⟨hn, hv, rfl⟩ := setVariable_eq_ok_iff.1 h
  have hname := isVariableName_iff.1 hn
  have hequals : '=' ∉ name.toList := fun he => hname.2.1 (equals_mem_ofText_iff.2 he)
  have hread := replay_singleton (b := b) (m := m) (Command.ofText?_assign value hequals)
  rw [Command.text] at hread
  rw [hread, Command.run]
  exact if_pos ⟨hname, isVariableValue_iff.1 hv⟩

theorem replay_setVariables {b : Backend μ} {environment : String}
    {assignments : List (String × String)} {commands : List String} {m m' : Machine μ}
    (h : setVariables environment assignments m = .ok commands m') :
    replay b commands m = some m' := by
  induction assignments generalizing m commands with
  | nil =>
    cases h
    rfl
  | cons x rest ih =>
    obtain ⟨m₁, more, hset, hmore, rfl⟩ := setVariables_cons_eq_ok_iff.1 h
    have hfirst : replay b [exportCommand x.1 x.2] m = some m₁ := replay_setVariable hset
    exact replay_append_of_eq_some hfirst (ih hmore)

theorem replay_activate {b : Backend μ} (hb : ReplaysModules b) {e : Environment}
    {commands : List String} {m m' : Machine μ} (h : activate b e m = .ok commands m') :
    replay b commands m = some m' := by
  obtain ⟨modules, m₁, assignments, hload, hset, rfl⟩ := activate_eq_ok_iff.1 h
  exact replay_append_of_eq_some (replay_loadModules hb hload) (replay_setVariables hset)

theorem replay_activateAll {b : Backend μ} (hb : ReplaysModules b) {es : List Environment}
    {commands : List String} {m m' : Machine μ} (h : activateAll b es m = .ok commands m') :
    replay b commands m = some m' := by
  induction es generalizing m commands with
  | nil =>
    cases h
    rfl
  | cons e rest ih =>
    obtain ⟨first, m₁, more, hfirst, hmore, rfl⟩ := activateAll_cons_eq_ok_iff.1 h
    exact replay_append_of_eq_some (replay_activate hb hfirst) (ih hmore)

/-- **The commands do what the activation did.** Whatever the machine was and whatever the
environments are, the commands of a successful activation lead from the machine before it to the
machine after it. -/
theorem replay_commands_load {b : Backend μ} (hb : b = .noModules ∨ Recordable b)
    {es : List Environment} {loaded : Loaded} {m m' : Machine μ}
    (h : load b es m = .ok loaded m') : replay b loaded.commands m = some m' := by
  have hmodules : ReplaysModules b := by
    rcases hb with rfl | hb
    · exact replaysModules_noModules
    · exact replaysModules_of_recordable hb
  exact replay_activateAll hmodules (load_eq_ok_iff.1 h).2

end Replay

/-- A module system in which `gcc` conflicts with `intel`. -/
def twoCompilers : Backend InMemory :=
  InMemory.backend id (fun d _ => d) ⟨.ofList [("gcc", ["intel"])], []⟩

/-- A machine on which `intel/19` is loaded. -/
def withIntel : Machine InMemory :=
  ⟨.ofList [(Bytes.ofText "PATH", Bytes.ofText "/bin")], .empty, [], ⟨["intel/19"], []⟩⟩

/-- An environment that changes the compiler. -/
def gnu : Environment := ⟨"gnu", ["gcc"], [("PATH", "/opt/gcc:$PATH"), ("CACHE", "~/cache")]⟩

attribute [local instance] Account.listed

/-- With a conflict to resolve, a value that refers to what it replaces, and one in the home
directory. -/
theorem replay_commands_load_twoCompilers :
    ∃ loaded m', load twoCompilers [gnu] withIntel = .ok loaded m' ∧
      loaded.commands = ["module unload intel/19", "module load gcc",
        "export PATH=/opt/gcc:$PATH", "export CACHE=~/cache"] ∧
      replay twoCompilers loaded.commands withIntel = some m' ∧
      m'.env.text? "CACHE" = some "/home/me/cache" := by
  have hrecordable : Recordable twoCompilers := recordable_inMemory (fun _ _ => rfl) _
  have hleft : (match load twoCompilers [gnu] withIntel with
      | .ok loaded m' => (loaded.commands, m'.env.text? "CACHE")
      | .error _ _ => ([], none)) =
        (["module unload intel/19", "module load gcc", "export PATH=/opt/gcc:$PATH",
          "export CACHE=~/cache"], some "/home/me/cache") := by decide +kernel
  cases h : load twoCompilers [gnu] withIntel with
  | ok loaded m' =>
    rw [h] at hleft
    obtain ⟨hcommands, hcache⟩ := Prod.mk.inj hleft
    exact ⟨loaded, m', rfl, hcommands, replay_commands_load (.inr hrecordable) h, hcache⟩
  | error e m' =>
    rw [h] at hleft
    cases (Prod.mk.inj hleft).1

end SiteRuntime.Activation
