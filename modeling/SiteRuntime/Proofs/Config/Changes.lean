import SiteRuntime.Config.Update

/-!
# Runs of changes of a configuration

A configuration is narrowed, again and again, and has options overridden in between. `Change` is one
such step, `run` what a list of them leaves behind, failed ones included. How a pattern is matched
with the name of a host is left open: a selection by host brings a test of its own.

What a selection does is decided by the document alone: `Change.pick?` is the system and the entry
that it picks there, or why it fails. `Change.update_cases` says once what a change can do to a
configuration, and everything else is derived from it. In particular the document itself never
changes (`Change.document_after`), so each selection of a run picks as it would have at the start.
-/

namespace SiteRuntime.SiteConfig

/-! ### Changes -/

/-- A change of a configuration. -/
inductive Change where
  /-- Narrows to a system or a partition, or to the system that a test finds for the host, if its
  name can be told. -/
  | selectFor (test : String → String → Option Bool) (hostName : Except String String)
    (selection : Option String)
  /-- Narrows to the system that a test finds for a given host. -/
  | selectForHost (test : String → String → Option Bool) (host : String)
  /-- Overrides an option. -/
  | add (path : String) (value : Json)
  /-- Takes the override of an option away. -/
  | remove (path : String)

namespace Change

/-- What a change does. The removal of an override answers with its value. -/
def update : Change → Update (Option Json)
  | .selectFor test hostName selection => do
    Update.selectForMatching test hostName selection
    return none
  | .selectForHost test host => do
    Update.selectMatching test host
    return none
  | .add path value => do
    Update.addSticky path value
    return none
  | .remove path => Update.removeSticky path

/-- The configuration after a change, which may have failed. -/
def after (x : Change) (c : SiteConfig) : SiteConfig :=
  match x.update c with
  | .ok _ c' => c'
  | .error _ c' => c'

/-- Whether a change succeeds. -/
def succeeds (x : Change) (c : SiteConfig) : Bool :=
  match x.update c with
  | .ok _ _ => true
  | .error _ _ => false

/-- Whether a change is a selection. -/
def isSelection : Change → Bool
  | .selectFor .. | .selectForHost .. => true
  | .add .. | .remove _ => false

end Change

/-- The configuration after a run of changes. -/
def run (changes : List Change) (c : SiteConfig) : SiteConfig :=
  changes.foldl (fun c x => x.after c) c

@[simp] theorem run_nil (c : SiteConfig) : run [] c = c := rfl

@[simp] theorem run_cons (x : Change) (rest : List Change) (c : SiteConfig) :
    run (x :: rest) c = run rest (x.after c) := rfl

theorem run_append_singleton (changes : List Change) (x : Change) (c : SiteConfig) :
    run (changes ++ [x]) c = x.after (run changes c) := by
  rw [run, List.foldl_append, List.foldl_cons, List.foldl_nil, run]

/-! ### What a selection picks -/

/-- The system and the entry that a selection by name picks in a document. -/
def pickNamed (document : Json) (selection : String) : Except ConfigError (String × Json) :=
  let (system, partition) := splitSelection selection
  (selectedEntry document system partition).map fun entry => (system, entry)

/-- The system and the entry that a selection by host picks in a document, told the test. -/
def pickMatching (document : Json) (test : String → String → Option Bool) (host : String) :
    Except ConfigError (String × Json) := do
  match ← systemMatching (test · host) (ConfigDocument.systems document) with
  | some name => pickNamed document name
  | none => throw (.systemNotFound host)

/-- The configuration narrowed to what a selection picked. -/
def narrowTo (c : SiteConfig) (picked : String × Json) : SiteConfig :=
  { c with
    resolved := ConfigDocument.narrowed picked.1 picked.2 c.document
    system := some picked.1 }

theorem select_eq_map (c : SiteConfig) (selection : String) :
    c.select selection = (pickNamed c.document selection).map c.narrowTo := by
  rw [select, pickNamed]
  obtain ⟨system, partition⟩ := splitSelection selection
  dsimp only
  cases selectedEntry c.document system partition <;> rfl

theorem selectMatching_eq_map (c : SiteConfig) (test : String → String → Option Bool)
    (host : String) :
    c.selectMatching test host = (pickMatching c.document test host).map c.narrowTo := by
  rw [selectMatching, pickMatching]
  cases systemMatching (test · host) (ConfigDocument.systems c.document) with
  | error e => rfl
  | ok found =>
    cases found with
    | none => rfl
    | some name => exact select_eq_map c name

/-- The system and the entry that a change picks in a document, if it is a selection. -/
def Change.pick? (document : Json) : Change → Option (Except ConfigError (String × Json))
  | .selectFor _ _ (some selection) => some (pickNamed document selection)
  | .selectFor test (.ok host) none => some (pickMatching document test host)
  | .selectFor _ (.error cause) none =>
    some (.error (.systemNotFound s!"<unknown host: {cause}>"))
  | .selectForHost test host => some (pickMatching document test host)
  | .add .. | .remove _ => none

/-! ### What a change does -/

/-- Narrows the configuration to what a selection picked; if it picked nothing, it fails. -/
def settle (picked : Except ConfigError (String × Json)) : Update (Option Json) := fun c =>
  match picked with
  | .ok found => .ok none (c.narrowTo found)
  | .error e => .error e c

theorem settle_of_replacing {u : Update Unit} {picked : Except ConfigError (String × Json)}
    {c : SiteConfig} (hu : u c = Update.replacing (picked.map c.narrowTo) c) :
    (do u; return none : Update (Option Json)) c = settle picked c := by
  cases picked with
  | ok found => exact Stateful.bind_of_ok hu
  | error e => exact Stateful.bind_of_error hu

/-- A selection does what it picked, whichever way it was asked for. -/
theorem Change.update_of_isSelection {x : Change} (hx : x.isSelection) (c : SiteConfig) :
    ∃ picked, x.pick? c.document = some picked ∧ x.update c = settle picked c := by
  have hhost : ∀ test host, Update.selectMatching test host c =
      Update.replacing ((pickMatching c.document test host).map c.narrowTo) c :=
    fun test host => by rw [Update.selectMatching_apply, selectMatching_eq_map]
  have hnamed : ∀ selection, Update.select selection c =
      Update.replacing ((pickNamed c.document selection).map c.narrowTo) c := fun selection => by
    rw [Update.select_apply, select_eq_map]
  match x, hx with
  | .selectForHost test host, _ => exact ⟨_, rfl, settle_of_replacing (hhost test host)⟩
  | .selectFor _ _ (some selection), _ => exact ⟨_, rfl, settle_of_replacing (hnamed selection)⟩
  | .selectFor test (.ok host) none, _ => exact ⟨_, rfl, settle_of_replacing (hhost test host)⟩
  | .selectFor _ (.error cause) none, _ => exact ⟨_, rfl, rfl⟩

/-- **One change.** It overrides an option, or takes an override away, or is a selection, which
changes everything it changes at once or nothing at all. -/
theorem Change.update_cases (x : Change) (c : SiteConfig) :
    (∃ path value, x = .add path value ∧ x.update c = .ok none (c.addSticky path value)) ∨
      (∃ path, x = .remove path ∧ x.update c = .ok (c.sticky? path) (c.removeSticky path)) ∨
      (∃ picked, x.isSelection ∧ x.pick? c.document = some (.ok picked) ∧
        x.update c = .ok none (c.narrowTo picked)) ∨
      ∃ e, x.isSelection ∧ x.pick? c.document = some (.error e) ∧ x.update c = .error e c := by
  by_cases hx : x.isSelection
  · obtain ⟨picked, hp, h⟩ := x.update_of_isSelection hx c
    cases picked with
    | ok found => exact .inr (.inr (.inl ⟨found, hx, hp, h⟩))
    | error e => exact .inr (.inr (.inr ⟨e, hx, hp, h⟩))
  · match x, hx with
    | .add path value, _ => exact .inl ⟨path, value, rfl, rfl⟩
    | .remove path, _ => exact .inr (.inl ⟨path, rfl, rfl⟩)
    | .selectFor .., hx => exact absurd rfl hx
    | .selectForHost .., hx => exact absurd rfl hx

theorem Change.after_of_ok {x : Change} {c c' : SiteConfig} {answer : Option Json}
    (h : x.update c = .ok answer c') : x.after c = c' := by rw [after, h]

theorem Change.after_of_error {x : Change} {c c' : SiteConfig} {e : ConfigError}
    (h : x.update c = .error e c') : x.after c = c' := by rw [after, h]

/-- No change touches the document. -/
theorem Change.document_after (x : Change) (c : SiteConfig) :
    (x.after c).document = c.document := by
  rcases x.update_cases c with ⟨_, _, -, h⟩ | ⟨_, -, h⟩ | ⟨_, -, -, h⟩ | ⟨_, -, -, h⟩
  · rw [after_of_ok h]; rfl
  · rw [after_of_ok h]; rfl
  · rw [after_of_ok h]; rfl
  · rw [after_of_error h]

/-! ### Configurations nothing was done to -/

/-- How a configuration comes about. -/
inductive Fresh : SiteConfig → Prop
  | ofDocument {document : Json} {c : SiteConfig} : ofDocument document = .ok c → Fresh c
  | load {files : FileTree} {cwd : Position} {path : Path} {c : SiteConfig} :
    load files cwd path = .ok c → Fresh c
  | generic : Fresh generic

/-- Nothing of a valid document has been cut away, no system is selected, no option overridden. -/
structure Untouched (c : SiteConfig) : Prop where
  valid : ConfigDocument.flaw? c.document = none
  resolved : c.resolved = c.document
  system : c.system = none
  sticky : c.sticky = ∅

theorem untouched_of_ofDocument {document : Json} {c : SiteConfig}
    (h : SiteConfig.ofDocument document = .ok c) : Untouched c := by
  rw [SiteConfig.ofDocument] at h
  cases hf : ConfigDocument.flaw? document with
  | some flaw => rw [hf] at h; cases h
  | none =>
    rw [hf] at h
    cases h
    exact ⟨hf, rfl, rfl, rfl⟩

theorem Fresh.untouched {c : SiteConfig} (h : Fresh c) : Untouched c := by
  cases h with
  | ofDocument h => exact untouched_of_ofDocument h
  | load h =>
    rename_i files cwd path
    rw [SiteConfig.load] at h
    split at h
    · cases h
    · split at h
      · cases h
      · rename_i document _
        cases hd : SiteConfig.ofDocument document with
        | error e => rw [hd] at h; cases h
        | ok c' =>
          rw [hd] at h
          cases h
          obtain ⟨hv, hr, hs, hk⟩ := untouched_of_ofDocument hd
          exact ⟨hv, hr, hs, hk⟩
  | generic => exact ⟨by decide +kernel, rfl, rfl, rfl⟩

end SiteRuntime.SiteConfig
