import SiteRuntime.Config.Selection
import SiteRuntime.Machine

/-!
# Changing a configuration in place

The owner of a configuration changes it where it stands. An `Update` may fail, and whatever it
changed before it failed stays changed. A selection asks everything that can fail before it changes
anything, so it agrees with the selection that makes a new configuration (`select_apply`,
`selectMatching_apply`).
-/

namespace SiteRuntime.SiteConfig

/-- A change of a configuration that may fail. -/
abbrev Update (α : Type) := EStateM ConfigError SiteConfig α

namespace Update

/-- A question to the configuration. -/
def asking {α : Type} (question : SiteConfig → Except ConfigError α) : Update α := fun c =>
  match question c with
  | .ok x => .ok x c
  | .error e => .error e c

/-- What follows a question starts from the configuration that was asked. -/
theorem asking_bind {α β : Type} (question : SiteConfig → Except ConfigError α) (f : α → Update β)
    (c : SiteConfig) :
    (asking question >>= f) c =
      match question c with
      | .ok x => f x c
      | .error e => .error e c := by
  cases h : question c with
  | ok x => exact Stateful.bind_of_ok (by rw [asking, h])
  | error e => exact Stateful.bind_of_error (by rw [asking, h])

/-- The configuration replaced by another one, if there is one. -/
def replacing (r : Except ConfigError SiteConfig) : Update Unit := fun c =>
  match r with
  | .ok c' => .ok () c'
  | .error e => .error e c

/-! ### Selections -/

/-- Narrows to a system or to one of its partitions: first what is left of the document is put in
place, then the name of the system. -/
def select (selection : String) : Update Unit := do
  let (system, partition) := splitSelection selection
  let entry ← asking fun c => selectedEntry c.document system partition
  modify fun c => { c with resolved := ConfigDocument.narrowed system entry c.document }
  modify fun c => { c with system := some system }

/-- Narrows to the first system with a pattern that a test accepts for the host name. -/
def selectMatching (test : String → String → Option Bool) (host : String) : Update Unit := do
  let found ← asking fun c => systemMatching (test · host) (ConfigDocument.systems c.document)
  match found with
  | some name => select name
  | none => throw (.systemNotFound host)

/-- Narrows to the system of a host. -/
def selectForHost (host : String) : Update Unit := selectMatching hostMatches? host

/-- Narrows to a system, or without one to the system that a test finds for the host that the
process runs on. The platform either tells the name of that host or why it cannot. -/
def selectForMatching (test : String → String → Option Bool) (hostName : Except String String) :
    Option String → Update Unit
  | some selection => select selection
  | none =>
    match hostName with
    | .ok host => selectMatching test host
    | .error cause => throw (.systemNotFound s!"<unknown host: {cause}>")

/-- Narrows to a system, or without one to the system of the host that the process runs on. -/
def selectFor (hostName : Except String String) (selection : Option String) : Update Unit :=
  selectForMatching hostMatches? hostName selection

theorem select_apply (selection : String) (c : SiteConfig) :
    select selection c = replacing (c.select selection) c := by
  rw [select, SiteConfig.select]
  obtain ⟨system, partition⟩ := splitSelection selection
  dsimp only
  rw [asking_bind]
  cases selectedEntry c.document system partition <;> rfl

theorem selectMatching_apply (test : String → String → Option Bool) (host : String)
    (c : SiteConfig) :
    selectMatching test host c = replacing (c.selectMatching test host) c := by
  rw [selectMatching, asking_bind, SiteConfig.selectMatching]
  cases systemMatching (test · host) (ConfigDocument.systems c.document) with
  | error e => rfl
  | ok found =>
    cases found with
    | none => rfl
    | some name => exact select_apply name c

/-! ### Sticky options -/

/-- Overrides an option. -/
def addSticky (path : String) (value : Json) : Update Unit :=
  modify fun c => c.addSticky path value

/-- Takes the override of an option away and returns its value, if there was one. -/
def removeSticky (path : String) : Update (Option Json) :=
  modifyGet fun c => (c.sticky? path, c.removeSticky path)

end Update

end SiteRuntime.SiteConfig
