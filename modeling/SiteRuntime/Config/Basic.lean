import SiteRuntime.Config.Defaults
import SiteRuntime.Config.Document
import SiteRuntime.Environment
import SiteRuntime.FileTree.Basic
import SiteRuntime.Json.Reader

/-!
# Site configurations

A `SiteConfig` is a checked document, what is left of it for the selected system, and options that
override it. An option is looked up in three layers: what was made sticky, what the narrowed
document holds, and the built-in defaults.
-/

namespace SiteRuntime

/-- The configuration of a site, perhaps narrowed to one system. -/
structure SiteConfig where
  /-- The file that it was read from. -/
  source : Option Path
  /-- The whole document. -/
  document : Json
  /-- What is left of the document for the selected system. -/
  resolved : Json
  /-- The name of the selected system. -/
  system : Option String
  /-- Values that override the document. -/
  sticky : SortedMap OptionKey Json

namespace SiteConfig

/-! ### Building a configuration -/

/-- The configuration of a document that has not been checked. -/
def unchecked (document : Json) : SiteConfig := ⟨none, document, document, none, ∅⟩

/-- The configuration of a document. -/
def ofDocument (document : Json) : Except ConfigError SiteConfig :=
  match ConfigDocument.flaw? document with
  | some flaw => .error (.invalid flaw)
  | none => .ok (unchecked document)

/-- The configuration in a file. -/
def load (files : FileTree) (cwd : Position) (path : Path) : Except ConfigError SiteConfig :=
  match files.textContent cwd path with
  | .error cause => .error (.unreadable path cause)
  | .ok content =>
    match Json.read? content with
    | none => .error (.unparsable path)
    | some document => (ofDocument document).map fun c => { c with source := some path }

/-- The configuration of a site without one. -/
def generic : SiteConfig := unchecked ConfigDocument.generic

/-! ### Sticky options -/

/-- The configuration with an option overridden. -/
def addSticky (c : SiteConfig) (path : String) (value : Json) : SiteConfig :=
  { c with sticky := c.sticky.insert (.ofPath path) value }

/-- The value that overrides an option. -/
def sticky? (c : SiteConfig) (path : String) : Option Json := c.sticky.get? (.ofPath path)

/-- The configuration without an override of an option. -/
def removeSticky (c : SiteConfig) (path : String) : SiteConfig :=
  { c with sticky := c.sticky.erase (.ofPath path) }

theorem sticky?_addSticky (c : SiteConfig) (p q : String) (v : Json) :
    (c.addSticky p v).sticky? q =
      if OptionKey.ofPath q = OptionKey.ofPath p then some v else c.sticky? q :=
  SortedMap.get?_insert ..

theorem sticky?_removeSticky (c : SiteConfig) (p q : String) :
    (c.removeSticky p).sticky? q =
      if OptionKey.ofPath q = OptionKey.ofPath p then none else c.sticky? q :=
  SortedMap.get?_erase ..

/-! ### Options -/

/-- The value that the narrowed document holds for an option; null is no value. -/
def configured? (c : SiteConfig) (path : String) : Option Json :=
  (c.resolved.at? (pathSegments path)).filter fun v => !v.isNull

/-- The value of an option. -/
def get (c : SiteConfig) (path : String) : Except ConfigError Json :=
  match c.sticky? path <|> c.configured? path <|> (OptionKey.ofPath path).default? with
  | some value => .ok value
  | none => .error (.optionNotFound path)

/-- The value of an option as text; null is no text. -/
def getText (c : SiteConfig) (path : String) : Except ConfigError (Option String) := do
  match ← c.get path with
  | .null => return none
  | .string s => return some s
  | .number n => return some n.text
  | .bool b => return some (if b then "true" else "false")
  | _ => throw (.invalidOption path .text)

/-- The value of an option as a list of texts; null is the empty list. -/
def getTexts (c : SiteConfig) (path : String) : Except ConfigError (List String) := do
  match ← c.get path with
  | .null => return []
  | .array items =>
    match items.mapM Json.text? with
    | some texts => return texts
    | none => throw (.invalidOption path .texts)
  | _ => throw (.invalidOption path .texts)

/-- The value of an option as a list of pairs of texts. -/
def getPairs (c : SiteConfig) (path : String) :
    Except ConfigError (List (String × String)) := do
  match Json.decodePairs (← c.get path) with
  | .ok pairs => return pairs
  | .error _ => throw (.invalidOption path .pairs)

/-! ### Environments -/

/-- The names of the environments that are left, in order. -/
def environmentNames (c : SiteConfig) : List String :=
  (ConfigDocument.environments c.resolved).filterMap (Json.textAt? "name")

/-- The environment of a name. -/
def environment (c : SiteConfig) (name : String) : Except ConfigError Environment :=
  match (ConfigDocument.environments c.resolved).find? (ConfigDocument.isNamed name) with
  | none => .error (.environmentNotFound name)
  | some entry => (Environment.ofJson entry).mapError (.invalidEnvironment name)

end SiteConfig

end SiteRuntime
