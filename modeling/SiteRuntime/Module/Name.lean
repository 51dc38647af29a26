import SiteRuntime.Text.Blank

/-!
# Module names

A module is named `name` or `name/version`. One name designates another if the names are equal and
the versions are not both given and different.
-/

namespace SiteRuntime

/-- The name of a module, perhaps with a version. -/
structure ModuleName where
  /-- The part before the first slash. -/
  name : String
  /-- The part after the first slash, if it is not empty. -/
  version : Option String
  deriving DecidableEq, Repr

namespace ModuleName

/-- The module name that characters write. White space around it does not count. -/
def ofChars (s : List Char) : ModuleName :=
  let s := Text.trim s
  match Text.splitOnce? '/' s with
  | some (name, []) => ⟨String.ofList name, none⟩
  | some (name, version) => ⟨String.ofList name, some (String.ofList version)⟩
  | none => ⟨String.ofList s, none⟩

/-- The module name that a text writes. -/
def ofText (s : String) : ModuleName := ofChars s.toList

/-- The text of a module name. -/
def text (m : ModuleName) : String :=
  match m.version with
  | some version => s!"{m.name}/{version}"
  | none => m.name

instance : ToString ModuleName := ⟨text⟩

/-- Whether one module name designates another. -/
def designates (m n : ModuleName) : Bool :=
  m.name = n.name &&
    match m.version, n.version with
    | some a, some b => a = b
    | _, _ => true

/-- A module name designates itself. -/
@[simp] theorem designates_self (m : ModuleName) : m.designates m := by
  rw [designates, Bool.and_eq_true]
  refine ⟨decide_eq_true rfl, ?_⟩
  cases m.version with
  | none => rfl
  | some v => exact decide_eq_true rfl

end ModuleName

end SiteRuntime
