import SiteRuntime.Bytes
import SiteRuntime.OsError
import SiteRuntime.Path
import SiteRuntime.SortedMap

/-!
# Trees of directories and files

A `FileTree` maps the absolute position of every directory and file, as the list of names from the
root, to what stands there; the root itself is always a directory. Keeping full positions instead
of nested directories makes statements about "everything below" statements about list prefixes.

`FileTree.locate` follows a path the way the platform does, name by name: every step on the way has
to be an existing directory, `..` leads back to where the walk came from, and a name or path that
is too long is refused when it is reached.
-/

namespace SiteRuntime

/-- What stands at a position. -/
inductive Entry where
  | directory
  | file (content : Bytes) (executable : Bool)
  deriving DecidableEq, Repr

/-- Whether an entry is a directory. -/
def Entry.isDirectory : Entry → Bool
  | .directory => true
  | .file _ _ => false

/-- A position in a tree: the names from the root. -/
abbrev Position := List String

/-- A tree of directories and files. -/
structure FileTree where
  /-- Everything but the root, by position. -/
  entries : SortedMap Position Entry
  deriving DecidableEq

namespace FileTree

/-- The tree of an empty root. -/
def empty : FileTree := ⟨∅⟩

instance : Inhabited FileTree := ⟨empty⟩

/-- What stands at a position. -/
def find? (t : FileTree) (p : Position) : Option Entry :=
  if p = [] then some .directory else t.entries.get? p

/-- Whether a directory stands at a position. -/
def isDirectory (t : FileTree) (p : Position) : Bool := t.find? p = some .directory

/-- The tree with an entry at a position. -/
def put (t : FileTree) (p : Position) (e : Entry) : FileTree := ⟨t.entries.insert p e⟩

/-- The tree without the entry at a position. -/
def erase (t : FileTree) (p : Position) : FileTree := ⟨t.entries.erase p⟩

/-- The tree without anything strictly below a position. -/
def clear (t : FileTree) (p : Position) : FileTree :=
  ⟨t.entries.filter fun q _ => !(p.isPrefixOf q && q ≠ p)⟩

/-- Whether nothing stands below a position. -/
def isEmptyBelow (t : FileTree) (p : Position) : Bool :=
  t.entries.entries.all fun e => !(p.isPrefixOf e.1 && e.1 ≠ p)

@[simp] theorem find?_root (t : FileTree) : t.find? [] = some .directory := rfl

theorem find?_put {t : FileTree} {p q : Position} {e : Entry} (hq : q ≠ []) :
    (t.put p e).find? q = if q = p then some e else t.find? q := by
  simp [find?, put, hq, SortedMap.get?_insert]

theorem find?_put_of_ne {t : FileTree} {p q : Position} (h : q ≠ p) (e : Entry) :
    (t.put p e).find? q = t.find? q := by
  by_cases hq : q = []
  · rw [hq, find?_root, find?_root]
  · rw [find?_put hq, if_neg h]

theorem find?_erase {t : FileTree} {p q : Position} (hq : q ≠ []) :
    (t.erase p).find? q = if q = p then none else t.find? q := by
  simp [find?, erase, hq, SortedMap.get?_erase]

theorem find?_clear {t : FileTree} {p q : Position} (hq : q ≠ []) :
    (t.clear p).find? q = if p.isPrefixOf q ∧ q ≠ p then none else t.find? q := by
  simp only [find?, clear, hq, if_false, SortedMap.get?_filter]
  cases t.entries.get? q with
  | none => simp
  | some e => by_cases h : p.isPrefixOf q <;> by_cases hp : q = p <;> simp [Option.filter, h, hp]

/-! ### Following paths -/

/-- The greatest length of a name in bytes. -/
def maxName : Nat := 255

/-- The length in bytes from which a path is too long. -/
def maxPath : Nat := 4096

/-- Whether a name is too long to stand in a directory. -/
def isLongName (name : String) : Bool := maxName < name.utf8ByteSize

/-- The step a part of a path asks for at a directory. -/
def enter (t : FileTree) (at_ : Position) (name : String) : Except OsError Position :=
  if name = "." then .ok at_
  else if name = ".." then .ok at_.dropLast
  else if isLongName name then .error .nameTooLong
  else
    match t.find? (at_ ++ [name]) with
    | none => .error .notFound
    | some .directory => .ok (at_ ++ [name])
    | some (.file _ _) => .error .notDirectory

/-- Where a walk through directories ends. -/
def walk (t : FileTree) (at_ : Position) (names : List String) : Except OsError Position :=
  names.foldlM (enter t) at_

/-- The last part of a path. -/
inductive Last where
  | name (s : String)
  | here
  | up
  /-- The path has no parts: it is the root. -/
  | root
  deriving DecidableEq, Repr

/-- The directory that a path leads to without its last part, and that part. -/
structure Location where
  /-- The directory before the last part. -/
  directory : Position
  /-- The last part. -/
  last : Last
  deriving DecidableEq, Repr

/-- The last part of a path as a location has it. -/
def lastOf (name : String) : Last :=
  if name = "." then .here else if name = ".." then .up else .name name

/-- The names between the separators of a path. -/
def namesOf (p : Path) : List String := p.parts.map String.ofList

/-- Follows a path, from a working directory if it is relative, up to its last part. -/
def locate (t : FileTree) (cwd : Position) (p : Path) : Except OsError Location :=
  if p.chars.contains '\x00' then .error .nulInPath
  else if p.chars.isEmpty then .error .notFound
  else if maxPath ≤ p.text.utf8ByteSize then .error .nameTooLong
  else if !p.isAbsolute && !t.isDirectory cwd then .error .notFound
  else
    let names := namesOf p
    let origin := if p.isAbsolute then [] else cwd
    match names.getLast? with
    | none => .ok ⟨origin, .root⟩
    | some last => (t.walk origin names.dropLast).map fun d => ⟨d, lastOf last⟩

/-- The position of an existing entry and the entry. A path that ends in a separator has to lead to
a directory. -/
def resolve (t : FileTree) (cwd : Position) (p : Path) : Except OsError (Position × Entry) := do
  let at_ ← t.locate cwd p
  match at_.last with
  | .root => .ok (at_.directory, .directory)
  | .here => .ok (at_.directory, .directory)
  | .up => .ok (at_.directory.dropLast, .directory)
  | .name s =>
    if isLongName s then .error .nameTooLong
    else
      match t.find? (at_.directory ++ [s]) with
      | none => .error .notFound
      | some e =>
        if p.endsInSeparator && !e.isDirectory then .error .notDirectory
        else .ok (at_.directory ++ [s], e)

/-- The path of a position. -/
def pathOf (p : Position) : Path := .ofText ("/" ++ "/".intercalate p)

/-- The absolute path of an existing entry, without `.` and `..`. -/
def canonical (t : FileTree) (cwd : Position) (p : Path) : Except OsError Path :=
  (t.resolve cwd p).map fun r => pathOf r.1

/-! ### Files -/

/-- The content of a file. -/
def content (t : FileTree) (cwd : Position) (p : Path) : Except OsError Bytes := do
  match (← t.resolve cwd p).2 with
  | .directory => .error .isDirectory
  | .file bytes _ => .ok bytes

/-- The content of a file that holds text. -/
def textContent (t : FileTree) (cwd : Position) (p : Path) : Except OsError String := do
  match Bytes.text? (← t.content cwd p) with
  | some s => .ok s
  | none => .error .notText

/-- The tree after a file has been written; its directory has to be there. -/
def write (t : FileTree) (cwd : Position) (p : Path) (bytes : Bytes) : Except OsError FileTree := do
  let at_ ← t.locate cwd p
  match at_.last with
  | .name s =>
    if isLongName s then .error .nameTooLong
    else
      let position := at_.directory ++ [s]
      match t.find? position with
      | some .directory => .error .isDirectory
      | some (.file _ executable) =>
        if p.endsInSeparator then .error .notDirectory
        else .ok (t.put position (.file bytes executable))
      | none =>
        if p.endsInSeparator then .error .isDirectory else .ok (t.put position (.file bytes false))
  | _ => .error .isDirectory

/-- The tree after a file has been copied. -/
def copy (t : FileTree) (cwd : Position) (source target : Path) : Except OsError FileTree := do
  match (← t.resolve cwd source).2 with
  | .directory => .error .notCopyable
  | .file bytes _ => t.write cwd target bytes

/-- Everything below a position by its path from there, directories with a trailing separator, in
the order of these texts. -/
def listing (t : FileTree) (top : Position) : List String :=
  let below := t.entries.entries.filterMap fun e =>
    if top.isPrefixOf e.1 && e.1 ≠ top then
      let name := "/".intercalate (e.1.drop top.length)
      some (if e.2.isDirectory then name ++ "/" else name)
    else none
  below.mergeSort fun a b => (compare a b).isLE

end FileTree

end SiteRuntime
