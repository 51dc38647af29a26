import SiteRuntime.Text.Blank

/-!
# Paths

A path is a text. Joining is textual and normalizes nothing: an absolute path replaces what stands
before it, and an empty one leaves a trailing separator. What a path means is read off its
`components`: repeated separators and `.` inside it vanish there, `..` does not.
-/

namespace SiteRuntime

/-- A path as it is written. -/
structure Path where
  /-- The characters of the path. -/
  chars : List Char
  deriving DecidableEq, Repr

namespace Path

/-- The separator between components. -/
def separator : Char := '/'

/-- The path that a text writes. -/
def ofText (s : String) : Path := ⟨s.toList⟩

/-- The text of a path. -/
def text (p : Path) : String := String.ofList p.chars

@[simp] theorem text_ofText (s : String) : (ofText s).text = s := by simp [text, ofText]

instance : ToString Path := ⟨text⟩

/-- Whether a path starts at the root. -/
def isAbsolute (p : Path) : Bool := p.chars.head? = some separator

/-- Whether a path ends in a separator. -/
def endsInSeparator (p : Path) : Bool := p.chars.getLast? = some separator

/-- The second path taken from the first: an absolute one replaces it, any other is appended with a
separator between if there is none yet. -/
def join (p q : Path) : Path :=
  if q.isAbsolute then q
  else if p.chars.isEmpty || p.endsInSeparator then ⟨p.chars ++ q.chars⟩
  else ⟨p.chars ++ separator :: q.chars⟩

/-- A text taken from a path. -/
def joinText (p : Path) (s : String) : Path := p.join (ofText s)

/-- The path that a list of segments makes, each taken from the one before. -/
def ofSegments (segments : List String) : Path :=
  segments.foldl joinText ⟨[]⟩

/-- A joined path starts at the root if one of the two does. -/
theorem isAbsolute_join (p q : Path) :
    (p.join q).isAbsolute = (p.isAbsolute || q.isAbsolute) := by
  rw [join]
  cases hq : q.isAbsolute with
  | true => rw [if_pos rfl, hq, Bool.or_true]
  | false =>
    rw [if_neg Bool.false_ne_true, Bool.or_false]
    obtain ⟨chars⟩ := p
    cases chars with
    | nil => exact hq
    | cons c rest => split <;> rfl

/-! ### Components -/

/-- A step of a path. -/
inductive Component where
  | root
  /-- `.` at the start of a relative path. -/
  | here
  | up
  | name (s : List Char)
  deriving DecidableEq, Repr

/-- What stands between the separators, without empty parts. -/
def parts (p : Path) : List (List Char) := Text.fields separator p.chars

/-- The step that a part is, if it is one: `.` is none. -/
def componentOf? (part : List Char) : Option Component :=
  if part = ['.'] then none
  else if part = ['.', '.'] then some .up
  else some (.name part)

/-- The steps of a path. -/
def components (p : Path) : List Component :=
  let steps := p.parts.filterMap componentOf?
  if p.isAbsolute then .root :: steps
  else if p.parts.head? = some ['.'] then .here :: steps
  else steps

@[simp] theorem parts_nil : parts ⟨[]⟩ = [] := rfl

/-- A path that does not start at the root adds its parts to those of the path before it. -/
theorem parts_join (p : Path) {q : Path} (h : q.isAbsolute = false) :
    (p.join q).parts = p.parts ++ q.parts := by
  rw [join, h, if_neg Bool.false_ne_true]
  obtain ⟨chars⟩ := p
  split
  next hends =>
    rcases Bool.or_eq_true_iff.1 hends with hempty | hlast
    · obtain rfl := List.isEmpty_iff.1 hempty
      rfl
    · -- the separator that the first path ends in parts the two
      obtain ⟨before, rfl⟩ := List.getLast?_eq_some_iff.1 (of_decide_eq_true hlast)
      have happend : (before ++ [separator]) ++ q.chars = before ++ separator :: q.chars := by simp
      rw [parts, parts, parts, happend, Text.fields_append_cons, Text.fields_append_cons,
        Text.fields_nil, List.append_nil]
  next => exact Text.fields_append_cons separator chars q.chars

theorem parts_ne_nil {p : Path} (hp : p.chars ≠ []) (h : p.isAbsolute = false) : p.parts ≠ [] := by
  obtain ⟨chars⟩ := p
  cases chars with
  | nil => exact absurd rfl hp
  | cons c rest =>
    refine Text.fields_ne_nil ?_ rest
    rintro rfl
    cases h

theorem componentOf?_eq_up_iff {part : List Char} :
    componentOf? part = some .up ↔ part = ['.', '.'] := by
  rw [componentOf?]
  split
  next h => simp [h]
  next => split <;> simp_all

theorem componentOf?_ne_root (part : List Char) : componentOf? part ≠ some .root := by
  rw [componentOf?]
  split
  · nofun
  · split <;> nofun

/-- `..` is a step wherever it is a part. -/
theorem up_mem_filterMap_iff {parts : List (List Char)} :
    .up ∈ parts.filterMap componentOf? ↔ ['.', '.'] ∈ parts := by
  simp [List.mem_filterMap, componentOf?_eq_up_iff]

theorem root_notMem_filterMap (parts : List (List Char)) :
    .root ∉ parts.filterMap componentOf? := by
  intro h
  obtain ⟨part, -, hpart⟩ := List.mem_filterMap.1 h
  exact componentOf?_ne_root part hpart

theorem up_mem_components_iff {p : Path} : .up ∈ p.components ↔ ['.', '.'] ∈ p.parts := by
  rw [components]
  split
  · rw [List.mem_cons, up_mem_filterMap_iff]
    exact or_iff_right nofun
  · split
    · rw [List.mem_cons, up_mem_filterMap_iff]
      exact or_iff_right nofun
    · exact up_mem_filterMap_iff

theorem root_notMem_components {p : Path} (h : p.isAbsolute = false) : .root ∉ p.components := by
  rw [components, h, if_neg Bool.false_ne_true]
  split
  · rw [List.mem_cons]
    exact not_or.2 ⟨nofun, root_notMem_filterMap p.parts⟩
  · exact root_notMem_filterMap p.parts

/-- The steps of a path come before those of a path joined to it, if that does not start at the
root. -/
theorem components_join {p q : Path} (hp : p.chars ≠ []) (h : q.isAbsolute = false) :
    (p.join q).components = p.components ++ q.parts.filterMap componentOf? := by
  rw [components, components, parts_join p h, isAbsolute_join, h, Bool.or_false,
    List.filterMap_append]
  cases hroot : p.isAbsolute with
  | true => rfl
  | false =>
    obtain ⟨first, rest, hparts⟩ := List.exists_cons_of_ne_nil (parts_ne_nil hp hroot)
    rw [hparts, List.cons_append, List.head?_cons, List.head?_cons]
    by_cases hhere : some first = some ['.']
    · rw [if_pos hhere, if_pos hhere]
      rfl
    · rw [if_neg hhere, if_neg hhere]
      rfl

/-- The text of a step. -/
def Component.chars : Component → List Char
  | .root => []
  | .here => ['.']
  | .up => ['.', '.']
  | .name s => s

/-- A path with the given steps. -/
def ofComponents : List Component → Path
  | [] => ⟨[]⟩
  | [.root] => ⟨[separator]⟩
  | [c] => ⟨c.chars⟩
  | c :: rest => ⟨c.chars ++ separator :: (ofComponents rest).chars⟩

/-- The path without its last step; the root and the empty path have none. -/
def parent? (p : Path) : Option Path :=
  match p.components.reverse with
  | [] => none
  | .root :: _ => none
  | _ :: rest => some (ofComponents rest.reverse)

end Path

end SiteRuntime
