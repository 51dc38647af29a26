import SiteRuntime.Proofs.FileTree.Place
import SiteRuntime.Proofs.Path.Parent

/-!
# What a path enters

On its way a path enters a position with every name other than `.` and `..` (`enters`). That is all
a tree is asked for when the path is followed: it can be followed just if directories stand at these
positions (`walk_eq_ok_iff`), and two trees that have the same there are the same to it
(`resolve_congr`). What a path enters and where it leads can be told from its steps, so a `.` among
its parts makes no difference (`enters_eq`, `placeOf_eq`).
-/

namespace SiteRuntime

/-- The text of a component. -/
def Path.Component.text (c : Component) : String := String.ofList c.chars

namespace FileTree

/-- Where a path starts. -/
def originOf (cwd : Position) (p : Path) : Position := if p.isAbsolute then [] else cwd

/-- The positions that names enter from another one. -/
def entered (at_ : Position) : List String → List Position
  | [] => []
  | name :: names =>
    if name = "." ∨ name = ".." then entered (goTo at_ name) names
    else goTo at_ name :: entered (goTo at_ name) names

/-- The positions that a path enters. -/
def enters (cwd : Position) (p : Path) : List Position := entered (originOf cwd p) (namesOf p)

/-! ### Names -/

theorem goTo_of_name {name : String} (h : ¬(name = "." ∨ name = "..")) (at_ : Position) :
    goTo at_ name = at_ ++ [name] := by
  rw [goTo, if_neg (not_or.1 h).1, if_neg (not_or.1 h).2]

theorem entered_cons_of_dots {name : String} (h : name = "." ∨ name = "..") (at_ : Position)
    (names : List String) : entered at_ (name :: names) = entered (goTo at_ name) names := if_pos h

theorem entered_cons_of_name {name : String} (h : ¬(name = "." ∨ name = "..")) (at_ : Position)
    (names : List String) :
    entered at_ (name :: names) = (at_ ++ [name]) :: entered (at_ ++ [name]) names := by
  rw [entered, if_neg h, goTo_of_name h]

theorem entered_append (at_ : Position) (front back : List String) :
    entered at_ (front ++ back) = entered at_ front ++ entered (front.foldl goTo at_) back := by
  induction front generalizing at_ with
  | nil => rfl
  | cons name front ih =>
    rw [List.cons_append, List.foldl_cons]
    by_cases hdots : name = "." ∨ name = ".."
    · rw [entered_cons_of_dots hdots, entered_cons_of_dots hdots, ih]
    · rw [entered_cons_of_name hdots, entered_cons_of_name hdots, ih, goTo_of_name hdots,
        List.cons_append]

/-- A `.` enters nothing and leads nowhere else. -/
theorem entered_filter (at_ : Position) (names : List String) :
    entered at_ (names.filter (· ≠ ".")) = entered at_ names := by
  induction names generalizing at_ with
  | nil => rfl
  | cons name names ih =>
    by_cases hhere : name = "."
    · rw [List.filter_cons_of_neg (by simp [hhere]), entered_cons_of_dots (.inl hhere), goTo,
        if_pos hhere, ih]
    · rw [List.filter_cons_of_pos (by simp [hhere]), entered, entered, ih]

theorem foldl_goTo_filter (at_ : Position) (names : List String) :
    (names.filter (· ≠ ".")).foldl goTo at_ = names.foldl goTo at_ := by
  induction names generalizing at_ with
  | nil => rfl
  | cons name names ih =>
    by_cases hhere : name = "."
    · rw [List.filter_cons_of_neg (by simp [hhere]), List.foldl_cons, goTo, if_pos hhere, ih]
    · rw [List.filter_cons_of_pos (by simp [hhere]), List.foldl_cons, List.foldl_cons, ih]

theorem ofList_eq_dot_iff {part : List Char} : String.ofList part = "." ↔ part = ['.'] := by
  rw [← String.toList_inj, String.toList_ofList]
  rfl

/-- The names of a path other than `.` are those of its steps. -/
theorem filter_namesOf (p : Path) :
    (namesOf p).filter (· ≠ ".") = p.steps.map Path.Component.text := by
  have htext : Path.Component.text = String.ofList ∘ Path.Component.chars := rfl
  rw [htext, ← List.map_map, Path.steps, Path.map_chars_filterMap, namesOf, List.filter_map]
  congr 1
  refine List.filter_congr fun part _ => ?_
  simp [ofList_eq_dot_iff]

theorem enters_eq (cwd : Position) (p : Path) :
    enters cwd p = entered (originOf cwd p) (p.steps.map Path.Component.text) := by
  rw [enters, ← entered_filter, filter_namesOf]

theorem placeOf_eq (cwd : Position) (p : Path) :
    placeOf cwd p = (p.steps.map Path.Component.text).foldl goTo (originOf cwd p) := by
  rw [placeOf, ← foldl_goTo_filter, filter_namesOf, originOf]

/-- What names enter is where they lead, or lies on the way there, unless they lead up. -/
theorem prefix_of_mem_entered {names : List String} (h : ".." ∉ names) {at_ q : Position}
    (hq : q ∈ entered at_ names) : at_ <+: q ∧ q <+: names.foldl goTo at_ := by
  induction names generalizing at_ with
  | nil => cases hq
  | cons name names ih =>
    obtain ⟨hname, hnames⟩ := List.ne_and_not_mem_of_not_mem_cons h
    rw [List.foldl_cons]
    by_cases hdots : name = "." ∨ name = ".."
    · rw [entered_cons_of_dots hdots] at hq
      obtain ⟨hbelow, habove⟩ := ih hnames hq
      rw [goTo, if_pos (hdots.resolve_right hname.symm)] at hbelow
      exact ⟨hbelow, habove⟩
    · rw [entered_cons_of_name hdots] at hq
      rw [goTo_of_name hdots]
      rcases List.mem_cons.1 hq with rfl | hq
      · exact ⟨List.prefix_append at_ [name], prefix_foldl_goTo hnames _⟩
      · obtain ⟨hbelow, habove⟩ := ih hnames hq
        exact ⟨(List.prefix_append at_ [name]).trans hbelow, habove⟩

/-! ### Following names -/

theorem isLongName_of_dots {name : String} (h : name = "." ∨ name = "..") :
    isLongName name = false := by
  rcases h with rfl | rfl <;> decide

/-- A position where no file is in the way of a directory. -/
def Free (t : FileTree) (q : Position) : Prop := t.find? q = none ∨ t.find? q = some .directory

instance (t : FileTree) (q : Position) : Decidable (t.Free q) :=
  inferInstanceAs (Decidable (t.find? q = none ∨ t.find? q = some .directory))

theorem enter_of_dots {name : String} (h : name = "." ∨ name = "..") (t : FileTree)
    (at_ : Position) : t.enter at_ name = .ok (goTo at_ name) := by
  rw [enter, goTo]
  by_cases hhere : name = "."
  · rw [if_pos hhere, if_pos hhere]
  · rw [if_neg hhere, if_neg hhere, if_pos (h.resolve_left hhere), if_pos (h.resolve_left hhere)]

theorem enter_of_name {name : String} (h : ¬(name = "." ∨ name = "..")) (t : FileTree)
    (at_ : Position) :
    t.enter at_ name =
      if isLongName name then .error .nameTooLong
      else
        match t.find? (at_ ++ [name]) with
        | none => .error .notFound
        | some .directory => .ok (at_ ++ [name])
        | some (.file _ _) => .error .notDirectory := by
  rw [enter]
  exact (if_neg (not_or.1 h).1).trans (if_neg (not_or.1 h).2)

theorem walk_cons (t : FileTree) (at_ : Position) (name : String) (names : List String) :
    t.walk at_ (name :: names) = (t.enter at_ name >>= fun next => t.walk next names) := by
  rw [walk, List.foldlM_cons]
  rfl

/-- Names can be followed just if all positions that they enter are directories. -/
theorem walk_eq_ok_iff {t : FileTree} {at_ at' : Position} {names : List String} :
    t.walk at_ names = .ok at' ↔ at' = names.foldl goTo at_ ∧
      (∀ name ∈ names, isLongName name = false) ∧
      ∀ q ∈ entered at_ names, t.find? q = some .directory := by
  -- the start is general, since every name moves it
  induction names generalizing at_ with
  | nil =>
    constructor
    · intro h
      cases h
      exact ⟨rfl, nofun, nofun⟩
    · rintro ⟨rfl, -, -⟩
      rfl
  | cons name names ih =>
    rw [walk_cons, List.foldl_cons, List.forall_mem_cons]
    by_cases hdots : name = "." ∨ name = ".."
    · rw [enter_of_dots hdots, entered_cons_of_dots hdots]
      have hshort := isLongName_of_dots hdots
      simpa [hshort, bind, Except.bind] using ih
    · rw [enter_of_name hdots, entered_cons_of_name hdots, goTo_of_name hdots,
        List.forall_mem_cons]
      cases hlong : isLongName name with
      | true => simp [bind, Except.bind]
      | false =>
        rw [if_neg Bool.false_ne_true]
        cases hfind : t.find? (at_ ++ [name]) with
        | none => simp [bind, Except.bind]
        | some entry =>
          cases entry with
          | directory => simpa [bind, Except.bind] using ih
          | file => simp [bind, Except.bind]

/-- Where no file is in the way and no name is too long, names can be followed or a directory is
missing. -/
theorem walk_eq_ok_or_notFound {t : FileTree} {at_ : Position} {names : List String}
    (hshort : ∀ name ∈ names, isLongName name = false) (hfree : ∀ q ∈ entered at_ names, t.Free q) :
    t.walk at_ names = .ok (names.foldl goTo at_) ∨ t.walk at_ names = .error .notFound := by
  induction names generalizing at_ with
  | nil => exact .inl rfl
  | cons name names ih =>
    obtain ⟨hname, hnames⟩ := List.forall_mem_cons.1 hshort
    rw [walk_cons, List.foldl_cons]
    by_cases hdots : name = "." ∨ name = ".."
    · rw [entered_cons_of_dots hdots] at hfree
      rw [enter_of_dots hdots]
      exact ih hnames hfree
    · rw [entered_cons_of_name hdots, List.forall_mem_cons] at hfree
      rw [enter_of_name hdots, goTo_of_name hdots, hname, if_neg Bool.false_ne_true]
      rcases hfree.1 with hnone | hdirectory
      · rw [hnone]
        exact .inr rfl
      · rw [hdirectory]
        exact ih hnames hfree.2

theorem walk_congr {t t' : FileTree} {at_ : Position} {names : List String}
    (h : ∀ q ∈ entered at_ names, t'.find? q = t.find? q) :
    t'.walk at_ names = t.walk at_ names := by
  induction names generalizing at_ with
  | nil => rfl
  | cons name names ih =>
    rw [walk_cons, walk_cons]
    by_cases hdots : name = "." ∨ name = ".."
    · rw [entered_cons_of_dots hdots] at h
      rw [enter_of_dots hdots, enter_of_dots hdots]
      exact ih h
    · rw [entered_cons_of_name hdots, List.forall_mem_cons] at h
      rw [enter_of_name hdots, enter_of_name hdots, h.1]
      -- only a directory leads on, to the position that was entered
      cases isLongName name with
      | true => rfl
      | false =>
        cases t.find? (at_ ++ [name]) with
        | none => rfl
        | some entry =>
          cases entry with
          | directory => exact ih h.2
          | file => rfl

/-! ### Following paths -/

/-- What a path needs to be followed, apart from what stands where it enters. -/
structure Followable (t : FileTree) (cwd : Position) (p : Path) : Prop where
  plain : '\x00' ∉ p.chars
  short : p.text.utf8ByteSize < maxPath
  short_names : ∀ name ∈ namesOf p, isLongName name = false
  origin : p.isAbsolute = false → t.isDirectory cwd = true

variable {t t' : FileTree} {cwd : Position} {p : Path}

theorem Followable.congr (hp : Followable t cwd p) (hcwd : p.isAbsolute = false →
    t.isDirectory cwd = true → t'.isDirectory cwd = true) : Followable t' cwd p where
  plain := hp.plain
  short := hp.short
  short_names := hp.short_names
  origin := fun habsolute => hcwd habsolute (hp.origin habsolute)

theorem namesOf_eq_nil_or_append (p : Path) :
    namesOf p = [] ∨ ∃ front last, namesOf p = front ++ [last] := by
  rcases List.eq_nil_or_concat (namesOf p) with h | ⟨front, last, h⟩
  · exact .inl h
  · exact .inr ⟨front, last, by rw [h, List.concat_eq_append]⟩

theorem ne_nil_of_namesOf {front : List String} {last : String} (h : namesOf p = front ++ [last]) :
    p.chars ≠ [] := by
  obtain ⟨chars⟩ := p
  rintro rfl
  have hlength := congrArg List.length h
  simp [namesOf] at hlength

/-- A path is not refused because of where it starts. -/
theorem Followable.starts (hp : Followable t cwd p) :
    (!p.isAbsolute && !t.isDirectory cwd) = false := by
  cases habsolute : p.isAbsolute with
  | true => rfl
  | false => rw [hp.origin habsolute]; rfl

/-- A path is followed up to its last part. -/
theorem Followable.locate_eq (hp : Followable t cwd p) {front : List String} {last : String}
    (h : namesOf p = front ++ [last]) :
    t.locate cwd p = (t.walk (originOf cwd p) front).map fun d => ⟨d, lastOf last⟩ := by
  have hne := ne_nil_of_namesOf h
  rw [locate, if_neg (by simpa using hp.plain), if_neg (by simpa using hne),
    if_neg (Nat.not_le.2 hp.short), if_neg (Bool.eq_false_iff.1 hp.starts)]
  dsimp only
  rw [h, List.getLast?_concat, List.dropLast_concat]
  rfl

/-- A path without parts leads to the root. -/
theorem Followable.locate_eq_root (hp : Followable t cwd p) (hne : p.chars ≠ [])
    (h : namesOf p = []) : t.locate cwd p = .ok ⟨originOf cwd p, .root⟩ := by
  rw [locate, if_neg (by simpa using hp.plain), if_neg (by simpa using hne),
    if_neg (Nat.not_le.2 hp.short), if_neg (Bool.eq_false_iff.1 hp.starts)]
  dsimp only
  rw [h]
  rfl

theorem locate_congr (h : ∀ q ∈ enters cwd p, t'.find? q = t.find? q)
    (hcwd : p.isAbsolute = false → t'.isDirectory cwd = t.isDirectory cwd) :
    t'.locate cwd p = t.locate cwd p := by
  have horigin :
      (!p.isAbsolute && !t'.isDirectory cwd) = (!p.isAbsolute && !t.isDirectory cwd) := by
    cases habsolute : p.isAbsolute with
    | true => rfl
    | false => rw [hcwd habsolute]
  rw [locate, locate, horigin]
  dsimp only
  rcases namesOf_eq_nil_or_append p with hnames | ⟨front, last, hnames⟩
  · rw [hnames]
    rfl
  · rw [enters, hnames, entered_append] at h
    rw [hnames, List.getLast?_concat, List.dropLast_concat]
    dsimp only
    rw [← originOf, walk_congr fun q hq => h q (List.mem_append_left _ hq)]

theorem lastOf_of_name {name : String} (h : ¬(name = "." ∨ name = "..")) :
    lastOf name = .name name := by
  rw [lastOf, if_neg (not_or.1 h).1, if_neg (not_or.1 h).2]

theorem lastOf_of_dots {name : String} (h : name = "." ∨ name = "..") (s : String) :
    lastOf name ≠ .name s := by
  rw [lastOf]
  by_cases hhere : name = "."
  · rw [if_pos hhere]
    intro heq
    cases heq
  · rw [if_neg hhere, if_pos (h.resolve_left hhere)]
    intro heq
    cases heq

/-- Where a path can be followed to its last part, all before that could be entered. -/
theorem eq_of_locate {l : Location} (h : t.locate cwd p = .ok l) :
    namesOf p = [] ∧ l = ⟨originOf cwd p, .root⟩ ∨
      ∃ front last, namesOf p = front ++ [last] ∧
        (∀ q ∈ entered (originOf cwd p) front, t.find? q = some .directory) ∧
        l = ⟨front.foldl goTo (originOf cwd p), lastOf last⟩ := by
  unfold locate at h
  split at h
  · cases h
  split at h
  · cases h
  split at h
  · cases h
  split at h
  · cases h
  dsimp only at h
  rcases namesOf_eq_nil_or_append p with hnames | ⟨front, last, hnames⟩
  · rw [hnames] at h
    cases h
    exact .inl ⟨hnames, rfl⟩
  · rw [hnames, List.getLast?_concat, List.dropLast_concat, ← originOf] at h
    dsimp only at h
    cases hwalk : t.walk (originOf cwd p) front with
    | error e => rw [hwalk] at h; cases h
    | ok d =>
      rw [hwalk] at h
      cases h
      obtain ⟨rfl, -, hentered⟩ := walk_eq_ok_iff.1 hwalk
      exact .inr ⟨front, last, hnames, hentered, rfl⟩

/-- The position with a name in the directory that a path leads to is the last one it enters. -/
theorem mem_enters_of_locate {d : Position} {s : String} (h : t.locate cwd p = .ok ⟨d, .name s⟩) :
    d ++ [s] ∈ enters cwd p := by
  rcases eq_of_locate h with ⟨-, hl⟩ | ⟨front, last, hnames, -, hl⟩
  · cases hl
  · obtain ⟨rfl, hlast⟩ := Location.mk.inj hl
    by_cases hdots : last = "." ∨ last = ".."
    · exact absurd hlast.symm (lastOf_of_dots hdots s)
    · rw [lastOf_of_name hdots] at hlast
      obtain rfl := Last.name.inj hlast
      rw [enters, hnames, entered_append, entered_cons_of_name hdots]
      exact List.mem_append_right _ List.mem_cons_self

theorem resolve_congr (h : ∀ q ∈ enters cwd p, t'.find? q = t.find? q)
    (hcwd : p.isAbsolute = false → t'.isDirectory cwd = t.isDirectory cwd) :
    t'.resolve cwd p = t.resolve cwd p := by
  rw [resolve, resolve, locate_congr h hcwd]
  cases hl : t.locate cwd p with
  | error e => rfl
  | ok l =>
    obtain ⟨d, last⟩ := l
    cases last with
    | root | here | up => rfl
    | name s =>
      dsimp only [bind, Except.bind]
      rw [h _ (mem_enters_of_locate hl)]

/-- Where a path leads to something, there is something at all positions that it enters. -/
theorem find?_isSome_of_resolve {found : Position × Entry} (h : t.resolve cwd p = .ok found) :
    ∀ q ∈ enters cwd p, (t.find? q).isSome := by
  intro q hq
  rw [resolve] at h
  cases hl : t.locate cwd p with
  | error e => rw [hl] at h; cases h
  | ok l =>
    rw [hl] at h
    rcases eq_of_locate hl with ⟨hnames, -⟩ | ⟨front, last, hnames, hentered, rfl⟩
    · rw [enters, hnames] at hq
      cases hq
    · rw [enters, hnames, entered_append] at hq
      rcases List.mem_append.1 hq with hq | hq
      · rw [hentered q hq]
        rfl
      · -- the last part enters a position only if it is a name, and that is what was found
        by_cases hdots : last = "." ∨ last = ".."
        · rw [entered_cons_of_dots hdots] at hq
          cases hq
        · rw [entered_cons_of_name hdots] at hq
          obtain rfl := List.mem_singleton.1 hq
          dsimp only [bind, Except.bind] at h
          rw [lastOf_of_name hdots] at h
          dsimp only at h
          split at h
          · cases h
          split at h
          · cases h
          next hfind => rw [hfind]; rfl

/-- A path that does not start at the root is followed from a working directory that is there. -/
theorem isDirectory_of_locate {l : Location} (h : t.locate cwd p = .ok l)
    (habsolute : p.isAbsolute = false) : t.isDirectory cwd = true := by
  unfold locate at h
  split at h
  · cases h
  split at h
  · cases h
  split at h
  · cases h
  split at h
  · cases h
  next hcwd => simpa [habsolute] using hcwd

theorem isDirectory_of_resolve {found : Position × Entry} (h : t.resolve cwd p = .ok found)
    (habsolute : p.isAbsolute = false) : t.isDirectory cwd = true := by
  rw [resolve] at h
  cases hl : t.locate cwd p with
  | error e => rw [hl] at h; cases h
  | ok l => exact isDirectory_of_locate hl habsolute

end FileTree

end SiteRuntime
