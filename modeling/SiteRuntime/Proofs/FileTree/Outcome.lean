import Mathlib.Data.List.Induction
import Mathlib.Data.List.Infix
import SiteRuntime.Proofs.FileTree.Room

/-!
# What making a directory comes to

In a tree whatever is there stands in a directory (`Rooted`). Along a path that leads straight down
(`Direct`) there is at most one file, then, with directories above it and nothing below.

If there is such a file, making a directory at the path fails before anything is changed
(`Blocked`). If there is none, the directory is made, and what has become of the tree can be said of
every position (`Made`). Together the two say when a directory is made and what that does
(`makeDirectory_of_direct`).
-/

namespace SiteRuntime.FileTree

variable {t t₁ t' : FileTree} {cwd : Position} {p : Path}

/-! ### Rooted trees -/

/-- Whatever is there stands in a directory. -/
def Rooted (t : FileTree) : Prop :=
  ∀ e ∈ t.entries.entries, t.find? e.1.dropLast = some .directory

instance : DecidablePred Rooted := fun t =>
  inferInstanceAs (Decidable (∀ e ∈ t.entries.entries, t.find? e.1.dropLast = some .directory))

theorem find?_concat (t : FileTree) (q : Position) (name : String) :
    t.find? (q ++ [name]) = t.entries.get? (q ++ [name]) :=
  if_neg (by simp)

theorem rooted_iff :
    t.Rooted ↔ ∀ q name, t.find? (q ++ [name]) ≠ none → t.find? q = some .directory := by
  constructor
  · intro ht q name hthere
    obtain ⟨e, he⟩ := Option.ne_none_iff_exists'.1 hthere
    rw [find?_concat, SortedMap.get?_eq_some_iff] at he
    have hparent := ht _ he
    rwa [List.dropLast_concat] at hparent
  · rintro h ⟨q, e⟩ he
    rcases List.eq_nil_or_concat q with rfl | ⟨q, name, rfl⟩
    · rfl
    · rw [List.concat_eq_append] at he ⊢
      rw [List.dropLast_concat]
      refine h q name ?_
      rw [find?_concat, SortedMap.get?_eq_some_iff.2 he]
      exact Option.some_ne_none e

/-- Above what is there are directories. -/
theorem Rooted.above (ht : t.Rooted) {q q' : Position} (hpre : q <+: q') (hne : q ≠ q')
    (hthere : t.find? q' ≠ none) : t.find? q = some .directory := by
  obtain ⟨rest, rfl⟩ := hpre
  -- from the end of the names, since what stands there speaks for the directory it stands in
  induction rest using List.reverseRecOn with
  | nil => exact absurd (List.append_nil q).symm hne
  | append_singleton rest name ih =>
    rw [← List.append_assoc] at hthere
    have hparent := rooted_iff.1 ht _ _ hthere
    by_cases hrest : rest = []
    · rwa [hrest, List.append_nil] at hparent
    · refine ih (fun heq => hrest (List.append_right_eq_self.1 heq.symm)) ?_
      rw [hparent]
      exact Option.some_ne_none _

/-- Below what is no directory is nothing. -/
theorem Rooted.below (ht : t.Rooted) {q q' : Position} (hpre : q <+: q') (hne : q' ≠ q)
    (h : t.find? q ≠ some .directory) : t.find? q' = none := by
  refine Classical.byContradiction fun hthere => ?_
  exact h (ht.above hpre (Ne.symm hne) hthere)

theorem not_free_iff {q : Position} :
    ¬t.Free q ↔ ∃ content executable, t.find? q = some (.file content executable) := by
  rw [Free]
  cases t.find? q with
  | none => simp
  | some e => cases e <;> simp

/-! ### Paths that lead straight down -/

/-- A path that leads down from the root by names alone and is not too long to be followed. -/
structure Direct (p : Path) : Prop where
  absolute : p.isAbsolute = true
  named : namesOf p ≠ []
  plain : '\x00' ∉ p.chars
  short : p.text.utf8ByteSize < maxPath
  names : ∀ name ∈ namesOf p, ¬(name = "." ∨ name = "..")
  short_names : ∀ name ∈ namesOf p, isLongName name = false

instance : DecidablePred Direct := fun p =>
  decidable_of_iff (p.isAbsolute = true ∧ namesOf p ≠ [] ∧ '\x00' ∉ p.chars ∧
      p.text.utf8ByteSize < maxPath ∧ (∀ name ∈ namesOf p, ¬(name = "." ∨ name = "..")) ∧
      ∀ name ∈ namesOf p, isLongName name = false)
    ⟨fun h => ⟨h.1, h.2.1, h.2.2.1, h.2.2.2.1, h.2.2.2.2.1, h.2.2.2.2.2⟩,
      fun h => ⟨h.absolute, h.named, h.plain, h.short, h.names, h.short_names⟩⟩

theorem foldl_goTo_of_names {names : List String}
    (h : ∀ name ∈ names, ¬(name = "." ∨ name = "..")) (at_ : Position) :
    names.foldl goTo at_ = at_ ++ names := by
  induction names generalizing at_ with
  | nil => exact (List.append_nil at_).symm
  | cons name names ih =>
    obtain ⟨hname, hnames⟩ := List.forall_mem_cons.1 h
    rw [List.foldl_cons, goTo_of_name hname, ih hnames, List.append_assoc, List.singleton_append]

namespace Direct

theorem originOf_eq (hp : Direct p) (cwd : Position) : originOf cwd p = [] := by
  rw [originOf, hp.absolute, if_pos rfl]

theorem placeOf_eq (hp : Direct p) (cwd : Position) : placeOf cwd p = namesOf p := by
  rw [placeOf, ← originOf, hp.originOf_eq, foldl_goTo_of_names hp.names, List.nil_append]

theorem exists_last (hp : Direct p) : ∃ front last, namesOf p = front ++ [last] :=
  (namesOf_eq_nil_or_append p).resolve_left hp.named

theorem endsInName (hp : Direct p) : EndsInName p := by
  obtain ⟨front, last, hnames⟩ := hp.exists_last
  have hlast : last ∈ namesOf p := hnames ▸ List.mem_append_right front List.mem_cons_self
  exact ⟨front, last, hnames, hp.names last hlast⟩

theorem prefix_of_mem_enters (hp : Direct p) {q : Position} (hq : q ∈ enters cwd p) :
    q <+: namesOf p := by
  have hup : ".." ∉ namesOf p := fun hup => hp.names ".." hup (.inr rfl)
  have hpre := (prefix_of_mem_entered hup hq).2
  rwa [hp.originOf_eq, foldl_goTo_of_names hp.names, List.nil_append] at hpre

/-- Every position on the way but the root is entered. -/
theorem mem_enters_of_prefix (hp : Direct p) {q : Position} (hpre : q <+: namesOf p)
    (hne : q ≠ []) : q ∈ enters cwd p := by
  obtain ⟨rest, hnames⟩ := hpre
  have hall := hp.names
  rcases List.eq_nil_or_concat q with rfl | ⟨front, name, rfl⟩
  · exact absurd rfl hne
  · rw [List.concat_eq_append] at hnames ⊢
    rw [← hnames, List.forall_mem_append, List.forall_mem_append, List.forall_mem_singleton] at hall
    rw [enters, ← hnames, hp.originOf_eq, entered_append, entered_append,
      foldl_goTo_of_names hall.1.1, List.nil_append, entered_cons_of_name hall.1.2]
    exact List.mem_append_left _ (List.mem_append_right _ List.mem_cons_self)

theorem followable (hp : Direct p) (t : FileTree) (cwd : Position) : Followable t cwd p where
  plain := hp.plain
  short := hp.short
  short_names := hp.short_names
  origin := fun habsolute => by rw [hp.absolute] at habsolute; cases habsolute

theorem room (hp : Direct p) (hfree : ∀ q, q <+: namesOf p → t.Free q) (cwd : Position) :
    Room t cwd p where
  toFollowable := hp.followable t cwd
  free := fun q hq => hfree q (hp.prefix_of_mem_enters hq)

end Direct

/-! ### A file in the way -/

theorem walk_append (t : FileTree) (at_ : Position) (front back : List String) :
    t.walk at_ (front ++ back) = (t.walk at_ front >>= fun d => t.walk d back) :=
  List.foldlM_append

/-- On the way to what is there directories are entered. -/
theorem Rooted.directory_of_mem_entered (ht : t.Rooted) {front : List String} {name : String}
    (hnames : ∀ s ∈ front, ¬(s = "." ∨ s = "..")) (hthere : t.find? (front ++ [name]) ≠ none) :
    ∀ q ∈ entered [] front, t.find? q = some .directory := by
  intro q hq
  have hup : ".." ∉ front := fun hup => hnames ".." hup (.inr rfl)
  have hpre := (prefix_of_mem_entered hup hq).2
  rw [foldl_goTo_of_names hnames, List.nil_append] at hpre
  refine ht.above (hpre.trans (List.prefix_append front [name])) (fun heq => ?_) hthere
  have hlength := hpre.length_le
  rw [heq, List.length_append, List.length_singleton] at hlength
  omega

/-- A file ends a walk that would go on below it. -/
theorem Rooted.walk_of_file (ht : t.Rooted) {front back : List String} {name : String}
    (hnames : ∀ s ∈ front ++ name :: back, ¬(s = "." ∨ s = ".."))
    (hshort : ∀ s ∈ front ++ name :: back, isLongName s = false) {content : Bytes}
    {executable : Bool} (hfile : t.find? (front ++ [name]) = some (.file content executable)) :
    t.walk [] (front ++ name :: back) = .error .notDirectory := by
  rw [List.forall_mem_append, List.forall_mem_cons] at hnames hshort
  have hfront : ∀ q ∈ entered [] front, t.find? q = some .directory :=
    ht.directory_of_mem_entered hnames.1 (hfile ▸ Option.some_ne_none _)
  rw [walk_append, walk_eq_ok_iff.2 ⟨rfl, hshort.1, hfront⟩, foldl_goTo_of_names hnames.1,
    List.nil_append]
  dsimp only [bind, Except.bind]
  rw [walk_cons, enter_of_name hnames.2.1, hshort.2.1, if_neg Bool.false_ne_true, hfile]
  rfl

/-- To what is there the path can be followed. -/
theorem Direct.locate_of_there (hp : Direct p) (ht : t.Rooted)
    (hthere : t.find? (namesOf p) ≠ none) (cwd : Position) :
    ∃ front last, front ++ [last] = namesOf p ∧ isLongName last = false ∧
      t.locate cwd p = .ok ⟨front, .name last⟩ := by
  obtain ⟨front, last, hnames⟩ := hp.exists_last
  have hall := hp.names
  have hshort := hp.short_names
  rw [hnames, List.forall_mem_append, List.forall_mem_singleton] at hall hshort
  have hfront : ∀ q ∈ entered [] front, t.find? q = some .directory :=
    ht.directory_of_mem_entered hall.1 (hnames ▸ hthere)
  refine ⟨front, last, hnames.symm, hshort.2, ?_⟩
  rw [(hp.followable t cwd).locate_eq hnames, hp.originOf_eq,
    walk_eq_ok_iff.2 ⟨rfl, hshort.1, hfront⟩, foldl_goTo_of_names hall.1, Except.map,
    lastOf_of_name hall.2, List.nil_append]

/-- A file at a position of the path is what the path leads to, or it ends the way there. -/
theorem Direct.locate_of_file (hp : Direct p) (ht : t.Rooted) {q : Position}
    (hpre : q <+: namesOf p) {content : Bytes} {executable : Bool}
    (hfile : t.find? q = some (.file content executable)) (cwd : Position) :
    t.locate cwd p = .error .notDirectory ∨
      ∃ front last, t.locate cwd p = .ok ⟨front, .name last⟩ ∧ isLongName last = false ∧
        t.find? (front ++ [last]) = some (.file content executable) := by
  obtain ⟨rest, hnames⟩ := hpre
  rcases List.eq_nil_or_concat rest with rfl | ⟨back, last, rfl⟩
  · rw [List.append_nil] at hnames
    rw [hnames] at hfile
    obtain ⟨front, last, hlast, hshort, hl⟩ :=
      hp.locate_of_there ht (hfile ▸ Option.some_ne_none _) cwd
    exact .inr ⟨front, last, hl, hshort, hlast ▸ hfile⟩
  · left
    rcases List.eq_nil_or_concat q with rfl | ⟨front, name, rfl⟩
    · cases hfile
    rw [List.concat_eq_append] at hfile
    rw [List.concat_eq_append, List.concat_eq_append, List.append_assoc, List.singleton_append,
      ← List.cons_append, ← List.append_assoc] at hnames
    have hall := hp.names
    have hshort := hp.short_names
    rw [← hnames, List.forall_mem_append] at hall hshort
    rw [(hp.followable t cwd).locate_eq hnames.symm, hp.originOf_eq,
      ht.walk_of_file hall.1 hshort.1 hfile]
    rfl

/-- A path leads to no directory and to none that could be made, and whatever is tried first fails
before it has changed anything. -/
structure Blocked (t : FileTree) (cwd : Position) (p : Path) : Prop where
  makeOne : ∃ e, e ≠ .notFound ∧ makeOne cwd p t = .error e t
  leadsToDirectory : t.leadsToDirectory cwd p = false
  removeAll : removeAll cwd p t = .error .notDirectory t

/-- **A file in the way** blocks a path, on the way as well as at its place. -/
theorem Direct.blocked_of_file (hp : Direct p) (ht : t.Rooted) {q : Position}
    (hpre : q <+: namesOf p) (hfile : ¬t.Free q) (cwd : Position) : Blocked t cwd p := by
  obtain ⟨content, executable, hfile⟩ := not_free_iff.1 hfile
  rcases hp.locate_of_file ht hpre hfile cwd with hl | ⟨front, last, hl, hshort, hfind⟩
  · refine ⟨⟨.notDirectory, by decide, ?_⟩, ?_, ?_⟩
    · rw [makeOne, hl]
    · rw [leadsToDirectory, resolve, hl]
      rfl
    · rw [removeAll, resolve, hl]
      rfl
  · refine ⟨⟨.fileExists, by decide, ?_⟩, ?_, ?_⟩
    · rw [makeOne, hl]
      simp [hshort, hfind]
    · rw [leadsToDirectory, resolve, hl]
      cases p.endsInSeparator <;>
        simp [bind, Except.bind, hshort, hfind, Entry.isDirectory]
    · rw [removeAll, resolve, hl]
      cases p.endsInSeparator <;>
        simp [bind, Except.bind, hshort, hfind, Entry.isDirectory]

/-- Unless something is missing, no parent is made. -/
theorem Direct.makeWithParents_eq (hp : Direct p) {e : OsError}
    (hone : makeOne cwd p t = .error e t) (he : e ≠ .notFound) (fuel : Nat) :
    makeWithParents cwd (fuel + 1) p t =
      if t.leadsToDirectory cwd p then .ok () t else .error e t := by
  obtain ⟨front, last, hnames⟩ := hp.exists_last
  have hempty : p.chars.isEmpty = false := List.isEmpty_eq_false_iff.2 (ne_nil_of_namesOf hnames)
  dsimp only [makeWithParents]
  rw [hempty, if_neg Bool.false_ne_true, hone]
  cases e with
  | notFound => exact absurd rfl he
  | _ => rfl

theorem Direct.makeDirectory_of_blocked (hp : Direct p) (h : Blocked t cwd p) (wipe : Bool) :
    ∃ e, makeDirectory cwd p wipe t = .error e t := by
  cases wipe with
  | false =>
    obtain ⟨e, he, hone⟩ := h.makeOne
    refine ⟨e, ?_⟩
    have hmake := hp.makeWithParents_eq hone he p.parts.length
    rw [h.leadsToDirectory, if_neg Bool.false_ne_true] at hmake
    exact hmake
  | true =>
    refine ⟨.notDirectory, ?_⟩
    have hremove : removeIfThere cwd p t = .error .notDirectory t := by
      rw [removeIfThere, h.removeAll]
    have hseq : (removeIfThere cwd p >>= fun _ => makeAll cwd p : Edit Unit) t =
        .error .notDirectory t := by
      simp only [bind, EStateM.bind, hremove]
    exact hseq

/-! ### No file in the way -/

theorem Direct.leadsToDirectory (hp : Direct p) (ht : t.Rooted)
    (hthere : t.find? (namesOf p) = some .directory) (cwd : Position) :
    t.leadsToDirectory cwd p = true := by
  obtain ⟨front, last, hnames, hshort, hl⟩ :=
    hp.locate_of_there ht (hthere ▸ Option.some_ne_none _) cwd
  rw [FileTree.leadsToDirectory, resolve, hl]
  simp [bind, Except.bind, hshort, hnames, hthere, Entry.isDirectory]

/-- A directory that is there stays, and nothing is made. -/
theorem Direct.makeAll_of_directory (hp : Direct p) (ht : t.Rooted)
    (hthere : t.find? (namesOf p) = some .directory) (cwd : Position) :
    makeAll cwd p t = .ok () t := by
  obtain ⟨front, last, hnames, hshort, hl⟩ :=
    hp.locate_of_there ht (hthere ▸ Option.some_ne_none _) cwd
  have hone : makeOne cwd p t = .error .fileExists t := by
    rw [makeOne, hl]
    simp [hshort, hnames, hthere]
  have hmake := hp.makeWithParents_eq hone (by decide) p.parts.length
  rw [hp.leadsToDirectory ht hthere, if_pos rfl] at hmake
  exact hmake

/-- What is left of a tree before a directory is made. If it is to be empty, nothing stands below
its place, and only what stood there or below may be missing. -/
structure Emptied (wipe : Bool) (t t₁ : FileTree) (place : Position) : Prop where
  shrunk : Shrunk t t₁
  kept : ∀ q, (wipe = true → ¬place <+: q) → t₁.find? q = t.find? q
  below : wipe = true → ∀ q, place <+: q → q ≠ place → t₁.find? q = none

theorem Direct.exists_emptied (hp : Direct p) (ht : t.Rooted)
    (hfree : ∀ q, q <+: namesOf p → t.Free q) (cwd : Position) (wipe : Bool) :
    ∃ t₁, makeDirectory cwd p wipe t = makeAll cwd p t₁ ∧ Emptied wipe t t₁ (namesOf p) := by
  cases wipe with
  | false => exact ⟨t, rfl, fun _ => .inl rfl, fun _ _ => rfl, fun h => absurd h Bool.false_ne_true⟩
  | true =>
    have hcwd : p.isAbsolute = false → ¬placeOf cwd p <+: cwd := fun habsolute => by
      rw [hp.absolute] at habsolute
      cases habsolute
    obtain ⟨t₁, hremoved, hshrunk, hempty⟩ :=
      removeIfThere_of_room (hp.room hfree cwd) hp.endsInName hcwd
    rw [hp.placeOf_eq] at hempty
    have hseq : (removeIfThere cwd p >>= fun _ => makeAll cwd p : Edit Unit) t =
        makeAll cwd p t₁ := by
      simp only [bind, EStateM.bind, hremoved]
    refine ⟨t₁, hseq, hshrunk, fun q hq => ?_, fun _ q hpre hne => ?_⟩
    · have hplace : ¬placeOf cwd p <+: q := hp.placeOf_eq cwd ▸ hq rfl
      have hsame := find?_leaves_removeIfThere cwd p t hplace
      rwa [Edit.leaves, hremoved] at hsame
    · -- if no directory is there, nothing has been below
      by_cases hthere : t.find? (namesOf p) = some .directory
      · exact hempty (hp.leadsToDirectory ht hthere cwd) q hpre hne
      · rcases hshrunk q with hsame | hnone
        · rw [hsame, ht.below hpre hne hthere]
        · exact hnone

/-- **A directory has been made**: with it all directories above it are there, and nothing else is
new. What was there is kept, but for what was at the place or below if the directory is to be
empty. -/
structure Made (wipe : Bool) (t t' : FileTree) (place : Position) : Prop where
  directory : ∀ q, q <+: place → t'.find? q = some .directory
  kept : ∀ q e, (wipe = true → ¬place <+: q) → t.find? q = some e → t'.find? q = some e
  new : ∀ q, t.find? q = none → t'.find? q ≠ none → q <+: place
  empty : wipe = true → ∀ q, place <+: q → q ≠ place → t'.find? q = none

/-- **Where no file is in the way** the directory is made. -/
theorem Direct.exists_made (hp : Direct p) (ht : t.Rooted)
    (hfree : ∀ q, q <+: namesOf p → t.Free q) (cwd : Position) (wipe : Bool) :
    ∃ t', makeDirectory cwd p wipe t = .ok () t' ∧ Made wipe t t' (namesOf p) := by
  obtain ⟨t₁, heq, hemptied⟩ := hp.exists_emptied ht hfree cwd wipe
  have hroom : Room t₁ cwd p := hp.room (fun q hq => hemptied.shrunk.free (hfree q hq)) cwd
  obtain ⟨front, last, hnames, hdots⟩ := hp.endsInName
  have hdot : (namesOf p).getLast? = some "." → p.steps = [] := by
    rw [hnames, List.getLast?_concat]
    exact fun hends => absurd (Option.some.inj hends) (not_or.1 hdots).1
  obtain ⟨t', hmade, hall⟩ := makeAll_of_room hroom hdot
  have hgrown := grown_makeAll cwd p t₁
  rw [Edit.leaves, hmade] at hgrown
  -- first the tree shrinks from `t` to `t₁`, then it grows to `t'`, and each says what a position
  -- can have become
  refine ⟨t', heq.trans hmade, fun q hq => ?_, fun q e hkept he => ?_, fun q hnone hnew => ?_,
    fun hwipe q hpre hne => ?_⟩
  · by_cases hroot : q = []
    · rw [hroot, find?_root]
    · exact hall q (hp.mem_enters_of_prefix hq hroot)
  · have he₁ := (hemptied.kept q hkept).trans he
    rcases hgrown q with hsame | ⟨hnone, -, -⟩
    · exact hsame.trans he₁
    · cases he₁.symm.trans hnone
  · rcases hgrown q with hsame | ⟨-, henters, -⟩
    · rcases hemptied.shrunk q with hsame₁ | hnone₁
      · exact absurd (hsame.trans (hsame₁.trans hnone)) hnew
      · exact absurd (hsame.trans hnone₁) hnew
    · exact hp.prefix_of_mem_enters henters
  · rcases hgrown q with hsame | ⟨-, henters, -⟩
    · exact hsame.trans (hemptied.below hwipe q hpre hne)
    · exact absurd ((hp.prefix_of_mem_enters henters).eq_of_length_le hpre.length_le) hne

/-- A tree stays rooted. -/
theorem Made.rooted {wipe : Bool} {place : Position} (h : Made wipe t t' place) (ht : t.Rooted) :
    t'.Rooted := by
  refine rooted_iff.2 fun q name hthere => ?_
  by_cases hway : q <+: place
  · exact h.directory q hway
  have hway' : ¬q ++ [name] <+: place := fun hpre =>
    hway ((List.prefix_append q [name]).trans hpre)
  have hold : t.find? (q ++ [name]) ≠ none := fun hnone => hway' (h.new _ hnone hthere)
  refine h.kept q _ (fun hwipe hbelow => ?_) (rooted_iff.1 ht q name hold)
  refine hthere (h.empty hwipe _ (hbelow.trans (List.prefix_append q [name])) fun heq => ?_)
  exact hway' (heq ▸ List.prefix_refl _)

/-- **Making a directory.** At a path that leads straight down in a rooted tree, a directory is made
just if no file is on the way or at its place, and if it is not made, the tree is left as it is.
What is made is told by `Made`, in a tree that is rooted again. A directory that was made and not
emptied is made again without any change. -/
theorem makeDirectory_of_direct (hp : Direct p) (ht : t.Rooted) (cwd : Position) (wipe : Bool) :
    ((∃ t', makeDirectory cwd p wipe t = .ok () t') ↔ ∀ q, q <+: namesOf p → t.Free q) ∧
      (∀ e t', makeDirectory cwd p wipe t = .error e t' → t' = t) ∧
      ∀ t', makeDirectory cwd p wipe t = .ok () t' →
        Made wipe t t' (namesOf p) ∧ t'.Rooted ∧
          (wipe = false → makeDirectory cwd p false t' = .ok () t') := by
  by_cases hfree : ∀ q, q <+: namesOf p → t.Free q
  · obtain ⟨t₁, hmake, hmade⟩ := hp.exists_made ht hfree cwd wipe
    refine ⟨iff_of_true ⟨t₁, hmake⟩ hfree, fun e t' herror => ?_, fun t' hok => ?_⟩
    · cases hmake.symm.trans herror
    · obtain rfl : t₁ = t' := by
        cases hmake.symm.trans hok
        rfl
      have hrooted := hmade.rooted ht
      exact ⟨hmade, hrooted, fun _ => hp.makeAll_of_directory hrooted
        (hmade.directory _ (List.prefix_refl _)) cwd⟩
  · obtain ⟨q, hfile⟩ := not_forall.1 hfree
    obtain ⟨hpre, hfile⟩ := Classical.not_imp.1 hfile
    obtain ⟨e₁, hmake⟩ := hp.makeDirectory_of_blocked (hp.blocked_of_file ht hpre hfile cwd) wipe
    refine ⟨iff_of_false (fun hok => ?_) hfree, fun e t' herror => ?_, fun t' hok => ?_⟩
    · obtain ⟨t', hok⟩ := hok
      cases hmake.symm.trans hok
    · cases hmake.symm.trans herror
      rfl
    · cases hmake.symm.trans hok

/-- A tree with results in a directory and a file beside it. -/
def resultsTree : FileTree :=
  (((empty.put ["scratch"] .directory).put ["scratch", "job"] .directory).put
    ["scratch", "job", "old"] (.file [] false)).put ["scratch", "log"] (.file [1] false)

theorem makeDirectory_of_direct_results :
    Direct (.ofText "/scratch/job") ∧ Direct (.ofText "/scratch/log/job") ∧ resultsTree.Rooted ∧
      (∃ t', makeDirectory [] (.ofText "/scratch/job") true resultsTree = .ok () t' ∧
        Made true resultsTree t' ["scratch", "job"]) ∧
      ¬∃ t', makeDirectory [] (.ofText "/scratch/log/job") true resultsTree = .ok () t' := by
  have hjob : Direct (.ofText "/scratch/job") := by decide +kernel
  have hlog : Direct (.ofText "/scratch/log/job") := by decide +kernel
  have hrooted : resultsTree.Rooted := by decide +kernel
  have hnames : namesOf (.ofText "/scratch/job") = ["scratch", "job"] := by decide +kernel
  obtain ⟨hok, -, hmade⟩ := makeDirectory_of_direct hjob hrooted [] true
  obtain ⟨hok', -⟩ := makeDirectory_of_direct hlog hrooted [] true
  have hfree : ∀ q ∈ ["scratch", "job"].inits, resultsTree.Free q := by decide +kernel
  have hfile : ["scratch", "log"] <+: namesOf (.ofText "/scratch/log/job") ∧
      ¬resultsTree.Free ["scratch", "log"] := by decide +kernel
  obtain ⟨t', ht'⟩ := hok.2 fun q hq => hfree q ((List.mem_inits q _).2 (hnames ▸ hq))
  exact ⟨hjob, hlog, hrooted, ⟨t', ht', hnames ▸ (hmade t' ht').1⟩,
    fun hmade => hfile.2 (hok'.1 hmade _ hfile.1)⟩

end SiteRuntime.FileTree
