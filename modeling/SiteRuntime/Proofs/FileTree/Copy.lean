import SiteRuntime.Proofs.FileTree.Room
import SiteRuntime.Proofs.Path.Plain

/-!
# Files copied into a directory

Files are copied by name from one directory into another. While all directories on the way to the
target stand, no directory is where a copy should go, and nothing on the way to the files lies below
the target (`Deposit`), each copy is made, and neither the files that are still to be copied nor the
copies already made are touched by it (`Deposit.copy`). What was copied can be read in the target
(`Deposit.content`).
-/

namespace SiteRuntime.FileTree

/-! ### A name in a directory -/

/-- A name that a file can have in any directory. -/
def FileName (name : String) : Prop :=
  Path.Plain name ∧ '\x00' ∉ name.toList ∧ isLongName name = false

instance : DecidablePred FileName := fun name =>
  inferInstanceAs (Decidable (Path.Plain name ∧ '\x00' ∉ name.toList ∧ isLongName name = false))

variable {t t' : FileTree} {cwd : Position} {p source target : Path} {name : String}

theorem namesOf_joinText (h : FileName name) (p : Path) :
    namesOf (p.joinText name) = namesOf p ++ [name] := by
  rw [namesOf, Path.joinText, Path.parts_join p h.1.isAbsolute, h.1.parts, List.map_append,
    List.map_singleton, String.ofList_toList, namesOf]

theorem isAbsolute_joinText (h : FileName name) (p : Path) :
    (p.joinText name).isAbsolute = p.isAbsolute := by
  rw [Path.joinText, Path.isAbsolute_join, h.1.isAbsolute, Bool.or_false]

theorem mem_chars_join {c : Char} {q : Path} (h : c ∈ (p.join q).chars) :
    c ∈ p.chars ∨ c = Path.separator ∨ c ∈ q.chars := by
  rw [Path.join] at h
  split at h
  · exact .inr (.inr h)
  · split at h
    · exact (List.mem_append.1 h).imp_right .inr
    · exact (List.mem_append.1 h).imp_right List.mem_cons.1

/-- A file of a name can be followed to wherever its directory can, if the path is not too long. -/
theorem Followable.joinText (hp : Followable t cwd p) (h : FileName name)
    (hshort : (p.joinText name).text.utf8ByteSize < maxPath) :
    Followable t cwd (p.joinText name) where
  plain := fun hnul => by
    rcases mem_chars_join hnul with hnul | hnul | hnul
    · exact hp.plain hnul
    · exact absurd hnul (by decide)
    · exact h.2.1 hnul
  short := hshort
  short_names := by
    rw [namesOf_joinText h, List.forall_mem_append]
    exact ⟨hp.short_names, List.forall_mem_singleton.2 h.2.2⟩
  origin := by
    rw [isAbsolute_joinText h]
    exact hp.origin

theorem endsInSeparator_joinText (h : FileName name) (p : Path) :
    (p.joinText name).endsInSeparator = false := by
  -- the path ends in what the name ends in
  obtain ⟨front, last, hlast⟩ : ∃ front last, name.toList = front ++ [last] := by
    rcases List.eq_nil_or_concat name.toList with hnil | ⟨front, last, hlast⟩
    · exact absurd hnil (Path.toList_ne_of_ne h.1.1)
    · exact ⟨front, last, hlast.trans List.concat_eq_append⟩
  have hsep : last ≠ Path.separator := by
    rintro rfl
    exact h.1.2.1 (hlast ▸ List.mem_append_right front List.mem_cons_self)
  have hchars : ∃ before, (p.joinText name).chars = before ++ [last] := by
    rw [Path.joinText, Path.join, if_neg (by rw [h.1.isAbsolute]; exact Bool.false_ne_true)]
    split
    · exact ⟨p.chars ++ front, by rw [Path.ofText, hlast, List.append_assoc]⟩
    · exact ⟨p.chars ++ Path.separator :: front, by simp [Path.ofText, hlast]⟩
  obtain ⟨before, hbefore⟩ := hchars
  rw [Path.endsInSeparator, hbefore, List.getLast?_concat]
  exact decide_eq_false fun hlast => hsep (Option.some.inj hlast)

/-- A file of a name is looked for in the directory that the path leads to. -/
theorem locate_joinText (h : FileName name) (hp : Followable t cwd (p.joinText name))
    (hdirectories : ∀ q ∈ enters cwd p, t.find? q = some .directory) :
    t.locate cwd (p.joinText name) = .ok ⟨placeOf cwd p, .name name⟩ := by
  have hnames := namesOf_joinText h p
  have hshort : ∀ n ∈ namesOf p, isLongName n = false := fun n hn =>
    hp.short_names n (hnames ▸ List.mem_append_left [name] hn)
  have hwalk : t.walk (originOf cwd (p.joinText name)) (namesOf p) = .ok (placeOf cwd p) := by
    rw [originOf, isAbsolute_joinText h]
    exact walk_eq_ok_iff.2 ⟨rfl, hshort, hdirectories⟩
  rw [hp.locate_eq hnames, hwalk, lastOf_of_name (not_or.2 h.1.2.2)]
  rfl

/-! ### Reading and writing -/

/-- A file is written where no directory stands. -/
theorem write_of_locate (h : FileName name) {d : Position}
    (hl : t.locate cwd (p.joinText name) = .ok ⟨d, .name name⟩)
    (hvacant : t.find? (d ++ [name]) ≠ some .directory) (bytes : Bytes) :
    ∃ executable, t.write cwd (p.joinText name) bytes =
      .ok (t.put (d ++ [name]) (.file bytes executable)) := by
  rw [write, hl]
  dsimp only [bind, Except.bind]
  rw [h.2.2, if_neg Bool.false_ne_true, endsInSeparator_joinText h]
  cases hfind : t.find? (d ++ [name]) with
  | none => exact ⟨false, rfl⟩
  | some entry =>
    cases entry with
    | directory => exact absurd hfind hvacant
    | file content executable => exact ⟨executable, rfl⟩

/-- What stands in a file is read from it. -/
theorem content_of_locate (h : FileName name) {d : Position}
    (hl : t.locate cwd (p.joinText name) = .ok ⟨d, .name name⟩) {bytes : Bytes} {executable : Bool}
    (hfile : t.find? (d ++ [name]) = some (.file bytes executable)) :
    t.content cwd (p.joinText name) = .ok bytes := by
  rw [content, resolve, hl]
  dsimp only [bind, Except.bind]
  rw [h.2.2, if_neg Bool.false_ne_true, hfile, endsInSeparator_joinText h]
  rfl

theorem exists_resolve_of_content {bytes : Bytes} (h : t.content cwd p = .ok bytes) :
    ∃ position executable, t.resolve cwd p = .ok (position, .file bytes executable) := by
  rw [content] at h
  cases hr : t.resolve cwd p with
  | error e => rw [hr] at h; cases h
  | ok found =>
    obtain ⟨position, entry⟩ := found
    rw [hr] at h
    cases entry with
    | directory => cases h
    | file content executable =>
      cases h
      exact ⟨position, executable, rfl⟩

/-- A file that can be read is copied by writing what stands in it. -/
theorem copy_of_content {bytes : Bytes} (h : t.content cwd source = .ok bytes) (target : Path) :
    t.copy cwd source target = t.write cwd target bytes := by
  obtain ⟨position, executable, hr⟩ := exists_resolve_of_content h
  rw [copy, hr]
  rfl

/-! ### Copying from one directory into another -/

/-- Files of some names can be copied from a directory into another one. -/
structure Deposit (t : FileTree) (cwd : Position) (source target : Path) (names : List String)
    (contents : String → Bytes) : Prop where
  /-- The files can be read. -/
  readable : ∀ name ∈ names, t.content cwd (source.joinText name) = .ok (contents name)
  /-- Nothing on the way to them lies below the target. -/
  apart : ∀ name ∈ names, ∀ q ∈ enters cwd (source.joinText name), placeOf cwd target <+: q →
    q = placeOf cwd target
  /-- The copies can be reached. -/
  followable : ∀ name ∈ names, Followable t cwd (target.joinText name)
  /-- The target is there. -/
  directories : ∀ q ∈ enters cwd target, t.find? q = some .directory
  /-- No directory stands where a copy goes, -/
  vacant : ∀ name ∈ names, t.find? (placeOf cwd target ++ [name]) ≠ some .directory
  /-- and none is needed there. -/
  aside : ∀ name ∈ names, placeOf cwd target ++ [name] ∉ enters cwd target
  /-- A working directory that one of the paths starts from does not lie below the target. -/
  outside : source.isAbsolute = false ∨ target.isAbsolute = false → ¬placeOf cwd target <+: cwd

/-- The target holds the copy of a name. -/
def Holds (t : FileTree) (cwd : Position) (target : Path) (contents : String → Bytes)
    (name : String) : Prop :=
  ∃ executable, t.find? (placeOf cwd target ++ [name]) = some (.file (contents name) executable)

variable {names : List String} {contents : String → Bytes}

theorem concat_ne_of_outside {place q : Position} (h : ¬place <+: q) : q ≠ place ++ [name] := by
  rintro rfl
  exact h (List.prefix_append place [name])

/-- A file put in the target is on the way to nothing. -/
theorem Deposit.congr (h : Deposit t cwd source target names contents) (hname : name ∈ names)
    (hnames : ∀ name ∈ names, FileName name)
    (hfile : ∀ entry, t'.find? (placeOf cwd target ++ [name]) = some entry → entry ≠ .directory)
    (hsame : ∀ q, q ≠ placeOf cwd target ++ [name] → t'.find? q = t.find? q) :
    Deposit t' cwd source target names contents where
  readable := fun other hother => by
    have henters : ∀ q ∈ enters cwd (source.joinText other), t'.find? q = t.find? q := by
      refine fun q hq => hsame q ?_
      -- the new file would lie on the way below the target
      rintro rfl
      have := h.apart other hother _ hq (List.prefix_append _ [name])
      simp at this
    have hcwd : (source.joinText other).isAbsolute = false →
        t'.isDirectory cwd = t.isDirectory cwd := by
      rw [isAbsolute_joinText (hnames other hother)]
      intro habsolute
      rw [isDirectory, isDirectory,
        hsame cwd (concat_ne_of_outside (h.outside (.inl habsolute)))]
    have hread := h.readable other hother
    rw [content] at hread ⊢
    rwa [resolve_congr henters hcwd]
  apart := h.apart
  followable := fun other hother => (h.followable other hother).congr fun habsolute hcwd => by
    rw [isAbsolute_joinText (hnames other hother)] at habsolute
    rw [isDirectory, hsame cwd (concat_ne_of_outside (h.outside (.inr habsolute)))]
    exact hcwd
  directories := fun q hq => by
    refine (hsame q ?_).trans (h.directories q hq)
    rintro rfl
    exact h.aside name hname hq
  vacant := fun other hother hdirectory => by
    by_cases hone : other = name
    · rw [hone] at hdirectory
      exact hfile _ hdirectory rfl
    · refine h.vacant other hother ((hsame _ fun heq => hone ?_).symm.trans hdirectory)
      exact List.singleton_inj.1 (List.append_cancel_left heq)
  aside := h.aside
  outside := h.outside

/-- **One copy.** It is made, the files can still be copied, and no other copy is lost. -/
theorem Deposit.copy (h : Deposit t cwd source target names contents) (hname : name ∈ names)
    (hnames : ∀ name ∈ names, FileName name) :
    ∃ t', t.copy cwd (source.joinText name) (target.joinText name) = .ok t' ∧
      Deposit t' cwd source target names contents ∧ Holds t' cwd target contents name ∧
      ∀ other, Holds t cwd target contents other → Holds t' cwd target contents other := by
  have hfile := hnames name hname
  have hl := locate_joinText hfile (h.followable name hname) h.directories
  obtain ⟨executable, hwrite⟩ :=
    write_of_locate hfile hl (h.vacant name hname) (contents name)
  have hposition : placeOf cwd target ++ [name] ≠ [] := by simp
  have hput : (t.put (placeOf cwd target ++ [name]) (.file (contents name) executable)).find?
      (placeOf cwd target ++ [name]) = some (.file (contents name) executable) := by
    rw [find?_put hposition, if_pos rfl]
  have hsame : ∀ q, q ≠ placeOf cwd target ++ [name] →
      (t.put (placeOf cwd target ++ [name]) (.file (contents name) executable)).find? q =
        t.find? q := fun q hq => find?_put_of_ne hq _
  refine ⟨_, (copy_of_content (h.readable name hname) _).trans hwrite,
    h.congr hname hnames (fun entry hentry => ?_) hsame, ⟨executable, hput⟩,
    fun other ⟨executable', hother⟩ => ?_⟩
  · rw [hput] at hentry
    cases hentry
    nofun
  · by_cases hone : other = name
    · rw [hone]
      exact ⟨executable, hput⟩
    · refine ⟨executable', (hsame _ fun heq => hone ?_).trans hother⟩
      exact List.singleton_inj.1 (List.append_cancel_left heq)

/-- A copy that the target holds can be read there. -/
theorem Deposit.content (h : Deposit t cwd source target names contents) (hname : name ∈ names)
    (hfile : FileName name) (hholds : Holds t cwd target contents name) :
    t.content cwd (target.joinText name) = .ok (contents name) := by
  obtain ⟨executable, hfind⟩ := hholds
  exact content_of_locate hfile
    (locate_joinText hfile (h.followable name hname) h.directories) hfind

/-! ### Making the directory -/

/-- There is room for a directory that takes files of some names from another one. -/
structure RoomFor (t : FileTree) (cwd : Position) (source target : Path) (names : List String) :
    Prop extends Room t cwd target where
  /-- The target ends in a name, so that it can be emptied. -/
  named : EndsInName target
  /-- The paths of the copies are not too long. -/
  short_copies : ∀ name ∈ names, (target.joinText name).text.utf8ByteSize < maxPath
  /-- Nothing on the way to the files lies below the target. -/
  apart : ∀ name ∈ names, ∀ q ∈ enters cwd (source.joinText name), placeOf cwd target <+: q →
    q = placeOf cwd target
  /-- The path of the target has not come through where a copy goes, -/
  aside : ∀ name ∈ names, placeOf cwd target ++ [name] ∉ enters cwd target
  /-- and a directory that stands there is taken away with the target. -/
  vacant : ∀ name ∈ names, t.leadsToDirectory cwd target = true ∨
    t.find? (placeOf cwd target ++ [name]) ≠ some .directory
  /-- A working directory that one of the paths starts from does not lie below the target. -/
  outside : source.isAbsolute = false ∨ target.isAbsolute = false → ¬placeOf cwd target <+: cwd

/-- The working directory is still there when the target has been made. -/
theorem RoomFor.isDirectory_of_made (h : RoomFor t cwd source target names)
    (hmade : makeDirectory cwd target true t = .ok () t')
    (hrelative : source.isAbsolute = false ∨ target.isAbsolute = false)
    (hcwd : t.isDirectory cwd = true) : t'.isDirectory cwd = true := by
  have hkept := keeps_makeDirectory cwd target true t cwd .directory (h.outside hrelative)
    (of_decide_eq_true hcwd)
  rw [Edit.leaves, hmade] at hkept
  exact decide_eq_true hkept

/-- The files can still be read when the target has been made. -/
theorem RoomFor.content_of_made (h : RoomFor t cwd source target names) (hname : name ∈ names)
    (hfile : FileName name) (hmade : makeDirectory cwd target true t = .ok () t')
    (hdirectories : ∀ q ∈ enters cwd target, t'.find? q = some .directory) {bytes : Bytes}
    (hread : t.content cwd (source.joinText name) = .ok bytes) :
    t'.content cwd (source.joinText name) = .ok bytes := by
  obtain ⟨position, executable, hresolve⟩ := exists_resolve_of_content hread
  have hthere := find?_isSome_of_resolve hresolve
  have henters : ∀ q ∈ enters cwd (source.joinText name), t'.find? q = t.find? q := by
    intro q hq
    obtain ⟨entry, hentry⟩ := Option.isSome_iff_exists.1 (hthere q hq)
    by_cases hbelow : placeOf cwd target <+: q
    · -- the way to the file may come through the target, which is a directory before and after
      obtain rfl := h.apart name hname q hq hbelow
      have hplace : placeOf cwd target ∈ enters cwd target := placeOf_mem_enters h.named
      rcases h.free _ hplace with hnone | hdirectory
      · cases hnone.symm.trans hentry
      · rw [hdirectory, hdirectories _ hplace]
    · have hkept := keeps_makeDirectory cwd target true t q entry hbelow hentry
      rw [Edit.leaves, hmade] at hkept
      exact hkept.trans hentry.symm
  have hsource : (source.joinText name).isAbsolute = false →
      t'.isDirectory cwd = t.isDirectory cwd := by
    intro habsolute
    have hdirectory := isDirectory_of_resolve hresolve habsolute
    rw [isAbsolute_joinText hfile] at habsolute
    rw [hdirectory, h.isDirectory_of_made hmade (.inl habsolute) hdirectory]
  rw [content] at hread ⊢
  rwa [resolve_congr henters hsource]

/-- **A directory for files.** It is made and emptied, and the files can be copied then. -/
theorem RoomFor.makeDirectory (h : RoomFor t cwd source target names)
    (hnames : ∀ name ∈ names, FileName name)
    (hreadable : ∀ name ∈ names, t.content cwd (source.joinText name) = .ok (contents name)) :
    ∃ t', makeDirectory cwd target true t = .ok () t' ∧
      Deposit t' cwd source target names contents := by
  obtain ⟨t', hmade, hdirectories, hstands⟩ :=
    makeDirectory_of_room h.toRoom h.named fun habsolute => h.outside (.inr habsolute)
  have htarget : Followable t' cwd target := h.toFollowable.congr fun habsolute =>
    h.isDirectory_of_made hmade (.inr habsolute)
  refine ⟨t', hmade,
    { readable := fun name hname =>
        h.content_of_made hname (hnames name hname) hmade hdirectories (hreadable name hname)
      apart := h.apart
      followable := fun name hname =>
        htarget.joinText (hnames name hname) (h.short_copies name hname)
      directories := hdirectories
      vacant := fun name hname hdirectory => ?_
      aside := h.aside
      outside := h.outside }⟩
  obtain ⟨hbefore, hleads⟩ :=
    hstands _ (List.prefix_append _ [name]) (h.aside name hname) hdirectory
  rcases h.vacant name hname with hthere | hvacant
  · rw [hthere] at hleads
    cases hleads
  · exact hvacant hbefore

end SiteRuntime.FileTree
