import SiteRuntime.Proofs.Activation.Calls
import SiteRuntime.Proofs.Lmod.Output
import SiteRuntime.Proofs.Lmod.Request

/-!
# The search path of modules

Lmod keeps the directories that are searched for modules in a variable, between colons. The command
is asked to put directories in front of it and to take directories out of it, and what it prints is
carried out. `KeepsSearchPath` says what is expected of the command, for any process environment and
any directories; `keepsSearchPath_searchCommand` is a command that does it.

The variable may hold any bytes. The command sees the bytes, while what it prints is read as text
and what is looked up has to be text. So entries come as bytes in `searchEntries`, as they are shown
in `otherEntries`, and as they are found in `pathEntries`. They agree if the variable is text
(`otherEntries_of_hasText`), as it is after every call (`execute_of_prints`).
-/

namespace SiteRuntime.Lmod

/-! ### Entries -/

/-- The variable that lists the directories searched for modules. -/
def searchVariable : Bytes := Bytes.ofText "MODULEPATH"

/-- The byte between the entries of a list. -/
def colon : UInt8 := 58

/-- The entries of a list. -/
def entriesOf (value : Bytes) : List Bytes := (value.splitOn colon).filter (!·.isEmpty)

theorem mem_splitOn {sep : UInt8} {value part : Bytes} (h : part ∈ value.splitOn sep) :
    sep ∉ part ∧ part ⊆ value := by
  -- a byte that is no separator goes in front of the first part
  induction value generalizing part with
  | nil =>
    rw [List.splitOn_nil, List.mem_singleton] at h
    rw [h]
    exact ⟨List.not_mem_nil, List.nil_subset _⟩
  | cons b rest ih =>
    rw [List.splitOn_cons_eq_if_modifyHead] at h
    split at h
    next =>
      rcases List.mem_cons.1 h with rfl | h
      · exact ⟨List.not_mem_nil, List.nil_subset _⟩
      · exact (ih h).imp_right (List.subset_cons_of_subset _)
    next hb =>
      cases hparts : rest.splitOn sep with
      | nil => exact absurd hparts (List.splitOn_ne_nil sep rest)
      | cons first parts =>
        rw [hparts] at h ih
        rcases List.mem_cons.1 h with rfl | h
        · obtain ⟨hsep, hsub⟩ := ih List.mem_cons_self
          refine ⟨List.not_mem_cons_of_ne_of_not_mem (fun heq => hb (by simp [heq])) hsep, ?_⟩
          exact List.cons_subset_cons _ hsub
        · exact (ih (List.mem_cons_of_mem _ h)).imp_right (List.subset_cons_of_subset _)

/-- An entry is not empty, has no colon in it and is part of the list. -/
theorem mem_entriesOf {value entry : Bytes} (h : entry ∈ entriesOf value) :
    entry ≠ [] ∧ colon ∉ entry ∧ entry ⊆ value := by
  obtain ⟨hmem, hne⟩ := List.mem_filter.1 h
  exact ⟨by simpa using hne, mem_splitOn hmem⟩

theorem ofText_ofList_intercalate (parts : List (List Char)) :
    Bytes.ofText (String.ofList ([':'].intercalate parts)) =
      [colon].intercalate (parts.map fun part => Bytes.ofText (String.ofList part)) := by
  simp only [Bytes.ofText_eq_flatMap, String.toList_ofList]
  induction parts with
  | nil => rfl
  | cons part rest ih =>
    cases rest with
    | nil => simp
    | cons next rest =>
      have hcolon : [':'].flatMap String.utf8EncodeChar = [colon] := by decide
      rw [List.intercalate_cons_cons, List.flatMap_append, List.flatMap_append, ih, hcolon]
      simp only [List.map_cons, List.intercalate_cons_cons]

theorem colon_mem_ofText_iff {s : String} : colon ∈ Bytes.ofText s ↔ ':' ∈ s.toList :=
  Bytes.mem_ofText_iff (c := ':') (by decide)

/-- The entries of a list that is text are those of the text. -/
theorem entriesOf_ofText (value : String) :
    entriesOf (Bytes.ofText value) =
      (Text.fields ':' value.toList).map fun part => Bytes.ofText (String.ofList part) := by
  have hcolon : ∀ part ∈ (Text.splitOn ':' value.toList).map fun part =>
      Bytes.ofText (String.ofList part), colon ∉ part := by
    intro entry hentry
    obtain ⟨part, hpart, rfl⟩ := List.mem_map.1 hentry
    rw [colon_mem_ofText_iff, String.toList_ofList]
    exact Text.notMem_of_mem_splitOn hpart
  have hvalue : Bytes.ofText value = [colon].intercalate
      ((Text.splitOn ':' value.toList).map fun part => Bytes.ofText (String.ofList part)) := by
    rw [← ofText_ofList_intercalate, Text.intercalate_splitOn, String.ofList_toList]
  have hne : (Text.splitOn ':' value.toList).map (fun part =>
      Bytes.ofText (String.ofList part)) ≠ [] :=
    mt List.map_eq_nil_iff.1 (Text.splitOn_ne_nil ':' value.toList)
  rw [entriesOf, hvalue, List.splitOn_intercalate colon hcolon hne, List.filter_map, Text.fields]
  congr 1
  refine List.filter_congr fun part _ => congrArg not ?_
  rw [Bool.eq_iff_iff, List.isEmpty_iff, List.isEmpty_iff, Bytes.ofText_eq_nil_iff]
  simp

/-! ### The search path -/

/-- The entries of the search path, as they stand in the process environment. -/
def searchEntries (e : ProcessEnv) : List Bytes := (e.value? searchVariable).elim [] entriesOf

/-- The entries of the search path besides some directories, as they are shown. -/
def otherEntries (paths : List String) (e : ProcessEnv) : List String :=
  ((searchEntries e).filter (· ∉ paths.map Bytes.ofText)).map Bytes.lossy

/-- The search path is text, or not there. -/
def HasText (e : ProcessEnv) : Prop :=
  ∀ value, e.value? searchVariable = some value → ∃ s, value = Bytes.ofText s

section SearchPath

variable {e : ProcessEnv} {paths : List String}

theorem isVariableName_searchVariable : isVariableName "MODULEPATH" = true := by decide

theorem text?_eq_bind (e : ProcessEnv) :
    e.text? "MODULEPATH" = (e.value? searchVariable).bind Bytes.text? := by
  rw [ProcessEnv.text?, ProcessEnv.read?_eq_value?
    (isVariableName_iff.1 isVariableName_searchVariable).2.1]
  rfl

theorem lossy_comp_ofText : Bytes.lossy ∘ Bytes.ofText = id := funext Bytes.lossy_ofText

/-- Of a search path that is text the entries are found. -/
theorem searchEntries_of_hasText (h : HasText e) :
    searchEntries e = (pathEntries e "MODULEPATH").map Bytes.ofText := by
  rw [pathEntries, text?_eq_bind, searchEntries]
  cases hvalue : e.value? searchVariable with
  | none => rfl
  | some value =>
    obtain ⟨s, rfl⟩ := h value hvalue
    rw [Option.bind_some, Bytes.text?_ofText, Option.elim_some, entriesOf_ofText, List.map_map]
    rfl

theorem map_lossy_searchEntries (h : HasText e) :
    (searchEntries e).map Bytes.lossy = pathEntries e "MODULEPATH" := by
  rw [searchEntries_of_hasText h, List.map_map, lossy_comp_ofText, List.map_id]

/-- Of any other search path none is found. -/
theorem pathEntries_of_not_hasText (h : ¬ HasText e) : pathEntries e "MODULEPATH" = [] := by
  obtain ⟨value, hvalue⟩ := not_forall.1 h
  obtain ⟨hvalue, htext⟩ := Classical.not_imp.1 hvalue
  have hnone : Bytes.text? value = none :=
    Option.eq_none_iff_forall_ne_some.2 fun s hs => htext ⟨s, Bytes.text?_eq_some_iff.1 hs⟩
  rw [pathEntries, text?_eq_bind, hvalue, Option.bind_some, hnone]

/-- Entries that are taken out as bytes are also taken out as they are shown. -/
theorem filter_otherEntries (paths : List String) (e : ProcessEnv) :
    (otherEntries paths e).filter (· ∉ paths) =
      ((searchEntries e).map Bytes.lossy).filter (· ∉ paths) := by
  rw [otherEntries, List.filter_map, List.filter_map, List.filter_filter]
  congr 1
  refine List.filter_congr fun entry _ => ?_
  have hshown : entry ∈ paths.map Bytes.ofText → Bytes.lossy entry ∈ paths := by
    intro h
    obtain ⟨p, hp, rfl⟩ := List.mem_map.1 h
    rwa [Bytes.lossy_ofText]
  simpa using fun h => mt hshown h

/-- In a search path that is text there are the entries that are found, besides some of them. -/
theorem otherEntries_of_hasText (h : HasText e) (paths : List String) :
    otherEntries paths e = (pathEntries e "MODULEPATH").filter (· ∉ paths) := by
  have hmem : ∀ p : String, Bytes.ofText p ∈ paths.map Bytes.ofText ↔ p ∈ paths := by
    intro p
    simp [Bytes.ofText_inj]
  rw [otherEntries, searchEntries_of_hasText h, List.filter_map, List.map_map, lossy_comp_ofText,
    List.map_id]
  exact List.filter_congr fun p _ => decide_eq_decide.2 (not_congr (hmem p))

/-- Directories in front of the other entries are taken out again, and with them the entries that
are shown like one of them. -/
theorem otherEntries_of_added {e' : ProcessEnv} (h : HasText e')
    (hadded : pathEntries e' "MODULEPATH" = paths ++ otherEntries paths e) :
    otherEntries paths e' = ((searchEntries e).map Bytes.lossy).filter (· ∉ paths) := by
  have hown : paths.filter (· ∉ paths) = [] :=
    List.filter_eq_nil_iff.2 fun p hp => by simp [hp]
  rw [otherEntries_of_hasText h, hadded, List.filter_append, hown, List.nil_append,
    filter_otherEntries]

end SearchPath

/-! ### What a call leaves of it -/

/-- Statements that leave a search path with some entries: the last one about it assigns them, or
removes it if there are none. -/
def LeaveEntries (statements : List Statement) (entries : List String) : Prop :=
  ∃ before s after, statements = before ++ s :: after ∧
    (∀ t ∈ after, ¬ t.Concerns searchVariable) ∧
      ((∃ value : String, s.Assigns searchVariable (Bytes.ofText value) ∧
          (Text.fields ':' value.toList).map String.ofList = entries) ∨
        s.Removes searchVariable ∧ entries = [])

section Calls

variable {μ : Type} {l : Lmod μ} {m : Machine μ} {arguments entries : List String}

/-- A call of the command that succeeds and prints statements which leave a search path with some
entries. -/
def Prints (program : Program μ) (m : Machine μ) (arguments entries : List String) : Prop :=
  ∃ out, program m ("sh" :: arguments) = .ok out ∧ out.succeeded = true ∧
    ¬ SaysError (Bytes.lossy out.stderr).toList ∧
      LeaveEntries (Statement.readAll (Bytes.lossy out.stdout).toList) entries

theorem LeaveEntries.pathEntries {statements : List Statement} (h : LeaveEntries statements entries)
    (e : ProcessEnv) :
    HasText (e.applyAll (statements.flatMap Statement.writes)) ∧
      pathEntries (e.applyAll (statements.flatMap Statement.writes)) "MODULEPATH" = entries := by
  obtain ⟨before, s, after, rfl, hafter, ⟨value, hassigns, hvalue⟩ | ⟨hremoves, rfl⟩⟩ := h
  · have hfound := value?_of_last e before s hafter
    rw [Statement.value?_of_assigns hassigns] at hfound
    refine ⟨fun v hv => ⟨value, Option.some.inj (hv.symm.trans hfound)⟩, ?_⟩
    rw [Lmod.pathEntries, text?_eq_bind, hfound, Option.bind_some, Bytes.text?_ofText]
    exact hvalue
  · have hfound := value?_of_last e before s hafter
    rw [Statement.value?_of_removes hremoves] at hfound
    refine ⟨fun v hv => (nomatch hfound.symm.trans hv), ?_⟩
    rw [Lmod.pathEntries, text?_eq_bind, hfound, Option.bind_none]

theorem executeOn_of_ne_nil (l : Lmod μ) (command : String) {paths : List String} (h : paths ≠ []) :
    l.executeOn command paths = l.execute (command :: paths) := by
  rw [executeOn, if_neg (mt List.isEmpty_iff.1 h)]

/-- A command that could not be started leaves everything. -/
theorem execute_of_refused {cause : OsError} (h : l.program m ("sh" :: arguments) = .error cause) :
    l.execute arguments m = .error (.spawn (l.commandLine arguments) cause) m := by
  unfold execute call
  rw [h]

/-- The search path after such a call has these entries. -/
theorem execute_of_prints (h : Prints l.program m arguments entries) (hvalid : m.env.Valid) :
    ∃ m', l.execute arguments m = .ok () m' ∧ m'.env.Valid ∧ HasText m'.env ∧
      pathEntries m'.env "MODULEPATH" = entries := by
  obtain ⟨out, hprogram, hsucceeded, hmention, hleave⟩ := h
  refine ⟨m.write (writesOf (Bytes.lossy out.stdout)), ?_, ?_, hleave.pathEntries m.env⟩
  · unfold execute
    rw [call_of_done hprogram hsucceeded hmention]
  · exact ProcessEnv.valid_applyAll hvalid valid_of_mem_writesOf

end Calls

/-! ### Commands that keep the search path -/

/-- Whether a text can be an entry of a list. -/
def IsEntry (p : String) : Prop := p ≠ "" ∧ ':' ∉ p.toList

instance : DecidablePred IsEntry := fun _ => inferInstanceAs (Decidable (_ ∧ _))

/-- **What is expected of a module command**: with `use` it puts directories in front of the other
entries of the search path, with `unuse` it leaves those others. -/
structure KeepsSearchPath {μ : Type} (program : Program μ) : Prop where
  use : ∀ m : Machine μ, m.env.Valid → ∀ paths ≠ [], (∀ p ∈ paths, IsEntry p ∧ '\x00' ∉ p.toList) →
    Prints program m ("use" :: paths) (paths ++ otherEntries paths m.env)
  unuse : ∀ m : Machine μ, m.env.Valid → ∀ paths ≠ [],
    (∀ p ∈ paths, IsEntry p ∧ '\x00' ∉ p.toList) →
      Prints program m ("unuse" :: paths) (otherEntries paths m.env)
  /-- No program can be given an argument with a NUL in it. -/
  refuses : ∀ (m : Machine μ) (arguments : List String), (∃ a ∈ arguments, '\x00' ∈ a.toList) →
    ∃ cause, program m arguments = .error cause

/-! ### A command that keeps the search path -/

/-- What is found in a valid search path can be put into another one. -/
theorem isEntry_of_mem_otherEntries {e : ProcessEnv} (he : e.Valid) {paths : List String}
    {p : String} (h : p ∈ otherEntries paths e) : IsEntry p ∧ '\x00' ∉ p.toList := by
  obtain ⟨entry, hentry, rfl⟩ := List.mem_map.1 h
  have hmem := (List.mem_filter.1 hentry).1
  rw [searchEntries] at hmem
  cases hvalue : e.value? searchVariable with
  | none => rw [hvalue] at hmem; cases hmem
  | some value =>
    rw [hvalue, Option.elim_some] at hmem
    obtain ⟨hne, hcolon, hsub⟩ := mem_entriesOf hmem
    refine ⟨⟨Bytes.lossy_ne_empty hne, fun hc => ?_⟩, fun hnul => ?_⟩
    · exact hcolon (Bytes.mem_of_mem_lossy (c := ':') (by decide) hc)
    · exact (he _ _ hvalue).2 (hsub (Bytes.mem_of_mem_lossy (c := '\x00') (by decide) hnul))

/-- The name of the variable. -/
def searchName : Identifier := ⟨"MODULEPATH".toList, by decide⟩

theorem ofList_searchName : String.ofList searchName.chars = "MODULEPATH" := String.ofList_toList

/-- Entries with colons between them. -/
def joined (entries : List String) : List Char := [':'].intercalate (entries.map String.toList)

/-- What is printed to leave a search path with some entries. -/
def leaving (entries : List String) : Piece :=
  if entries.isEmpty then .unset searchName []
  else .assign true searchName [.double (joined entries)]

theorem readAll_text (piece : Piece) :
    Statement.readAll (piece.text ++ [';']) = piece.statement?.toList := by
  rw [readAll_append piece.passes_text, piece.trim_text, piece.read?_text]
  exact List.append_nil _

theorem leaveEntries_leaving {entries : List String}
    (h : ∀ p ∈ entries, IsEntry p ∧ '\x00' ∉ p.toList) :
    LeaveEntries (Statement.readAll ((leaving entries).text ++ [';'])) entries := by
  have hname : Write.ValidName searchVariable := by decide
  rw [readAll_text]
  cases entries with
  | nil =>
    have hstatement : (leaving []).statement? = some (.unset ["MODULEPATH"]) := by
      simp [leaving, Piece.statement?, ofList_searchName]
    have hremoves : (Statement.unset ["MODULEPATH"]).Removes searchVariable :=
      .unset List.mem_cons_self hname
    rw [hstatement]
    exact ⟨[], _, [], rfl, List.forall_mem_nil _, .inr ⟨hremoves, rfl⟩⟩
  | cons p rest =>
    have hstatement : (leaving (p :: rest)).statement? =
        some (.set "MODULEPATH" (String.ofList (joined (p :: rest)))) := by
      simp [leaving, Piece.statement?, ofList_searchName, Word.value, Segment.value]
    have hparts : ∀ part ∈ (p :: rest).map String.toList, part ≠ [] ∧ ':' ∉ part := by
      intro part hpart
      obtain ⟨q, hq, rfl⟩ := List.mem_map.1 hpart
      exact ⟨mt String.toList_eq_nil_iff.1 (h q hq).1.1, (h q hq).1.2⟩
    have hnul : '\x00' ∉ joined (p :: rest) := by
      rw [joined, Text.mem_intercalate_iff (by decide)]
      rintro ⟨part, hpart, hmem⟩
      obtain ⟨q, hq, rfl⟩ := List.mem_map.1 hpart
      exact (h q hq).2 hmem
    have hassigns : (Statement.set "MODULEPATH" (String.ofList (joined (p :: rest)))).Assigns
        searchVariable (Bytes.ofText (String.ofList (joined (p :: rest)))) := by
      refine .set hname ?_
      rwa [Write.ValidValue, zero_mem_ofText_iff, String.toList_ofList]
    rw [hstatement]
    refine ⟨[], _, [], rfl, List.forall_mem_nil _, .inl ⟨_, hassigns, ?_⟩⟩
    rw [String.toList_ofList, joined, Text.fields_intercalate hparts]
    simp

/-- What a command prints to leave a search path with some entries. -/
def printedFor (entries : List String) : Output :=
  ⟨true, Bytes.ofText (String.ofList ((leaving entries).text ++ [';'])), []⟩

/-- A command that does nothing but keep the search path. -/
def searchCommand {μ : Type} : Program μ := fun m arguments =>
  if arguments.any fun a => a.toList.contains '\x00' then .error .nulInArgument
  else
    match arguments with
    | "sh" :: "use" :: paths => .ok (printedFor (paths ++ otherEntries paths m.env))
    | "sh" :: "unuse" :: paths => .ok (printedFor (otherEntries paths m.env))
    | _ => .ok ⟨true, [], []⟩

theorem prints_searchCommand {μ : Type} {m : Machine μ} {arguments entries : List String}
    (hanswer : searchCommand m ("sh" :: arguments) = .ok (printedFor entries))
    (hentries : ∀ p ∈ entries, IsEntry p ∧ '\x00' ∉ p.toList) :
    Prints searchCommand m arguments entries := by
  have hquiet : ¬ SaysError (Bytes.lossy []).toList := by decide +kernel
  refine ⟨_, hanswer, rfl, hquiet, ?_⟩
  rw [printedFor, Bytes.lossy_ofText, String.toList_ofList]
  exact leaveEntries_leaving hentries

theorem keepsSearchPath_searchCommand {μ : Type} : KeepsSearchPath (searchCommand (μ := μ)) := by
  have hstarted : ∀ {paths : List String} {command : String}, '\x00' ∉ command.toList →
      (∀ p ∈ paths, IsEntry p ∧ '\x00' ∉ p.toList) →
        ¬("sh" :: command :: paths).any (fun a => a.toList.contains '\x00') = true := by
    intro paths command hcommand hpaths
    simpa [hcommand] using fun p hp => (hpaths p hp).2
  refine ⟨fun m hm paths _ hpaths => ?_, fun m hm paths _ hpaths => ?_, ?_⟩
  · refine prints_searchCommand (if_neg (hstarted (by decide) hpaths)) fun p hp => ?_
    rcases List.mem_append.1 hp with hp | hp
    · exact hpaths p hp
    · exact isEntry_of_mem_otherEntries hm hp
  · exact prints_searchCommand (if_neg (hstarted (by decide) hpaths)) fun p hp =>
      isEntry_of_mem_otherEntries hm hp
  · rintro m arguments ⟨a, ha, hnul⟩
    have hany : (arguments.any fun a => a.toList.contains '\x00') = true :=
      List.any_eq_true.2 ⟨a, ha, List.contains_iff_mem.2 hnul⟩
    exact ⟨_, if_pos hany⟩

end SiteRuntime.Lmod
