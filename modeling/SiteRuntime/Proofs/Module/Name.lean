import SiteRuntime.Module.Name

/-!
# Module names, displayed and read again

A module name is read from a text by trimming it and cutting it at the first slash; it is displayed
as its name, with a slash and the version behind it if there is one. This leads back to the same
name as long as no slash gets lost. A slash with nothing behind it does: there is no version then,
and nothing is displayed for it. White space before such a slash was not at the end of the text, but
is at the end of what is displayed, and is trimmed there.

A `HasLooseSlash` text is one of this kind. `ofText_text_eq_iff` says that with all others nothing
is lost, and what is lost with these.
-/

namespace SiteRuntime.ModuleName

/-! ### What a text is read as -/

/-- White space around a text does not count. -/
theorem ofChars_trim (s : List Char) : ofChars (Text.trim s) = ofChars s := by
  rw [ofChars, Text.trim_trim, ofChars]

theorem ofChars_of_notMem {s : List Char} (h : '/' ∉ Text.trim s) :
    ofChars s = ⟨String.ofList (Text.trim s), none⟩ := by
  rw [ofChars, Text.splitOnce?_eq_none_iff.2 h]

theorem ofChars_of_slash {s name : List Char} (h : Text.trim s = name ++ ['/'])
    (hname : '/' ∉ name) : ofChars s = ⟨String.ofList name, none⟩ := by
  rw [ofChars, Text.splitOnce?_eq_some_iff.2 ⟨h, hname⟩]

theorem ofChars_of_version {s name version : List Char} {c : Char}
    (h : Text.trim s = name ++ '/' :: c :: version) (hname : '/' ∉ name) :
    ofChars s = ⟨String.ofList name, some (String.ofList (c :: version))⟩ := by
  rw [ofChars, Text.splitOnce?_eq_some_iff.2 ⟨h, hname⟩]

/-- The text of a name without a version. -/
theorem toList_text_none (name : List Char) :
    (text ⟨String.ofList name, none⟩).toList = name := String.toList_ofList

theorem toList_text_some (name version : List Char) :
    (text ⟨String.ofList name, some (String.ofList version)⟩).toList = name ++ '/' :: version := by
  have htext : text ⟨String.ofList name, some (String.ofList version)⟩ =
      String.ofList name ++ "/" ++ String.ofList version := rfl
  simp [htext]

/-! ### Displaying and reading again -/

/-- What a trimmed text begins with does not begin with white space. -/
theorem isBlank_of_mem_head?_of_trim_eq {s a b : List Char} (h : Text.trim s = a ++ b) :
    ∀ c ∈ a.head?, Text.isBlank c = false := by
  intro c hc
  refine Text.isBlank_of_mem_head?_trim (s := s) c ?_
  rw [h, List.head?_append]
  exact Option.or_eq_some_iff.2 (.inl hc)

/-- A slash that leaves white space at the end of the name before it: no other slash stands before
it, and nothing visible behind it. -/
def HasLooseSlash (s : List Char) : Prop :=
  ∃ name c, Text.trim s = name ++ [c, '/'] ∧ '/' ∉ name ∧ Text.isBlank c = true

/-- Without a loose slash nothing is lost. -/
theorem ofChars_text_of_not_hasLooseSlash {s : List Char} (h : ¬HasLooseSlash s) :
    ofChars (ofChars s).text.toList = ofChars s := by
  cases hsplit : Text.splitOnce? '/' (Text.trim s) with
  | none =>
    -- the trimmed text is displayed
    rw [ofChars_of_notMem (Text.splitOnce?_eq_none_iff.1 hsplit), toList_text_none, ofChars_trim,
      ofChars_of_notMem (Text.splitOnce?_eq_none_iff.1 hsplit)]
  | some parts =>
    obtain ⟨name, version⟩ := parts
    obtain ⟨htrim, hname⟩ := Text.splitOnce?_eq_some_iff.1 hsplit
    cases version with
    | nil =>
      -- the name is displayed alone, and there is no white space to be trimmed from it
      have hfirst := isBlank_of_mem_head?_of_trim_eq htrim
      have hlast : ∀ c ∈ name.getLast?, Text.isBlank c = false := fun c hc => by
        refine Bool.eq_false_iff.2 fun hblank => h ?_
        obtain ⟨front, rfl⟩ := List.getLast?_eq_some_iff.1 hc
        refine ⟨front, c, ?_, fun hmem => hname (List.mem_append_left _ hmem), hblank⟩
        rw [htrim, List.append_assoc, List.singleton_append]
      have hself : Text.trim name = name := Text.trim_eq_self hfirst hlast
      have hnone : '/' ∉ Text.trim name := by rwa [hself]
      rw [ofChars_of_slash htrim hname, toList_text_none, ofChars_of_notMem hnone, hself]
    | cons c version =>
      -- the slash is displayed again, and so the trimmed text is
      rw [ofChars_of_version htrim hname, toList_text_some, ← htrim, ofChars_trim,
        ofChars_of_version htrim hname]

/-- With one the name is left with white space at its end, and loses it when it is read again. -/
theorem HasLooseSlash.exists_name {s : List Char} (h : HasLooseSlash s) :
    ∃ name c, ofChars s = ⟨String.ofList (name ++ [c]), none⟩ ∧
      ofChars (name ++ [c]) = ⟨String.ofList (Text.trimRight name), none⟩ ∧
      Text.trimRight (name ++ [c]) = Text.trimRight name ∧ ¬HasLooseSlash (name ++ [c]) := by
  obtain ⟨name, c, htrim, hname, hc⟩ := h
  rw [List.append_cons] at htrim
  have hslash : '/' ∉ name ++ [c] := by
    rw [List.mem_append, List.mem_singleton]
    refine not_or.2 ⟨hname, ?_⟩
    -- a slash is no white space
    rintro rfl
    cases hc
  have hright := Text.trimRight_concat_of_isBlank hc name
  -- at the front the text was trimmed before
  have hcut : Text.trim (name ++ [c]) = Text.trimRight name := by
    rw [Text.trim, Text.trimLeft,
      Text.dropWhile_isBlank_of_head? (isBlank_of_mem_head?_of_trim_eq htrim), hright]
  have hnone : '/' ∉ Text.trim (name ++ [c]) := by
    rw [hcut]
    exact fun hmem => hname ((Text.trimRight_prefix name).subset hmem)
  refine ⟨name, c, ofChars_of_slash htrim hslash, ?_, hright, ?_⟩
  · rw [ofChars_of_notMem hnone, hcut]
  · rintro ⟨front, d, hfront, -, -⟩
    rw [hfront] at hnone
    exact hnone (by simp)

theorem ofText_text_of_not_hasLooseSlash {s : String} (h : ¬HasLooseSlash s.toList) :
    ofText (ofText s).text = ofText s :=
  ofChars_text_of_not_hasLooseSlash h

/-- What a loose slash does to a name, and that it does so once. -/
theorem ofText_text_of_hasLooseSlash {s : String} (h : HasLooseSlash s.toList) :
    ∃ name, ofText s = ⟨name, none⟩ ∧
      ofText (ofText s).text = ⟨String.ofList (Text.trimRight name.toList), none⟩ ∧
      ofText (ofText (ofText s).text).text = ofText (ofText s).text := by
  obtain ⟨name, c, hread, hagain, hright, hnone⟩ := h.exists_name
  have hfirst : ofText s = ⟨String.ofList (name ++ [c]), none⟩ := hread
  have hsecond : ofText (text ⟨String.ofList (name ++ [c]), none⟩) = ofChars (name ++ [c]) := by
    rw [ofText, toList_text_none]
  refine ⟨String.ofList (name ++ [c]), hfirst, ?_, ?_⟩
  · rw [hfirst, hsecond, hagain, String.toList_ofList, hright]
  · rw [hfirst, hsecond]
    exact ofChars_text_of_not_hasLooseSlash hnone

theorem name_eq_of_designates {m n : ModuleName} (h : m.designates n = true) : m.name = n.name := by
  rw [designates, Bool.and_eq_true] at h
  exact of_decide_eq_true h.1

/-- A module name whose text has a loose slash does not designate the same when it is read again:
not even what the text itself is read as. -/
theorem HasLooseSlash.designates_eq_false {s : String} (h : HasLooseSlash s.toList) :
    (ofText (ofText s).text).designates (ofText s) = false := by
  obtain ⟨name, c, hread, hagain, -, -⟩ := h.exists_name
  have hfirst : ofText s = ⟨String.ofList (name ++ [c]), none⟩ := hread
  refine Bool.eq_false_iff.2 fun hdesignates => ?_
  have hname := name_eq_of_designates hdesignates
  rw [hfirst, ofText, toList_text_none, hagain] at hname
  -- trimming makes no text longer
  have hlonger := congrArg List.length (String.ofList_inj.1 hname)
  have := (Text.trimRight_prefix name).length_le
  rw [List.length_append, List.length_singleton] at hlonger
  omega

/-- **Reading what is displayed.** A module name that is displayed and read again is the same, and
designates the same modules and is designated by the same, just if the text it was read from has no
loose slash. Otherwise it had no version, and it loses the white space at the end of the name. To
display it and read it once more changes nothing in either case. -/
theorem ofText_text_eq_iff (s : String) :
    (ofText (ofText s).text = ofText s ↔ ¬HasLooseSlash s.toList) ∧
    ((∀ t, (ofText (ofText s).text).designates (ofText t) = (ofText s).designates (ofText t) ∧
        (ofText t).designates (ofText (ofText s).text) = (ofText t).designates (ofText s)) ↔
      ¬HasLooseSlash s.toList) ∧
    (HasLooseSlash s.toList → ∃ name, ofText s = ⟨name, none⟩ ∧
      ofText (ofText s).text = ⟨String.ofList (Text.trimRight name.toList), none⟩) ∧
    ofText (ofText (ofText s).text).text = ofText (ofText s).text := by
  have hself : (ofText s).designates (ofText s) = true := designates_self _
  refine ⟨⟨fun heq hloose => ?_, ofText_text_of_not_hasLooseSlash⟩,
    ⟨fun hsame hloose => ?_, fun h t => ?_⟩, fun hloose => ?_, ?_⟩
  · have hother := hloose.designates_eq_false
    rw [heq, hself] at hother
    cases hother
  · have hother := hloose.designates_eq_false
    rw [(hsame s).1, hself] at hother
    cases hother
  · rw [ofText_text_of_not_hasLooseSlash h]
    exact ⟨rfl, rfl⟩
  · obtain ⟨name, hfirst, hsecond, -⟩ := ofText_text_of_hasLooseSlash hloose
    exact ⟨name, hfirst, hsecond⟩
  · by_cases hloose : HasLooseSlash s.toList
    · obtain ⟨_, -, -, hstable⟩ := ofText_text_of_hasLooseSlash hloose
      exact hstable
    · rw [ofText_text_of_not_hasLooseSlash hloose, ofText_text_of_not_hasLooseSlash hloose]

theorem ofText_text_eq_iff_wideSpace :
    HasLooseSlash " gcc \u3000/\t".toList ∧ ofText " gcc \u3000/\t" = ⟨"gcc \u3000", none⟩ ∧
      ofText (ofText " gcc \u3000/\t").text = ⟨"gcc", none⟩ := by
  have hloose : HasLooseSlash " gcc \u3000/\t".toList :=
    ⟨"gcc ".toList, '\u3000', by decide +kernel, by decide +kernel, by decide⟩
  obtain ⟨-, -, hlost, -⟩ := ofText_text_eq_iff " gcc \u3000/\t"
  obtain ⟨name, hfirst, hsecond⟩ := hlost hloose
  have hname : ofText " gcc \u3000/\t" = ⟨"gcc \u3000", none⟩ := by decide +kernel
  obtain ⟨rfl, -⟩ := ModuleName.mk.inj (hfirst.symm.trans hname)
  refine ⟨hloose, hname, hsecond.trans ?_⟩
  decide +kernel

/-- **Lost in between.** `gcc /` is read as a name with a space at its end, displayed with it, and
read without it, and is then found where it was not found before. -/
theorem not_ofText_text_eq :
    ofText "gcc /" = ⟨"gcc ", none⟩ ∧ (ofText "gcc /").text = "gcc " ∧
      ofText (ofText "gcc /").text = ⟨"gcc", none⟩ ∧
      ofText (ofText "gcc /").text ≠ ofText "gcc /" ∧
      (ofText "gcc /").designates (ofText "gcc/12") = false ∧
      (ofText (ofText "gcc /").text).designates (ofText "gcc/12") = true := by
  decide +kernel

end SiteRuntime.ModuleName
