import SiteRuntime.Proofs.Lmod.Output

/-!
# Values behind backslashes

A value can be written without quotes if a backslash stands before each character that might mean
something to a shell. Both scanners have a rule for a backslash, whatever comes next: the one that
cuts the output passes two characters (`passes_backslashed`), the one that takes quotes off drops
the first of them (`unquote_backslashed`).

But between the two a statement is trimmed, and trimming sees the white space at its end and not the
backslash before it. If a value ends in white space, its last character is cut off, the backslash is
left alone at the end and dropped there. So a value is read back just if it does not end in white
space, and otherwise without its last character (`readAll_backslashed`).
-/

namespace SiteRuntime.Lmod

/-! ### Writing -/

/-- Whether a character is written without a backslash. -/
def isUnescaped (c : Char) : Bool := c.isAlphanum || ['_', '/', '.', ':', '-'].contains c

/-- A character as it is written without quotes. -/
def backslashed (c : Char) : List Char := if isUnescaped c then [c] else ['\\', c]

/-- The assignment of a value that is written without quotes, on a line of its own. -/
def bareAssignment (name : Identifier) (value : List Char) : List Char :=
  name.chars ++ '=' :: (value.flatMap backslashed ++ [';', '\n'])

theorem isBare_of_isUnescaped {c : Char} (h : isUnescaped c = true) : isBare c = true := by
  rcases Bool.or_eq_true_iff.1 h with h | h
  · have hname : isNameRest c = true := by
      unfold isNameRest
      rw [h, Bool.true_or]
    exact isBare_of_isNameRest hname
  · -- the punctuation that is written as it is
    simp only [List.contains_eq_mem, List.mem_cons, List.not_mem_nil, or_false,
      decide_eq_true_eq] at h
    rcases h with rfl | rfl | rfl | rfl | rfl <;> decide

/-! ### The scanners -/

/-- A character and its backslash leave the cutting scanner where it starts. -/
theorem passes_backslashed (c : Char) (rest : List Char) :
    Scan.start.passes (backslashed c ++ rest) = Scan.start.passes rest := by
  unfold backslashed
  split
  next h => exact passes_of_isBare (isBare_of_isUnescaped h) rest
  next =>
    -- behind a backslash no character separates
    have hescaped : Scan.passes ⟨.outside, true⟩ (c :: rest) = Scan.start.passes rest :=
      Scan.passes_cons rfl rest
    exact hescaped

theorem passes_flatMap_backslashed (value : List Char) :
    Scan.start.passes (value.flatMap backslashed) = some .start := by
  induction value with
  | nil => rfl
  | cons c value ih => rw [List.flatMap_cons, passes_backslashed, ih]

/-- A character is read back without its backslash. -/
theorem unquote_backslashed (c : Char) (rest : List Char) :
    unquote .outside (backslashed c ++ rest) = c :: unquote .outside rest := by
  unfold backslashed
  split
  next h =>
    obtain ⟨-, hsingle, hdouble, hbackslash, -⟩ := isBare_iff.1 (isBare_of_isUnescaped h)
    exact unquote_outside_of_ne hsingle hdouble hbackslash rest
  next => exact unquote_outside_backslash c rest

theorem unquote_flatMap_backslashed (value rest : List Char) :
    unquote .outside (value.flatMap backslashed ++ rest) = value ++ unquote .outside rest := by
  induction value with
  | nil => rfl
  | cons c value ih =>
    rw [List.flatMap_cons, List.append_assoc, unquote_backslashed, ih, List.cons_append]

/-! ### Trimming -/

/-- White space is written with a backslash. -/
theorem backslashed_of_isBlank {c : Char} (h : Text.isBlank c = true) :
    backslashed c = ['\\', c] := by
  have hplain : isUnescaped c = false := by
    refine Bool.eq_false_iff.2 fun hplain => ?_
    obtain ⟨hblank, -⟩ := isBare_iff.1 (isBare_of_isUnescaped hplain)
    exact Bool.false_ne_true (hblank.symm.trans h)
  rw [backslashed, hplain, if_neg Bool.false_ne_true]

/-- The last character stays the last one. -/
theorem getLast?_flatMap_backslashed (value : List Char) :
    (value.flatMap backslashed).getLast? = value.getLast? := by
  have hlast : ∀ c, ∃ front, backslashed c = front ++ [c] := by
    intro c
    unfold backslashed
    split
    · exact ⟨[], rfl⟩
    · exact ⟨['\\'], rfl⟩
  rcases List.eq_nil_or_concat value with rfl | ⟨front, c, rfl⟩
  · rfl
  · obtain ⟨before, hc⟩ := hlast c
    rw [List.concat_eq_append, List.flatMap_append, List.flatMap_singleton, hc, ← List.append_assoc,
      List.getLast?_concat, List.getLast?_concat]

/-- What is written behind the name of an assignment is trimmed at its end. -/
theorem trim_assignment (name : Identifier) (written : List Char) :
    Text.trim (name.chars ++ '=' :: written) = name.chars ++ '=' :: Text.trimRight written := by
  have hname : ∀ c ∈ name.chars.head?, Text.isBlank c = false := fun c hc =>
    name.isBlank_of_mem (List.mem_of_head? hc)
  have hfirst := isBlank_of_mem_head?_append (b := '=' :: written) name.chars_ne_nil hname
  rw [Text.trim, Text.trimLeft, Text.dropWhile_isBlank_of_head? hfirst,
    Text.trimRight_append_cons (by decide)]

/-- What is read of an assignment without quotes is what trimming leaves of the value. -/
theorem readAll_bareAssignment (name : Identifier) (value : List Char) :
    Statement.readAll (bareAssignment name value) =
      [.set (String.ofList name.chars)
        (String.ofList (unquote .outside (Text.trimRight (value.flatMap backslashed))))] := by
  have hpasses : Scan.start.passes (name.chars ++ '=' :: value.flatMap backslashed) =
      some .start := by
    rw [name.passes_chars_append, passes_of_isBare (by decide), passes_flatMap_backslashed]
  have htext : bareAssignment name value =
      (name.chars ++ '=' :: value.flatMap backslashed) ++ ';' :: ['\n'] := by
    simp [bareAssignment]
  have hread := Statement.read?_assignment false name (Text.trimRight (value.flatMap backslashed))
  rw [if_neg Bool.false_ne_true, List.nil_append] at hread
  rw [htext, readAll_append hpasses, trim_assignment, hread, readAll_cons_of_isBlank (by decide)]
  rfl

/-! ### Reading back -/

theorem readAll_of_not_isBlank (name : Identifier) {value : List Char}
    (h : ∀ c ∈ value.getLast?, Text.isBlank c = false) :
    Statement.readAll (bareAssignment name value) =
      [.set (String.ofList name.chars) (String.ofList value)] := by
  have htrim : Text.trimRight (value.flatMap backslashed) = value.flatMap backslashed := by
    have hreverse : ∀ c ∈ (value.flatMap backslashed).reverse.head?, Text.isBlank c = false := by
      rwa [List.head?_reverse, getLast?_flatMap_backslashed]
    rw [Text.trimRight, Text.dropWhile_isBlank_of_head? hreverse, List.reverse_reverse]
  have hunquote := unquote_flatMap_backslashed value []
  have hnil : unquote .outside [] = [] := rfl
  rw [List.append_nil, hnil, List.append_nil] at hunquote
  rw [readAll_bareAssignment, htrim, hunquote]

theorem readAll_of_isBlank (name : Identifier) (value : List Char) {c : Char}
    (h : Text.isBlank c = true) :
    Statement.readAll (bareAssignment name (value ++ [c])) =
      [.set (String.ofList name.chars) (String.ofList value)] := by
  have htrim : Text.trimRight ((value ++ [c]).flatMap backslashed) =
      value.flatMap backslashed ++ ['\\'] := by
    have hcut : Text.trimRight [c] = [] := by
      rw [Text.trimRight, List.reverse_singleton, List.dropWhile_cons, if_pos h]
      rfl
    rw [List.flatMap_append, List.flatMap_singleton, backslashed_of_isBlank h,
      Text.trimRight_append_cons (by decide), hcut]
  -- the backslash that is left has nothing behind it
  have hdangling : unquote .outside ['\\'] = [] := rfl
  rw [readAll_bareAssignment, htrim, unquote_flatMap_backslashed, hdangling, List.append_nil]

/-- **Values behind backslashes.** A value that is written without quotes, with backslashes where
they are needed, is read back just if it does not end in white space. White space at its end is
lost, one character of it. -/
theorem readAll_backslashed (name : Identifier) (value : List Char) :
    (Statement.readAll (bareAssignment name value) =
        [.set (String.ofList name.chars) (String.ofList value)] ↔
      ∀ c ∈ value.getLast?, Text.isBlank c = false) ∧
    ∀ c, Text.isBlank c = true →
      Statement.readAll (bareAssignment name (value ++ [c])) =
        [.set (String.ofList name.chars) (String.ofList value)] := by
  refine ⟨⟨fun h c hc => ?_, readAll_of_not_isBlank name⟩, fun c => readAll_of_isBlank name value⟩
  rw [Bool.eq_false_iff]
  intro hblank
  -- otherwise the value is read without its last character, and so is shorter
  obtain ⟨front, rfl⟩ := List.getLast?_eq_some_iff.1 hc
  rw [readAll_of_isBlank name front hblank, List.cons.injEq, Statement.set.injEq] at h
  have hshorter : front = front ++ [c] := String.ofList_inj.1 h.1.2
  exact List.cons_ne_nil c [] (List.self_eq_append_right.1 hshorter)

theorem readAll_backslashed_quotes :
    Statement.readAll (bareAssignment nameA "it's \"a;b\"  $c=".toList) =
        [.set "A" "it's \"a;b\"  $c="] ∧
      Text.isBlank '\u3000' = true ∧
        Statement.readAll (bareAssignment nameA ("wide".toList ++ ['\u3000'])) =
          [.set "A" "wide"] := by
  have hblank : Text.isBlank '\u3000' = true := by decide
  refine ⟨?_, hblank, (readAll_backslashed nameA "wide".toList).2 '\u3000' hblank⟩
  have hlast : "it's \"a;b\"  $c=".toList.getLast? = some '=' := by decide
  refine (readAll_backslashed nameA "it's \"a;b\"  $c=".toList).1.2 fun c hc => ?_
  rw [hlast] at hc
  cases hc
  decide

/-- **Not read back.** The value `a` with a space behind it is read without the space. -/
theorem not_readAll_backslashed :
    bareAssignment nameA ['a', ' '] = "A=a\\ ;\n".toList ∧
      Statement.readAll "A=a\\ ;\n".toList = [.set "A" "a"] := by
  decide +kernel

end SiteRuntime.Lmod
