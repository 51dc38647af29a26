import SiteRuntime.Proofs.Lmod.Output

/-!
# Comments in the output of the module command

The module command may print comments between its statements, each on a line of its own behind a
`#`. The reader has no rule for them. A comment is passed over because its line begins with
something that is no name; but its quotes and backslashes are followed like all others, and a `;`
in it begins a new piece.

So comments are skipped as long as they are `Harmless`: the quotes in them are closed, no backslash
stands at their end, and no piece behind a `;` of theirs is a statement. Then the lines can be read
one by one (`readAll_line`). The condition cannot be weakened. A comment that leaves a quote or a
line end open swallows the assignment on the next line (`Harmless.of_readAll_eq`), and a piece
that is a statement is read as one.
-/

namespace SiteRuntime.Lmod

/-! ### Lines -/

/-- A line of the output. -/
inductive Line where
  /-- A piece with a `;` behind it: an assignment, whichever way its value is quoted, an `unset`, or
  a piece that changes no variable. -/
  | statement (piece : Piece)
  /-- A text behind a `#`. -/
  | comment (text : List Char) (oneLine : '\n' ∉ text)

namespace Line

/-- A line as it is printed, without the line end. -/
def text : Line → List Char
  | statement piece => piece.text ++ [';']
  | comment text _ => '#' :: text

/-- The statement that a line stands for. -/
def statement? : Line → Option Statement
  | statement piece => piece.statement?
  | comment _ _ => none

/-- Whether a line is a comment. -/
def isComment : Line → Bool
  | statement _ => false
  | comment _ _ => true

end Line

/-- The output that lines make up. -/
def listing (lines : List Line) : List Char := lines.flatMap fun line => line.text ++ ['\n']

/-- The lines that are no comments. -/
def withoutComments (lines : List Line) : List Line := lines.filter fun line => !line.isComment

theorem listing_cons (line : Line) (lines : List Line) :
    listing (line :: lines) = line.text ++ '\n' :: listing lines := by
  simp [listing]

/-- **A harmless comment.** Its quotes are closed, no backslash stands at its end, and no piece of
it behind a `;` is a statement. -/
def Harmless (text : List Char) : Prop :=
  Scan.start.after text = .start ∧
    ∀ piece ∈ (cut .start text).tail, Statement.read? (Text.trim piece) = none

instance : DecidablePred Harmless := fun _ => inferInstanceAs (Decidable (_ ∧ _))

/-- A line that is a harmless comment if it is one. -/
def Line.IsHarmless : Line → Prop
  | statement _ => True
  | comment text _ => Harmless text

instance : DecidablePred Line.IsHarmless
  | .statement _ => .isTrue trivial
  | .comment text _ => inferInstanceAs (Decidable (Harmless text))

/-! ### Reading line by line -/

/-- A piece that begins with a `#` is no statement. -/
theorem read?_trim_comment (text : List Char) :
    Statement.read? (Text.trim ('#' :: text)) = none := by
  have htrim : Text.trim ('#' :: text) = '#' :: Text.trimRight text :=
    Text.trimRight_append_cons (by decide) [] text
  have hunset : Text.dropStart? "unset ".toList ('#' :: Text.trimRight text) = none := rfl
  have hexport : Text.dropStart? "export ".toList ('#' :: Text.trimRight text) = none := rfl
  unfold Statement.read?
  rw [htrim, hunset]
  dsimp only
  rw [hexport, Option.getD_none]
  cases hsplit : Text.splitOnce? '=' ('#' :: Text.trimRight text) with
  | none => rfl
  | some parts =>
    obtain ⟨name, value⟩ := parts
    obtain ⟨htext, -⟩ := Text.splitOnce?_eq_some_iff.1 hsplit
    -- the name begins with the `#`, or is empty
    have hname : isIdentifier name = false := by
      cases name with
      | nil => rfl
      | cons c name =>
        obtain rfl : '#' = c := (List.cons.inj htext).1
        rfl
    dsimp only
    rw [hname, if_neg Bool.false_ne_true]

/-- What is read of a comment alone are the statements in it behind a `;`. -/
theorem readAll_comment (text : List Char) :
    Statement.readAll ('#' :: text) =
      (cut .start text).tail.filterMap fun piece => Statement.read? (Text.trim piece) := by
  have hnext : Scan.start.next '#' = .start := by decide
  rw [readAll_eq, cut_cons, if_neg (by decide), hnext]
  cases hcut : cut .start text with
  | nil => exact absurd hcut (cut_ne_nil .start text)
  | cons piece pieces =>
    rw [joinFirst, List.filterMap_cons, List.singleton_append, read?_trim_comment, List.tail_cons]

/-- Where a line leaves no quote open, it is read on its own. -/
theorem readAll_append_newline {text : List Char} (h : Scan.start.after text = .start)
    (rest : List Char) :
    Statement.readAll (text ++ '\n' :: rest) =
      Statement.readAll text ++ Statement.readAll rest := by
  obtain ⟨pieces, last, -, hcut⟩ := exists_pieces text
  rw [h] at hcut
  have hseparates : Scan.start.separates '\n' = true := by decide
  have hwhole : cut .start (text ++ '\n' :: rest) = (pieces ++ [last]) ++ cut .start rest := by
    rw [hcut, cut_cons, if_pos hseparates]
    simp [joinFirst]
  have htext : cut .start text = pieces ++ [last] := by
    have hend := hcut []
    rwa [List.append_nil, cut, joinFirst, List.append_nil] at hend
  rw [readAll_eq, hwhole, List.filterMap_append, ← htext, ← readAll_eq, ← readAll_eq]

/-- **One line.** A line is read as what it stands for, if it is harmless. -/
theorem readAll_line {line : Line} (h : line.IsHarmless) (rest : List Char) :
    Statement.readAll (line.text ++ '\n' :: rest) =
      line.statement?.toList ++ Statement.readAll rest := by
  cases line with
  | statement piece =>
    have hnewline : Statement.readAll ('\n' :: rest) = Statement.readAll rest :=
      readAll_cons_of_isBlank (by decide) rest
    rw [Line.text, List.append_assoc, List.singleton_append, readAll_append piece.passes_text,
      piece.trim_text, piece.read?_text, hnewline, Line.statement?]
  | comment text _ =>
    obtain ⟨hclosed, hpieces⟩ := h
    -- the `#` leaves the scanner at its start
    have hline : Scan.start.after ('#' :: text) = .start := hclosed
    have hnone : Statement.readAll ('#' :: text) = [] := by
      rw [readAll_comment]
      exact List.filterMap_eq_nil_iff.2 hpieces
    rw [Line.text, readAll_append_newline hline, hnone, Line.statement?]
    rfl

/-- The lines of an output are read one by one. -/
theorem readAll_listing {lines : List Line} (h : ∀ line ∈ lines, line.IsHarmless) :
    Statement.readAll (listing lines) = lines.filterMap Line.statement? := by
  induction lines with
  | nil => rfl
  | cons line lines ih =>
    obtain ⟨hline, hlines⟩ := List.forall_mem_cons.1 h
    rw [listing_cons, readAll_line hline, ih hlines, List.filterMap_cons]
    cases line.statement? <;> rfl

/-- A comment stands for nothing. -/
theorem filterMap_withoutComments (lines : List Line) :
    (withoutComments lines).filterMap Line.statement? = lines.filterMap Line.statement? := by
  rw [withoutComments, List.filterMap_filter]
  congr 1
  funext line
  cases line <;> rfl

/-! ### Comments that do harm -/

namespace Statement

/-- A piece that is an assignment has an `=`, with a name before the first one. -/
theorem exists_of_read?_eq_set {piece : List Char} {name value : String}
    (h : read? piece = some (.set name value)) :
    ∃ k rest, piece = k ++ '=' :: rest ∧ '=' ∉ k ∧ Text.dropStart? "unset ".toList k = none ∧
      isIdentifier ((Text.dropStart? "export ".toList k).getD k) := by
  unfold read? at h
  split at h
  next => split at h <;> cases h
  next hunset =>
    dsimp only at h
    split at h
    next name rest hsplit =>
      obtain ⟨hassignment, hequals⟩ := Text.splitOnce?_eq_some_iff.1 hsplit
      split at h
      next hname =>
        cases hexport : Text.dropStart? "export ".toList piece with
        | none =>
          -- the name is all that stands before the `=`
          obtain rfl : piece = name ++ '=' :: rest := by rwa [hexport] at hassignment
          rw [Text.dropStart?_append_cons (by decide), Option.map_eq_none_iff] at hunset hexport
          exact ⟨name, rest, rfl, hequals, hunset, by rwa [hexport]⟩
        | some assignment =>
          obtain rfl : assignment = name ++ '=' :: rest := by rwa [hexport] at hassignment
          have hpiece := Text.dropStart?_eq_some_iff.1 hexport
          rw [← List.append_assoc] at hpiece
          have hkept : Text.dropStart? "export ".toList ("export ".toList ++ name) = some name :=
            Text.dropStart?_eq_some_iff.2 rfl
          rw [hpiece, Text.dropStart?_append_cons (by decide), Option.map_eq_none_iff] at hunset
          refine ⟨_, rest, hpiece, ?_, hunset, by rwa [hkept]⟩
          rw [List.mem_append]
          exact not_or.2 ⟨by decide, hequals⟩
      next => cases h
    next => cases h

/-- No line ends before the `=` of an assignment. -/
theorem newline_notMem_of_isIdentifier {k : List Char}
    (h : isIdentifier ((Text.dropStart? "export ".toList k).getD k)) : '\n' ∉ k := by
  have hname : ∀ name : List Char, isIdentifier name = true → '\n' ∉ name := fun name hvalid =>
    Identifier.notMem_of_isNameRest_eq_false ⟨name, hvalid⟩ (by decide)
  cases hexport : Text.dropStart? "export ".toList k with
  | none =>
    rw [hexport] at h
    exact hname k h
  | some name =>
    rw [hexport] at h
    rw [Text.dropStart?_eq_some_iff.1 hexport, List.mem_append]
    exact not_or.2 ⟨by decide, hname name h⟩

/-- If no line ends before the first `=`, it stands on the first line. -/
theorem exists_of_append_newline_eq {line rest k tail : List Char} (hk : '\n' ∉ k)
    (h : line ++ '\n' :: rest = k ++ '=' :: tail) : ∃ more, line = k ++ '=' :: more := by
  rcases List.append_eq_append_iff.1 h with ⟨between, hkept, hrest⟩ | ⟨more, hline, hrest⟩
  · cases between with
    | nil => cases hrest
    | cons d between =>
      obtain rfl : '\n' = d := (List.cons.inj hrest).1
      exact absurd (hkept ▸ List.mem_append_right _ List.mem_cons_self) hk
  · cases more with
    | nil => cases hrest
    | cons d more =>
      obtain rfl : '=' = d := (List.cons.inj hrest).1
      exact ⟨more, hline⟩

/-- An assignment that goes on behind a line end was one on its first line already. -/
theorem read?_trim_ne_none {last rest : List Char} {c : Char} {name value : String}
    (hlast : Text.trimLeft last ≠ []) (hc : Text.isBlank c = false)
    (h : read? (Text.trim (last ++ '\n' :: c :: rest)) = some (.set name value)) :
    read? (Text.trim (last ++ ['\n'])) ≠ none := by
  have htrim : Text.trim (last ++ '\n' :: c :: rest) =
      Text.trimLeft last ++ '\n' :: c :: Text.trimRight rest := by
    have hright := Text.trimRight_append_cons hc (Text.trimLeft last ++ ['\n']) rest
    rw [List.append_assoc, List.singleton_append] at hright
    rw [Text.trim, Text.trimLeft_append hlast, hright, List.append_assoc, List.singleton_append]
  obtain ⟨k, tail, hpiece, hequals, hunset, hname⟩ := exists_of_read?_eq_set h
  rw [htrim] at hpiece
  -- the `=` stands on the first line
  obtain ⟨more, hmore⟩ :=
    exists_of_append_newline_eq (newline_notMem_of_isIdentifier hname) hpiece
  have hline : Text.trim (last ++ ['\n']) = k ++ '=' :: Text.trimRight (more ++ ['\n']) := by
    rw [Text.trim, Text.trimLeft_append hlast, hmore, List.append_assoc, List.cons_append,
      Text.trimRight_append_cons (by decide)]
  rw [hline, read?_append_equals hequals hunset, if_pos hname]
  exact Option.some_ne_none _

end Statement

/-- Where white space is passed from the start on, the scanner stays there. -/
theorem eq_start_of_passes {text : List Char} {s : Scan} (hblank : Text.trimLeft text = [])
    (h : Scan.start.passes text = some s) : s = .start := by
  induction text with
  | nil =>
    cases h
    rfl
  | cons c text ih =>
    obtain ⟨hc, htext⟩ := List.forall_mem_cons.1 (List.dropWhile_eq_nil_iff.1 hblank)
    have hseparates : Scan.start.separates c = false := by
      refine Bool.eq_false_iff.2 fun hcut => ?_
      rw [Scan.passes, if_pos hcut] at h
      cases h
    rw [Scan.passes_cons hseparates, Scan.next_of_isBlank hc] at h
    exact ih (List.dropWhile_eq_nil_iff.2 htext) h

/-- The line `A='';`, which is read if nothing before it is left open. -/
def plainLine : Line := .statement (.assign false nameA [.single [] List.not_mem_nil])

/-- A scanner that is not at its start does not end a piece at the line end, but runs into the next
line. -/
theorem cut_newline_of_ne_start {s : Scan} (h : s ≠ .start) :
    ∃ rest blanks, cut s ('\n' :: listing [plainLine]) = ('\n' :: 'A' :: '=' :: rest) :: blanks ∧
      ∀ piece ∈ blanks, piece = [] := by
  obtain ⟨quotes, escaped⟩ := s
  have hquoted : ∀ piece ∈ ([] : List (List Char)), piece = [] := List.forall_mem_nil _
  have hescaped : ∀ piece ∈ ([[], []] : List (List Char)), piece = [] := by decide
  cases quotes with
  | outside =>
    cases escaped with
    | false => exact absurd rfl h
    | true => exact ⟨"''".toList, _, rfl, hescaped⟩
  | single => cases escaped <;> exact ⟨"'';\n".toList, _, rfl, hquoted⟩
  | double => cases escaped <;> exact ⟨"'';\n".toList, _, rfl, hquoted⟩

/-- A line that leaves something open swallows the next one: the assignment there is not read, if
nothing is read of the line alone. -/
theorem readAll_append_newline_ne {text : List Char} (hopen : Scan.start.after text ≠ .start)
    (halone : Statement.readAll (text ++ '\n' :: listing []) = []) :
    Statement.readAll (text ++ '\n' :: listing [plainLine]) ≠
      Statement.readAll (listing [plainLine]) := by
  obtain ⟨pieces, last, hpasses, hcut⟩ := exists_pieces text
  have hvisible : Text.trimLeft last ≠ [] := fun hblank =>
    hopen (eq_start_of_passes hblank hpasses)
  have hseparates : (Scan.start.after text).separates '\n' = false :=
    Bool.eq_false_iff.2 fun h => hopen (Scan.eq_start_of_separates h).1
  -- alone, the last piece goes on to the line end, and is no statement
  have hwhole : cut .start (text ++ '\n' :: listing []) = pieces ++ [last ++ ['\n']] := by
    rw [hcut, cut_cons, hseparates, if_neg Bool.false_ne_true]
    rfl
  rw [readAll_eq, hwhole, List.filterMap_append, List.append_eq_nil_iff] at halone
  obtain ⟨hpieces, hlast⟩ := halone
  have hnone : Statement.read? (Text.trim (last ++ ['\n'])) = none :=
    List.filterMap_eq_nil_iff.1 hlast _ List.mem_cons_self
  -- before the assignment it goes on into it, and is still none that sets a variable
  obtain ⟨rest, blanks, hnext, hblanks⟩ := cut_newline_of_ne_start hopen
  have hnothing : blanks.filterMap (fun piece => Statement.read? (Text.trim piece)) = [] :=
    List.filterMap_eq_nil_iff.2 fun piece hpiece => by rw [hblanks piece hpiece]; rfl
  have hplain : Statement.readAll (listing [plainLine]) = [.set "A" ""] := by decide +kernel
  rw [readAll_eq, hcut, hnext, joinFirst, List.filterMap_append, hpieces, List.nil_append,
    List.filterMap_cons, hnothing, hplain]
  cases hread : Statement.read? (Text.trim (last ++ '\n' :: 'A' :: '=' :: rest)) with
  | none => exact (List.cons_ne_nil _ _).symm
  | some statement =>
    intro hsame
    rw [(List.cons.inj hsame).1] at hread
    exact Statement.read?_trim_ne_none hvisible (by decide) hread hnone

/-- **A comment that does no harm is harmless**: it is enough that nothing is read of it alone, and
that the line behind it is read as if the comment was not there. -/
theorem Harmless.of_readAll_eq {text : List Char}
    (halone : Statement.readAll ('#' :: text ++ '\n' :: listing []) = [])
    (hbefore : Statement.readAll ('#' :: text ++ '\n' :: listing [plainLine]) =
      Statement.readAll (listing [plainLine])) : Harmless text := by
  have hclosed : Scan.start.after ('#' :: text) = .start :=
    by_contra fun hopen => readAll_append_newline_ne hopen halone hbefore
  refine ⟨hclosed, ?_⟩
  rw [readAll_append_newline hclosed, readAll_comment] at halone
  exact List.filterMap_eq_nil_iff.1 (List.append_eq_nil_iff.1 halone).1

/-! ### Comments of any kind -/

/-- **Comments are skipped** where all of them are harmless: what is read of the lines is what is
read of the lines without them. And a comment is harmless just if it can be put between any lines
with no other effect on what is read. -/
theorem readAll_withoutComments (lines : List Line) :
    ((∀ line ∈ lines, line.IsHarmless) →
      Statement.readAll (listing lines) = Statement.readAll (listing (withoutComments lines))) ∧
    ∀ text oneLine, Harmless text ↔
      ∀ before after, (∀ line ∈ before ++ after, line.IsHarmless) →
        Statement.readAll (listing (before ++ .comment text oneLine :: after)) =
          Statement.readAll (listing (before ++ after)) := by
  refine ⟨fun h => ?_, fun text oneLine => ⟨fun htext before after h => ?_, fun h => ?_⟩⟩
  · have hkept : ∀ line ∈ withoutComments lines, line.IsHarmless := fun line hline =>
      h line (List.mem_filter.1 hline).1
    rw [readAll_listing h, readAll_listing hkept, filterMap_withoutComments]
  · have hwith : ∀ line ∈ before ++ .comment text oneLine :: after, line.IsHarmless := by
      rw [List.forall_mem_append] at h ⊢
      exact ⟨h.1, List.forall_mem_cons.2 ⟨htext, h.2⟩⟩
    rw [readAll_listing hwith, readAll_listing h, List.filterMap_append, List.filterMap_append,
      List.filterMap_cons]
    rfl
  · have halone := h [] [] (List.forall_mem_nil _)
    have hbefore := h [] [plainLine] (List.forall_mem_singleton.2 trivial)
    rw [List.nil_append, listing_cons] at halone hbefore
    exact Harmless.of_readAll_eq halone hbefore

/-- An assignment and an `unset` with comments around them that hold quotes and a `;`. -/
def remarked : List Line :=
  [.comment " A is 'set'; see \"notes\" on it's\\'".toList (by decide),
    .statement (.assign false nameA [.single "x;y#".toList (by decide)]),
    .comment " unset B soon".toList (by decide), .statement (.unset ⟨['B'], rfl⟩ [])]

theorem readAll_withoutComments_remarked :
    (∀ line ∈ remarked, line.IsHarmless) ∧
      Statement.readAll (listing remarked) = [.set "A" "x;y#", .unset ["B"]] := by
  have hharmless : ∀ line ∈ remarked, line.IsHarmless := by decide +kernel
  refine ⟨hharmless, ?_⟩
  rw [(readAll_withoutComments remarked).1 hharmless]
  decide +kernel

/-- A comment with an apostrophe in front of an assignment. -/
def apostrophe : List Line := [.comment " don't".toList (by decide), plainLine]

/-- A comment that ends in a backslash in front of an assignment. -/
def continued : List Line := [.comment " in C:\\".toList (by decide), plainLine]

/-- A comment that mentions an assignment. -/
def mentioned : List Line := [.comment " before; B=old".toList (by decide)]

/-- **Comments are not skipped.** An apostrophe or a backslash in a comment swallows the assignment
on the next line, and an assignment behind a `;` in a comment is read. -/
theorem not_readAll_withoutComments :
    (Statement.readAll (listing apostrophe) = [] ∧
        Statement.readAll (listing (withoutComments apostrophe)) = [.set "A" ""]) ∧
      (Statement.readAll (listing continued) = [] ∧
        Statement.readAll (listing (withoutComments continued)) = [.set "A" ""]) ∧
      Statement.readAll (listing mentioned) = [.set "B" "old"] ∧
        Statement.readAll (listing (withoutComments mentioned)) = [] := by
  decide +kernel

end SiteRuntime.Lmod
