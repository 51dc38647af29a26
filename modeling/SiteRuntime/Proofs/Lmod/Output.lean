import Mathlib.Data.List.TakeWhile
import SiteRuntime.Proofs.Lmod.Word

/-!
# The output of the module command, printed and read

What the module command prints is a list of pieces, each with a `;` behind it and then some white
space, a line end as a rule: an assignment, perhaps exported, an `unset`, or a piece that changes no
variable. `Piece.statement?` is what a piece asks for.

`readAll_print` reads the output back. The cutting scanner passes a piece and stands at its start
again behind it, so the output can be read piece by piece (`readAll_append`), and white space
between the pieces is of no account (`readAll_isBlankText_append`). What is left is to read a single
piece (`Piece.read?_text`).
-/

namespace SiteRuntime.Lmod

/-! ### Names -/

/-- A name of the shell. -/
structure Identifier where
  /-- The characters of the name. -/
  chars : List Char
  /-- They make up a name. -/
  valid : isIdentifier chars = true

/-- The name `A`. -/
def nameA : Identifier := ⟨['A'], rfl⟩

theorem isNameRest_of_isNameStart {c : Char} (h : isNameStart c = true) : isNameRest c = true := by
  rw [isNameStart, Bool.or_eq_true] at h
  rw [isNameRest, Char.isAlphanum, Bool.or_eq_true, Bool.or_eq_true]
  exact h.imp_left .inl

/-- Where the characters of names lie among all characters. -/
theorem toNat_of_isNameRest {c : Char} (h : isNameRest c = true) :
    48 ≤ c.toNat ∧ c.toNat ≤ 122 ∧ c.toNat ≠ 59 ∧ c.toNat ≠ 92 := by
  have hval : c.toNat = c.val.toNat := rfl
  delta isNameRest Char.isAlphanum Char.isAlpha Char.isUpper Char.isLower Char.isDigit at h
  simp only [Bool.or_eq_true, Bool.and_eq_true, decide_eq_true_eq, UInt32.le_iff_toNat_le,
    ge_iff_le, Char.reduceVal, UInt32.reduceToNat] at h
  rcases h with h | rfl
  · omega
  · decide

/-- A character of a name is no white space, and the scanners pass over it. -/
theorem isBare_of_isNameRest {c : Char} (h : isNameRest c = true) : isBare c = true := by
  obtain ⟨hlow, hhigh, hsemicolon, hbackslash⟩ := toNat_of_isNameRest h
  have hblank : Text.isBlank c = false := by
    simp only [Text.isBlank, Bool.or_eq_false_iff, Bool.and_eq_false_iff, decide_eq_false_iff_not,
      beq_eq_false_iff_ne]
    omega
  refine isBare_iff.2 ⟨hblank, ?_, ?_, ?_, ?_⟩
  · rintro rfl
    exact absurd hlow (by decide)
  · rintro rfl
    exact absurd hlow (by decide)
  · rintro rfl
    exact hbackslash rfl
  · rintro rfl
    exact hsemicolon rfl

namespace Identifier

variable (name : Identifier)

theorem isNameRest_of_mem {c : Char} (h : c ∈ name.chars) : isNameRest c = true := by
  obtain ⟨chars, valid⟩ := name
  cases chars with
  | nil => cases h
  | cons d rest =>
    obtain ⟨hd, hrest⟩ := Bool.and_eq_true_iff.1 valid
    rcases List.mem_cons.1 h with rfl | h
    · exact isNameRest_of_isNameStart hd
    · exact List.all_eq_true.1 hrest c h

theorem chars_ne_nil : name.chars ≠ [] := by
  obtain ⟨chars, valid⟩ := name
  rintro rfl
  cases valid

theorem notMem_of_isNameRest_eq_false {c : Char} (h : isNameRest c = false) : c ∉ name.chars :=
  fun hc => Bool.false_ne_true (h.symm.trans (name.isNameRest_of_mem hc))

end Identifier

/-! ### Pieces -/

/-- What stands before a `;` of the output. -/
inductive Piece where
  /-- A variable is given the value of a word, and perhaps exported. -/
  | assign (exported : Bool) (name : Identifier) (word : Word)
  /-- Variables are removed, at least one. -/
  | unset (name : Identifier) (others : List Identifier)
  /-- A variable that was assigned is exported. -/
  | exporting (name : Identifier)
  /-- The module command has failed. -/
  | failed

/-- Names between spaces. -/
def spaced (names : List Identifier) : List Char := [' '].intercalate (names.map Identifier.chars)

namespace Piece

/-- A piece as it is printed. -/
def text : Piece → List Char
  | assign exported name word =>
    (if exported then "export ".toList else []) ++ (name.chars ++ '=' :: word.written)
  | unset name others => "unset ".toList ++ spaced (name :: others)
  | exporting name => "export ".toList ++ name.chars
  | failed => "false".toList

/-- The statement that a piece stands for, if it changes variables. -/
def statement? : Piece → Option Statement
  | assign _ name word => some (.set (String.ofList name.chars) (String.ofList word.value))
  | unset name others => some (.unset ((name :: others).map fun n => String.ofList n.chars))
  | exporting _ => none
  | failed => none

end Piece

/-- A piece and the white space that is printed behind its `;`. -/
structure Printed where
  /-- What is printed before the `;`. -/
  piece : Piece
  /-- What is printed behind it. -/
  gap : List Char
  /-- It is white space. -/
  blank : Text.isBlankText gap = true

/-- The output that is printed. -/
def print (pieces : List Printed) : List Char :=
  pieces.flatMap fun p => p.piece.text ++ ';' :: p.gap

/-- The statements that an output stands for. -/
def announced (pieces : List Printed) : List Statement :=
  pieces.filterMap fun p => p.piece.statement?

/-! ### The output piece by piece -/

/-- A piece of white space stands for nothing. -/
theorem read?_trim_of_isBlankText {piece : List Char} (h : Text.isBlankText piece = true) :
    Statement.read? (Text.trim piece) = none := by
  have htrim : Text.trim piece = [] := by
    rw [Text.trim, Text.trimLeft, List.dropWhile_eq_nil_iff.2 (List.all_eq_true.1 h)]
    rfl
  rw [htrim]
  rfl

/-- Blank pieces need not be left out first. -/
theorem readAll_eq (output : List Char) :
    Statement.readAll output =
      (cut .start output).filterMap fun piece => Statement.read? (Text.trim piece) := by
  rw [Statement.readAll, statementTexts_eq, List.filterMap_filter]
  congr 1
  funext piece
  cases h : Text.isBlankText piece with
  | true => exact (read?_trim_of_isBlankText h).symm
  | false => rfl

/-- The statement in front of a separator is read, then the rest. -/
theorem readAll_append {text : List Char} (h : Scan.start.passes text = some .start)
    (rest : List Char) :
    Statement.readAll (text ++ ';' :: rest) =
      (Statement.read? (Text.trim text)).toList ++ Statement.readAll rest := by
  rw [readAll_eq, cut_of_passes h, List.filterMap_cons, readAll_eq]
  cases Statement.read? (Text.trim text) <;> rfl

/-- White space in front of a statement is of no account. -/
theorem readAll_cons_of_isBlank {c : Char} (h : Text.isBlank c = true) (rest : List Char) :
    Statement.readAll (c :: rest) = Statement.readAll rest := by
  rw [readAll_eq, readAll_eq, cut]
  split
  next =>
    -- a line end cuts off an empty piece
    rw [List.filterMap_cons, read?_trim_of_isBlankText rfl]
  next hseparates =>
    -- the character joins the piece that comes next, and is trimmed from it
    rw [Scan.next_of_isBlank h]
    cases cut .start rest with
    | nil => rw [List.filterMap_cons, ← Text.trim_nil, Text.trim_cons_of_isBlank h]; rfl
    | cons piece pieces =>
      rw [List.filterMap_cons, List.filterMap_cons, Text.trim_cons_of_isBlank h]

theorem readAll_isBlankText_append {gap : List Char} (h : Text.isBlankText gap = true)
    (rest : List Char) : Statement.readAll (gap ++ rest) = Statement.readAll rest := by
  induction gap with
  | nil => rfl
  | cons c gap ih =>
    obtain ⟨hc, hgap⟩ := Bool.and_eq_true_iff.1 h
    rw [List.cons_append, readAll_cons_of_isBlank hc, ih hgap]

/-! ### Names between spaces -/

namespace Identifier

variable (name : Identifier)

theorem isBare_of_mem {c : Char} (h : c ∈ name.chars) : isBare c = true :=
  isBare_of_isNameRest (name.isNameRest_of_mem h)

theorem isBlank_of_mem {c : Char} (h : c ∈ name.chars) : Text.isBlank c = false :=
  (isBare_iff.1 (name.isBare_of_mem h)).1

theorem passes_chars_append (rest : List Char) :
    Scan.start.passes (name.chars ++ rest) = Scan.start.passes rest :=
  passes_of_all_isBare (fun _ => name.isBare_of_mem) rest

theorem passes_chars : Scan.start.passes name.chars = some .start := by
  rw [← List.append_nil name.chars, name.passes_chars_append, Scan.passes_nil]

end Identifier

/-- Where the last part of a text ends, the text ends. -/
theorem isBlank_of_mem_getLast?_append {a b : List Char} (hb : b ≠ [])
    (h : ∀ c ∈ b.getLast?, Text.isBlank c = false) :
    ∀ c ∈ (a ++ b).getLast?, Text.isBlank c = false := by
  intro c hc
  rw [List.getLast?_append] at hc
  rcases Option.or_eq_some_iff.1 hc with hc | ⟨hnone, -⟩
  · exact h c hc
  · exact absurd (List.getLast?_eq_none_iff.1 hnone) hb

/-- Where the first part of a text begins, the text begins. -/
theorem isBlank_of_mem_head?_append {a b : List Char} (ha : a ≠ [])
    (h : ∀ c ∈ a.head?, Text.isBlank c = false) :
    ∀ c ∈ (a ++ b).head?, Text.isBlank c = false := by
  intro c hc
  rw [List.head?_append] at hc
  rcases Option.or_eq_some_iff.1 hc with hc | ⟨hnone, -⟩
  · exact h c hc
  · exact absurd (List.head?_eq_none_iff.1 hnone) ha

theorem isBlank_of_mem_head?_cons {c : Char} (h : Text.isBlank c = false) (rest : List Char) :
    ∀ d ∈ (c :: rest).head?, Text.isBlank d = false := by
  rintro d ⟨⟩
  exact h

theorem spaced_singleton (name : Identifier) : spaced [name] = name.chars :=
  List.intercalate_singleton

theorem spaced_cons_cons (name other : Identifier) (others : List Identifier) :
    spaced (name :: other :: others) = (name.chars ++ [' ']) ++ spaced (other :: others) := by
  rw [spaced, List.map_cons, List.map_cons, List.intercalate_cons_cons, spaced, List.map_cons]

theorem spaced_ne_nil (name : Identifier) (others : List Identifier) :
    spaced (name :: others) ≠ [] := by
  cases others with
  | nil => rw [spaced_singleton]; exact name.chars_ne_nil
  | cons other others => rw [spaced_cons_cons]; simp

/-- The scanner passes names between spaces. -/
theorem passes_spaced (name : Identifier) (others : List Identifier) :
    Scan.start.passes (spaced (name :: others)) = some .start := by
  induction others generalizing name with
  | nil =>
    rw [spaced_singleton, name.passes_chars]
  | cons other others ih =>
    have hname : Scan.start.passes (name.chars ++ [' ']) = some .start :=
      name.passes_chars_append [' ']
    rw [spaced_cons_cons, Scan.passes_append_of_eq_some hname, ih]

theorem isBlank_of_mem_getLast?_spaced (name : Identifier) (others : List Identifier) :
    ∀ c ∈ (spaced (name :: others)).getLast?, Text.isBlank c = false := by
  induction others generalizing name with
  | nil =>
    intro c hc
    rw [spaced_singleton] at hc
    exact name.isBlank_of_mem (List.mem_of_getLast? hc)
  | cons other others ih =>
    rw [spaced_cons_cons]
    exact isBlank_of_mem_getLast?_append (spaced_ne_nil other others) (ih other)

/-- Names are read back from where they stand between spaces. -/
theorem words_spaced (names : List Identifier) :
    Text.words (spaced names) = names.map Identifier.chars := by
  refine Text.words_intercalate fun w hw => ?_
  obtain ⟨name, -, rfl⟩ := List.mem_map.1 hw
  exact ⟨name.chars_ne_nil, fun _ => name.isBlank_of_mem⟩

/-! ### Reading one piece -/

namespace Statement

/-- What stands before the first `=` tells whether a piece is an assignment. -/
theorem read?_append_equals {k : List Char} (hequals : '=' ∉ k)
    (hunset : Text.dropStart? "unset ".toList k = none) (value : List Char) :
    read? (k ++ '=' :: value) =
      if isIdentifier ((Text.dropStart? "export ".toList k).getD k) then
        some (.set (String.ofList ((Text.dropStart? "export ".toList k).getD k))
          (String.ofList (unquote .outside value)))
      else none := by
  have hnoUnset : Text.dropStart? "unset ".toList (k ++ '=' :: value) = none := by
    rw [Text.dropStart?_append_cons (by decide), hunset, Option.map_none]
  have hassignment :
      (Text.dropStart? "export ".toList (k ++ '=' :: value)).getD (k ++ '=' :: value) =
        (Text.dropStart? "export ".toList k).getD k ++ '=' :: value := by
    rw [Text.dropStart?_append_cons (by decide)]
    cases Text.dropStart? "export ".toList k <;> rfl
  have hname : '=' ∉ (Text.dropStart? "export ".toList k).getD k := by
    cases hexport : Text.dropStart? "export ".toList k with
    | none => exact hequals
    | some name =>
      rw [Text.dropStart?_eq_some_iff.1 hexport] at hequals
      exact fun h => hequals (List.mem_append_right _ h)
  unfold read?
  rw [hnoUnset]
  dsimp only
  rw [hassignment, Text.splitOnce?_eq_some_iff.2 ⟨rfl, hname⟩]

/-- An assignment to a name is read, whether it is exported or not. -/
theorem read?_assignment (exported : Bool) (name : Identifier) (written : List Char) :
    read? ((if exported then "export ".toList else []) ++ (name.chars ++ '=' :: written)) =
      some (.set (String.ofList name.chars) (String.ofList (unquote .outside written))) := by
  have hequals : '=' ∉ name.chars := name.notMem_of_isNameRest_eq_false (by decide)
  have hspace : ' ' ∉ name.chars := name.notMem_of_isNameRest_eq_false (by decide)
  cases exported with
  | true =>
    have hunset : Text.dropStart? "unset ".toList ("export ".toList ++ name.chars) = none := rfl
    have hexport : Text.dropStart? "export ".toList ("export ".toList ++ name.chars) =
        some name.chars := Text.dropStart?_eq_some_iff.2 rfl
    have hk : '=' ∉ "export ".toList ++ name.chars := by
      rw [List.mem_append]
      exact not_or.2 ⟨by decide, hequals⟩
    rw [if_pos rfl, ← List.append_assoc, read?_append_equals hk hunset, hexport, Option.getD_some,
      if_pos name.valid]
  | false =>
    -- a keyword has a space behind it, and a name has none
    have hkeyword : ∀ keyword : List Char, ' ' ∈ keyword →
        Text.dropStart? keyword name.chars = none := fun keyword hmem =>
      Option.eq_none_iff_forall_ne_some.2 fun rest hrest =>
        hspace (Text.dropStart?_eq_some_iff.1 hrest ▸ List.mem_append_left rest hmem)
    rw [if_neg Bool.false_ne_true, List.nil_append,
      read?_append_equals hequals (hkeyword _ (by decide)), hkeyword _ (by decide),
      Option.getD_none, if_pos name.valid]

end Statement

namespace Piece

/-- The scanner comes out of a piece as it went in. -/
theorem passes_text (piece : Piece) : Scan.start.passes piece.text = some .start := by
  have hexport : Scan.start.passes "export ".toList = some .start := by decide
  have hunset : Scan.start.passes "unset ".toList = some .start := by decide
  cases piece with
  | assign exported name word =>
    have hassignment : Scan.start.passes (name.chars ++ '=' :: word.written) = some .start := by
      rw [name.passes_chars_append, passes_of_isBare (by decide), word.passes_written]
    cases exported with
    | false => exact hassignment
    | true => exact (Scan.passes_append_of_eq_some hexport _).trans hassignment
  | unset name others =>
    exact (Scan.passes_append_of_eq_some hunset _).trans (passes_spaced name others)
  | exporting name => exact (Scan.passes_append_of_eq_some hexport _).trans name.passes_chars
  | failed => decide

/-- There is no white space around a piece. -/
theorem trim_text (piece : Piece) : Text.trim piece.text = piece.text := by
  cases piece with
  | assign exported name word =>
    have hname : ∀ c ∈ name.chars.head?, Text.isBlank c = false := fun c hc =>
      name.isBlank_of_mem (List.mem_of_head? hc)
    have hfirst := isBlank_of_mem_head?_append (b := '=' :: word.written) name.chars_ne_nil hname
    -- the text ends with the word, or with the `=` if there is nothing of it
    have hlast : ∀ c ∈ ('=' :: word.written).getLast?, Text.isBlank c = false := fun c hc => by
      rw [List.getLast?_cons] at hc
      cases hw : word.written.getLast? with
      | none =>
        rw [hw] at hc
        cases hc
        decide
      | some d =>
        rw [hw] at hc
        cases hc
        exact word.isBlank_of_mem_getLast?_written d hw
    refine Text.trim_eq_self ?_ (isBlank_of_mem_getLast?_append (by simp)
      (isBlank_of_mem_getLast?_append (by simp) hlast))
    cases exported with
    | false => exact hfirst
    | true => exact isBlank_of_mem_head?_cons (c := 'e') (by decide) _
  | unset name others =>
    exact Text.trim_eq_self (isBlank_of_mem_head?_cons (c := 'u') (by decide) _)
      (isBlank_of_mem_getLast?_append (spaced_ne_nil name others)
        (isBlank_of_mem_getLast?_spaced name others))
  | exporting name =>
    exact Text.trim_eq_self (isBlank_of_mem_head?_cons (c := 'e') (by decide) _)
      (isBlank_of_mem_getLast?_append name.chars_ne_nil fun c hc =>
        name.isBlank_of_mem (List.mem_of_getLast? hc))
  | failed => decide

/-- **One piece.** A piece is read as what it stands for. -/
theorem read?_text (piece : Piece) : Statement.read? piece.text = piece.statement? := by
  cases piece with
  | assign exported name word =>
    have hread := Statement.read?_assignment exported name word.written
    rw [word.unquote_written] at hread
    exact hread
  | unset name others =>
    have hunset : Text.dropStart? "unset ".toList (unset name others).text =
        some (spaced (name :: others)) := Text.dropStart?_eq_some_iff.2 rfl
    rw [Statement.read?, hunset]
    dsimp only
    rw [words_spaced, List.map_map]
    rfl
  | exporting name =>
    have hunset : Text.dropStart? "unset ".toList (exporting name).text = none := rfl
    have hexport : Text.dropStart? "export ".toList (exporting name).text = some name.chars := rfl
    have hsplit : Text.splitOnce? '=' name.chars = none :=
      Text.splitOnce?_eq_none_iff.2 (name.notMem_of_isNameRest_eq_false (by decide))
    rw [Statement.read?, hunset]
    dsimp only
    rw [hexport, Option.getD_some, hsplit, statement?]
  | failed => decide

end Piece

/-- Whether the variables of a statement have names of the shell, at least one. -/
def Statement.IsNamed : Statement → Prop
  | .set name _ => isIdentifier name.toList = true
  | .unset names => names ≠ [] ∧ ∀ name ∈ names, isIdentifier name.toList = true

/-- The pieces of a list of texts that are names. -/
theorem exists_identifiers {names : List String}
    (h : ∀ name ∈ names, isIdentifier name.toList = true) :
    ∃ identifiers : List Identifier,
      identifiers.map (fun n => String.ofList n.chars) = names := by
  induction names with
  | nil => exact ⟨[], rfl⟩
  | cons name names ih =>
    obtain ⟨identifiers, hidentifiers⟩ := ih fun n hn => h n (List.mem_cons_of_mem _ hn)
    exact ⟨⟨name.toList, h name List.mem_cons_self⟩ :: identifiers, by simp [hidentifiers]⟩

/-- A statement can be printed just if its variables have names of the shell. -/
theorem exists_statement?_eq_some_iff {s : Statement} :
    (∃ piece : Piece, piece.statement? = some s) ↔ s.IsNamed := by
  constructor
  · rintro ⟨piece, h⟩
    cases piece with
    | assign exported name word =>
      cases h
      simpa [Statement.IsNamed] using name.valid
    | unset name others =>
      cases h
      refine ⟨List.cons_ne_nil _ _, fun n hn => ?_⟩
      obtain ⟨identifier, -, rfl⟩ := List.mem_map.1 hn
      simpa using identifier.valid
    | exporting name => cases h
    | failed => cases h
  · intro h
    cases s with
    | set name value =>
      -- between double quotes every value can be written
      refine ⟨.assign false ⟨name.toList, h⟩ [.double value.toList], ?_⟩
      simp [Piece.statement?, Word.value, Segment.value]
    | unset names =>
      obtain ⟨hne, hnames⟩ := h
      obtain ⟨identifiers, rfl⟩ := exists_identifiers hnames
      cases identifiers with
      | nil => exact absurd rfl hne
      | cons name others => exact ⟨.unset name others, rfl⟩

/-! ### The whole output -/

/-- **Reading what was printed.** However the output is printed, just the statements that it stands
for are read, in order and with their values; and the lists of statements that can be printed are
those over names of the shell, whatever the values. -/
theorem readAll_print :
    (∀ pieces, Statement.readAll (print pieces) = announced pieces) ∧
      ∀ statements, (∃ pieces, announced pieces = statements) ↔ ∀ s ∈ statements, s.IsNamed := by
  refine ⟨fun pieces => ?_, fun statements => ⟨?_, fun h => ?_⟩⟩
  · induction pieces with
    | nil => rfl
    | cons p pieces ih =>
      have hprint : print (p :: pieces) = p.piece.text ++ ';' :: (p.gap ++ print pieces) := by
        simp [print]
      rw [hprint, readAll_append p.piece.passes_text, p.piece.trim_text, p.piece.read?_text,
        readAll_isBlankText_append p.blank, ih, announced, announced, List.filterMap_cons]
      cases p.piece.statement? <;> rfl
  · rintro ⟨pieces, rfl⟩ s hs
    obtain ⟨p, -, hp⟩ := List.mem_filterMap.1 hs
    exact exists_statement?_eq_some_iff.1 ⟨p.piece, hp⟩
  · induction statements with
    | nil => exact ⟨[], rfl⟩
    | cons s statements ih =>
      obtain ⟨piece, hpiece⟩ := exists_statement?_eq_some_iff.2 (h s List.mem_cons_self)
      obtain ⟨pieces, hpieces⟩ := ih fun x hx => h x (List.mem_cons_of_mem _ hx)
      refine ⟨⟨piece, ['\n'], rfl⟩ :: pieces, ?_⟩
      rw [announced, List.filterMap_cons, hpiece, ← hpieces, announced]

example :
    Statement.readAll "export A='x;y\n='\"\\$\"\\';\nexport A; false;\nunset B C_1;\n".toList =
      [.set "A" "x;y\n=$'", .unset ["B", "C_1"]] := by decide +kernel

end SiteRuntime.Lmod
