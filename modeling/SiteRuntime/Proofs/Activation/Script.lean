import SiteRuntime.Proofs.Activation.Assignments
import SiteRuntime.Proofs.Lmod.Output

/-!
# The commands of an activation in a shell

The commands that an activation records are meant for a shell, in a job script or at a prompt. Of
the shell only little is assumed, and only for arguments in plain text, without quotes and the like
(`ExportShell`): it takes `export` with its arguments apart at blanks, and a word `N=V` assigns to
`N` the text `V` with the references to variables replaced.

The values stand in the commands as they were given, neither expanded nor quoted. So the shell does
what the activation did as long as a value is one word and all variables it refers to have a text
(`run_commands_load`). It does something else in two cases (`not_run_commands_load`): of a value
with a blank in it the shell assigns what stands before the blank, and a reference to a variable
that is set to bytes which are no text is left as it stands by the activation and replaced by the
shell.

The two sides go over the same text, each in its own way. A value is therefore given by its pieces,
and both are shown to put the same in the place of each piece (`resolve_written`,
`substitute_written`).
-/

namespace SiteRuntime.Script

open Lmod (Identifier isNameRest isIdentifier)

/-! ### Plain text -/

/-- Whether a character has no meaning of its own for the shell: a letter of any script, a digit, or
one of a few signs. -/
def isInert (c : Char) : Bool :=
  isNameRest c || "/.:,+-=".toList.contains c || (128 ≤ c.toNat && !Text.isBlank c)

/-- Whether a character separates words. -/
def isSeparator (c : Char) : Bool := c = ' ' || c = '\t'

/-- A part of a plain text. -/
inductive Piece where
  /-- A character that stands for itself. -/
  | char (c : Char) (allowed : (isInert c || isSeparator c) = true)
  /-- A reference `$X`. -/
  | bare (name : Identifier)
  /-- A reference `${X}`, with the braces. -/
  | braced (name : Identifier)

namespace Piece

/-- A piece as it is written. -/
def written : Piece → List Char
  | char c _ => [c]
  | bare name => '$' :: name.chars
  | braced name => '$' :: '{' :: (name.chars ++ ['}'])

/-- The variable that a piece refers to. -/
def refers? : Piece → Option String
  | char _ _ => none
  | bare name | braced name => some (String.ofList name.chars)

end Piece

/-- The text of pieces. -/
def written (ps : List Piece) : List Char := ps.flatMap Piece.written

@[simp] theorem written_cons (p : Piece) (ps : List Piece) :
    written (p :: ps) = p.written ++ written ps := List.flatMap_cons

/-- Pieces that can be told apart: a reference without braces ends where its name does. -/
def Separated : List Piece → Prop
  | [] => True
  | .bare _ :: rest => (∀ c ∈ (written rest).head?, isNameRest c = false) ∧ Separated rest
  | _ :: rest => Separated rest

/-- **A plain text** that refers to variables of a certain kind only. -/
def Plain (kind : String → Prop) (text : String) : Prop :=
  ∃ ps : List Piece, Separated ps ∧ text.toList = written ps ∧ ∀ p ∈ ps, ∀ x ∈ p.refers?, kind x

theorem Plain.mono {kind kind' : String → Prop} {text : String} (h : Plain kind text)
    (hkind : ∀ x, kind x → kind' x) : Plain kind' text := by
  obtain ⟨ps, hs, htext, hrefers⟩ := h
  exact ⟨ps, hs, htext, fun p hp x hx => hkind x (hrefers p hp x hx)⟩

/-- Characters that stand for themselves. -/
def chars (cs : List Char) (h : ∀ c ∈ cs, (isInert c || isSeparator c) = true) : List Piece :=
  cs.pmap .char h

theorem written_chars_append {cs : List Char} (h : ∀ c ∈ cs, (isInert c || isSeparator c) = true)
    (ps : List Piece) : written (chars cs h ++ ps) = cs ++ written ps := by
  induction cs with
  | nil => rfl
  | cons c cs ih => exact congrArg (c :: ·) (ih (List.forall_mem_cons.1 h).2)

theorem separated_chars_append {cs : List Char} (h : ∀ c ∈ cs, (isInert c || isSeparator c) = true)
    {ps : List Piece} (hs : Separated ps) : Separated (chars cs h ++ ps) := by
  induction cs with
  | nil => exact hs
  | cons c cs ih => exact ih (List.forall_mem_cons.1 h).2

/-- Characters that stand for themselves may come before a plain text. -/
theorem Plain.append {kind : String → Prop} {front text : String}
    (hfront : ∀ c ∈ front.toList, (isInert c || isSeparator c) = true) (h : Plain kind text) :
    Plain kind (front ++ text) := by
  obtain ⟨ps, hs, htext, hkind⟩ := h
  refine ⟨chars _ hfront ++ ps, separated_chars_append hfront hs, ?_, fun p hp x hx => ?_⟩
  · rw [written_chars_append, ← htext, String.toList_append]
  · rcases List.mem_append.1 hp with hp | hp
    · obtain ⟨c, hc, rfl⟩ := List.mem_pmap.1 hp
      cases hx
    · exact hkind p hp x hx

/-- A text without references is plain if its characters are. -/
theorem plain_of_chars {kind : String → Prop} {text : String}
    (h : (text.toList.all fun c => isInert c || isSeparator c) = true) : Plain kind text := by
  have hempty : Plain kind "" := ⟨[], trivial, rfl, nofun⟩
  rw [← String.append_empty (s := text)]
  exact hempty.append (List.all_eq_true.1 h)

theorem isBlank_eq_false_of_isInert {c : Char} (h : isInert c = true) : Text.isBlank c = false := by
  rw [isInert, Bool.or_eq_true, Bool.or_eq_true, Bool.and_eq_true] at h
  rcases h with (h | h) | ⟨-, h⟩
  · exact (Lmod.isBare_iff.1 (Lmod.isBare_of_isNameRest h)).1
  · have hsigns : ("/.:,+-=".toList.all fun c => !Text.isBlank c) = true := by decide
    simpa using List.all_eq_true.1 hsigns c (List.contains_iff_mem.1 h)
  · simpa using h

theorem ne_of_allowed {c : Char} (h : (isInert c || isSeparator c) = true) : c ≠ '$' ∧ c ≠ '~' := by
  constructor <;>
  · rintro rfl
    revert h
    decide

/-! ### The shell -/

/-- A text with `$X` and `${X}` replaced by what `value` has for `X`. Behind a `$` there has to be a
reference. -/
def substitute (value : List Char → Bytes) : List Char → Bytes
  | [] => []
  | c :: rest =>
    if c = '$' then
      if rest.head? = some '{' then
        let body := rest.drop 1
        value (body.takeWhile (· ≠ '}')) ++
          substitute value ((body.dropWhile (· ≠ '}')).drop 1)
      else value (rest.takeWhile isNameRest) ++ substitute value (rest.dropWhile isNameRest)
    else String.utf8EncodeChar c ++ substitute value rest
termination_by s => s.length
decreasing_by
  · have hdrop := (List.dropWhile_sublist (l := rest.drop 1) fun c : Char => c ≠ '}').length_le
    simp only [List.length_drop, List.length_cons] at hdrop ⊢
    omega
  · have hdrop := (List.dropWhile_sublist isNameRest (l := rest)).length_le
    simp only [List.length_cons]
    omega
  · simp

/-- What the shell puts in the place of a variable: nothing if it is not set. -/
def valueIn (e : ProcessEnv) (name : List Char) : Bytes :=
  (e.value? (Bytes.ofText (String.ofList name))).getD []

/-- The variables after one word of `export`; `before` is what its value refers to. -/
def exportWord (before e : ProcessEnv) (word : List Char) : ProcessEnv :=
  match Text.splitOnce? '=' word with
  | some (name, value) =>
    e.set (Bytes.ofText (String.ofList name)) (substitute (valueIn before) value)
  | none => e

/-- The variables after `export` with its arguments. -/
def exportWords (e : ProcessEnv) (arguments : String) : ProcessEnv :=
  (Text.words arguments.toList).foldl (exportWord e) e

/-- **A shell** as far as lines `export` with plain arguments go; nothing else is assumed of it. -/
structure ExportShell where
  /-- The variables after a line. -/
  run : ProcessEnv → String → ProcessEnv
  /-- Arguments are words between blanks, each of which may assign a variable. -/
  run_export : ∀ e arguments, Plain (fun _ => True) arguments →
    run e ("export " ++ arguments) = exportWords e arguments

/-- The variables after the lines of a script. -/
def ExportShell.runAll (sh : ExportShell) (e : ProcessEnv) (lines : List String) : ProcessEnv :=
  lines.foldl sh.run e

/-! ### One value, read twice -/

/-- What a piece stands for in an environment. -/
def Piece.value (e : ProcessEnv) : Piece → List Char
  | char c _ => [c]
  | bare name | braced name => ((e.text? (String.ofList name.chars)).getD "").toList

theorem takeWhile_name {name : Identifier} {rest : List Char}
    (h : ∀ c ∈ rest.head?, isNameRest c = false) :
    (name.chars ++ rest).takeWhile isNameRest = name.chars ∧
      (name.chars ++ rest).dropWhile isNameRest = rest :=
  Expansion.takeWhile_isNameChar (fun _ hc => name.isNameRest_of_mem hc) h

theorem Identifier.exists_cons (name : Identifier) :
    ∃ c rest, name.chars = c :: rest ∧ c ≠ '{' := by
  cases h : name.chars with
  | nil => exact absurd h name.chars_ne_nil
  | cons c rest =>
    refine ⟨c, rest, rfl, ?_⟩
    rintro rfl
    exact name.notMem_of_isNameRest_eq_false (by decide) (h ▸ List.mem_cons_self)

theorem reference?_bare {name : Identifier} {rest : List Char}
    (h : ∀ c ∈ rest.head?, isNameRest c = false) :
    Expansion.reference? (name.chars ++ rest) = some ⟨name.chars, name.chars, rest⟩ := by
  have hname : ∀ c ∈ name.chars, Expansion.isNameChar c := fun c hc => name.isNameRest_of_mem hc
  exact Expansion.Reference.Begins.reference?_eq (.bare name.chars_ne_nil hname h)

theorem reference?_braced (name : Identifier) (rest : List Char) :
    Expansion.reference? ('{' :: (name.chars ++ '}' :: rest)) =
      some ⟨name.chars, '{' :: (name.chars ++ ['}']), rest⟩ := by
  have hbrace : '}' ∉ name.chars := name.notMem_of_isNameRest_eq_false (by decide)
  exact Expansion.Reference.Begins.reference?_eq (.braced name.chars_ne_nil hbrace)

/-- The activation puts for each piece what it stands for, if all references do. -/
theorem resolve_written {e : ProcessEnv} {ps : List Piece} (hs : Separated ps)
    (hset : ∀ p ∈ ps, ∀ x ∈ p.refers?, (e.text? x).isSome) :
    Expansion.resolve (fun name => (e.text? (String.ofList name)).map String.toList) (written ps) =
      ps.flatMap (Piece.value e) := by
  induction ps with
  | nil => exact Expansion.resolve_nil _
  | cons p ps ih =>
    obtain ⟨hp, hps⟩ := List.forall_mem_cons.1 hset
    rw [written_cons, List.flatMap_cons]
    cases p with
    | char c allowed =>
      rw [Piece.written, List.singleton_append,
        Expansion.resolve_cons_of_ne (ne_of_allowed allowed).1, ih hs hps]
      rfl
    | bare name =>
      obtain ⟨hend, hs⟩ := hs
      obtain ⟨x, hx⟩ := Option.isSome_iff_exists.1 (hp _ rfl)
      rw [Piece.written, List.cons_append, Expansion.resolve_of_reference (reference?_bare hend),
        ih hs hps]
      simp only [Piece.value, hx]
      rfl
    | braced name =>
      obtain ⟨x, hx⟩ := Option.isSome_iff_exists.1 (hp _ rfl)
      rw [Piece.written, List.cons_append, List.cons_append, List.append_assoc,
        List.singleton_append, Expansion.resolve_of_reference (reference?_braced name _),
        ih hs hps]
      simp only [Piece.value, hx]
      rfl

theorem substitute_cons_of_ne {value : List Char → Bytes} {c : Char} (h : c ≠ '$')
    (rest : List Char) :
    substitute value (c :: rest) = String.utf8EncodeChar c ++ substitute value rest := by
  rw [substitute, if_neg h]

theorem substitute_bare {value : List Char → Bytes} {name : Identifier} {rest : List Char}
    (h : ∀ c ∈ rest.head?, isNameRest c = false) :
    substitute value ('$' :: (name.chars ++ rest)) =
      value name.chars ++ substitute value rest := by
  obtain ⟨htake, hdrop⟩ := takeWhile_name h
  have hhead : (name.chars ++ rest).head? ≠ some '{' := by
    obtain ⟨c, more, hname, hc⟩ := Identifier.exists_cons name
    rw [hname]
    exact fun heq => hc (Option.some.inj heq)
  rw [substitute, if_pos rfl, if_neg hhead, htake, hdrop]

theorem substitute_braced {value : List Char → Bytes} (name : Identifier) (rest : List Char) :
    substitute value ('$' :: '{' :: (name.chars ++ '}' :: rest)) =
      value name.chars ++ substitute value rest := by
  have hname : ∀ c ∈ name.chars, decide (c ≠ '}') = true := fun c hc => by
    refine decide_eq_true ?_
    rintro rfl
    exact name.notMem_of_isNameRest_eq_false (by decide) hc
  rw [substitute, if_pos rfl, List.head?_cons, if_pos rfl]
  simp only [List.drop_succ_cons, List.drop_zero]
  rw [List.takeWhile_append_of_pos hname, List.dropWhile_append_of_pos hname]
  simp

/-- What the shell puts for a variable whose value is a text. -/
theorem valueIn_of_text? {e : ProcessEnv} {name : Identifier} {x : String}
    (h : e.text? (String.ofList name.chars) = some x) : valueIn e name.chars = Bytes.ofText x := by
  have hequals : ProcessEnv.equals ∉ Bytes.ofText (String.ofList name.chars) := by
    rw [equals_mem_ofText_iff, String.toList_ofList]
    exact name.notMem_of_isNameRest_eq_false (by decide)
  rw [ProcessEnv.text?, ProcessEnv.read?_eq_value? hequals] at h
  obtain ⟨v, hv, hx⟩ := Option.bind_eq_some_iff.1 h
  rw [valueIn, hv, Option.getD_some, Bytes.text?_eq_some_iff.1 hx]

/-- The shell puts for each piece what it stands for, if all references do. -/
theorem substitute_written {e : ProcessEnv} {ps : List Piece} (hs : Separated ps)
    (hset : ∀ p ∈ ps, ∀ x ∈ p.refers?, (e.text? x).isSome) :
    substitute (valueIn e) (written ps) =
      (ps.flatMap (Piece.value e)).flatMap String.utf8EncodeChar := by
  induction ps with
  | nil => exact substitute.eq_1 _
  | cons p ps ih =>
    obtain ⟨hp, hps⟩ := List.forall_mem_cons.1 hset
    rw [written_cons, List.flatMap_cons, List.flatMap_append]
    cases p with
    | char c allowed =>
      rw [Piece.written, List.singleton_append, substitute_cons_of_ne (ne_of_allowed allowed).1,
        ih hs hps]
      simp [Piece.value]
    | bare name =>
      obtain ⟨hend, hs⟩ := hs
      obtain ⟨x, hx⟩ := Option.isSome_iff_exists.1 (hp _ rfl)
      rw [Piece.written, List.cons_append, substitute_bare hend, ih hs hps, valueIn_of_text? hx,
        Bytes.ofText_eq_flatMap]
      simp only [Piece.value, hx]
      rfl
    | braced name =>
      obtain ⟨x, hx⟩ := Option.isSome_iff_exists.1 (hp _ rfl)
      rw [Piece.written, List.cons_append, List.cons_append, List.append_assoc,
        List.singleton_append, substitute_braced, ih hs hps, valueIn_of_text? hx,
        Bytes.ofText_eq_flatMap]
      simp only [Piece.value, hx]
      rfl

/-- A plain text does not begin with a `~`. -/
theorem homeRest?_written (ps : List Piece) : Expansion.homeRest? (written ps) = none := by
  cases ps with
  | nil => rfl
  | cons p ps =>
    rw [written_cons]
    cases p with
    | char c allowed =>
      rw [Piece.written, List.singleton_append, Expansion.homeRest?.eq_def]
      split
      next heq => exact absurd (List.cons.inj heq).1 (ne_of_allowed allowed).2
      next heq => exact absurd (List.cons.inj heq).1 (ne_of_allowed allowed).2
      next => rfl
    | bare name => rfl
    | braced name => rfl

/-! ### One line -/

/-- A plain text without blanks is a single word. -/
theorem words_of_plain {kind : String → Prop} {text : String} (h : Plain kind text)
    (hblank : ∀ c ∈ text.toList, isSeparator c = false) (hne : text.toList ≠ []) :
    Text.words text.toList = [text.toList] := by
  obtain ⟨ps, -, htext, -⟩ := h
  have hchars : ∀ c ∈ text.toList, Text.isBlank c = false := by
    intro c hc
    obtain ⟨p, hp, hcp⟩ := List.mem_flatMap.1 (htext ▸ hc : c ∈ written ps)
    have hname : ∀ name : Identifier, c ∈ name.chars → Text.isBlank c = false := fun name hn =>
      (Lmod.isBare_iff.1 (Lmod.isBare_of_isNameRest (name.isNameRest_of_mem hn))).1
    cases p with
    | char d allowed =>
      obtain rfl := List.mem_singleton.1 hcp
      rw [hblank c hc, Bool.or_false] at allowed
      exact isBlank_eq_false_of_isInert allowed
    | bare name =>
      rcases List.mem_cons.1 hcp with rfl | hcp
      · decide
      · exact hname name hcp
    | braced name =>
      rcases List.mem_cons.1 hcp with rfl | hcp
      · decide
      rcases List.mem_cons.1 hcp with rfl | hcp
      · decide
      rcases List.mem_append.1 hcp with hcp | hcp
      · exact hname name hcp
      · obtain rfl := List.mem_singleton.1 hcp
        decide
  have hwords : Text.words (text.toList ++ []) = text.toList :: Text.words [] :=
    Text.words_append hne hchars nofun
  rwa [List.append_nil] at hwords

/-- A name and `=` in front of a plain text make a plain text. -/
theorem Plain.assignment {kind : String → Prop} {name value : String}
    (hname : isIdentifier name.toList = true) (h : Plain kind value) :
    Plain kind (name ++ "=" ++ value) := by
  refine h.append fun c hc => ?_
  rw [String.toList_append] at hc
  rcases List.mem_append.1 hc with hc | hc
  · simp [isInert, Identifier.isNameRest_of_mem ⟨name.toList, hname⟩ hc]
  · obtain rfl := List.mem_singleton.1 hc
    decide

/-- The argument of the line is one word if its value is. -/
theorem isSeparator_of_mem_assignment {name value : String}
    (hname : isIdentifier name.toList = true)
    (hblank : ∀ c ∈ value.toList, isSeparator c = false) :
    ∀ c ∈ name.toList ++ '=' :: value.toList, isSeparator c = false := by
  intro c hc
  rcases List.mem_append.1 hc with hc | hc
  · have hne : ∀ d, isNameRest d = false → c ≠ d := by
      rintro d hd rfl
      exact Identifier.notMem_of_isNameRest_eq_false ⟨name.toList, hname⟩ hd hc
    rw [isSeparator, Bool.or_eq_false_iff, decide_eq_false_iff_not, decide_eq_false_iff_not]
    exact ⟨hne ' ' (by decide), hne '\t' (by decide)⟩
  · rcases List.mem_cons.1 hc with rfl | hc
    · decide
    · exact hblank c hc

section Replay

variable [Account]

/-- **The same value.** Where all references are to variables with a text, the shell replaces what
the activation expands. -/
theorem substitute_eq_expand {e : ProcessEnv} {text : String}
    (h : Plain (fun x => (e.text? x).isSome) text) :
    substitute (valueIn e) text.toList = Bytes.ofText (e.expand text) := by
  obtain ⟨ps, hs, htext, hset⟩ := h
  have hexpand : e.expand text = String.ofList (ps.flatMap (Piece.value e)) := by
    rw [ProcessEnv.expand, Expansion.expandWith_eq, htext]
    unfold Expansion.expandChars
    rw [homeRest?_written]
    exact congrArg String.ofList (resolve_written hs hset)
  rw [hexpand, htext, substitute_written hs hset, Bytes.ofText_eq_flatMap, String.toList_ofList]

/-- **One line of the script.** The shell assigns what the activation assigns. -/
theorem run_exportCommand (sh : ExportShell) {e : ProcessEnv} {name value : String}
    (hname : isIdentifier name.toList = true) (hvalue : Plain (fun x => (e.text? x).isSome) value)
    (hblank : ∀ c ∈ value.toList, isSeparator c = false) :
    sh.run e (Activation.exportCommand name value) =
      e.set (Bytes.ofText name) (Bytes.ofText (e.expand value)) := by
  have hcommand : Activation.exportCommand name value = "export " ++ (name ++ "=" ++ value) := by
    have hparts : Activation.exportCommand name value = "export " ++ name ++ "=" ++ value := rfl
    rw [hparts, String.append_assoc, String.append_assoc, String.append_assoc]
  have hargument : (name ++ "=" ++ value).toList = name.toList ++ '=' :: value.toList := by simp
  have hplain : Plain (fun _ => True) (name ++ "=" ++ value) :=
    (hvalue.assignment hname).mono fun _ _ => trivial
  have hword : Text.words (name.toList ++ '=' :: value.toList) =
      [name.toList ++ '=' :: value.toList] := by
    rw [← hargument]
    exact words_of_plain hplain (hargument ▸ isSeparator_of_mem_assignment hname hblank) (by simp)
  have hsplit : Text.splitOnce? '=' (name.toList ++ '=' :: value.toList) =
      some (name.toList, value.toList) := Text.splitOnce?_eq_some_iff.2
    ⟨rfl, Identifier.notMem_of_isNameRest_eq_false ⟨name.toList, hname⟩ (by decide)⟩
  rw [hcommand, sh.run_export _ _ hplain, exportWords, hargument, hword, List.foldl_cons,
    List.foldl_nil, exportWord, hsplit]
  simp only [String.ofList_toList]
  rw [substitute_eq_expand hvalue]

/-! ### The script -/

/-- **Values whose turn comes one after the other**, each a plain text that refers to variables of a
kind, which may depend on the environment that the value is applied in. -/
def Applicable (kind : ProcessEnv → String → Prop) : ProcessEnv → List (String × String) → Prop
  | _, [] => True
  | e, a :: rest => Plain (kind e) a.2 ∧ Applicable kind (e.assigned [a]) rest

theorem runAll_exportCommands (sh : ExportShell) {e : ProcessEnv}
    {assignments : List (String × String)}
    (hnames : ∀ a ∈ assignments, isIdentifier a.1.toList = true)
    (hvalues : Applicable (fun e x => (e.text? x).isSome) e assignments)
    (hblank : ∀ a ∈ assignments, ∀ c ∈ a.2.toList, isSeparator c = false) :
    sh.runAll e (assignments.map fun a => Activation.exportCommand a.1 a.2) =
      e.assigned assignments := by
  induction assignments generalizing e with
  | nil => rfl
  | cons a rest ih =>
    obtain ⟨hname, hnames⟩ := List.forall_mem_cons.1 hnames
    obtain ⟨hfirst, hblank⟩ := List.forall_mem_cons.1 hblank
    obtain ⟨hvalue, hvalues⟩ := hvalues
    rw [List.map_cons, ExportShell.runAll, List.foldl_cons,
      run_exportCommand sh hname hvalue hfirst]
    exact ih hnames hvalues hblank

/-- **The commands do in a shell what the activation did.** If environments are activated without a
module system, and every value is a plain text without blanks that refers to variables which have a
text when its turn comes, then a shell that starts in the process environment from before the
activation and takes the commands line by line ends in the one that the activation left. -/
theorem run_commands_load {μ : Type} (sh : ExportShell) {es : List Environment}
    {loaded : Activation.Loaded} {m m' : Machine μ}
    (hnames : ∀ a ∈ Activation.assignmentsOf es, isIdentifier a.1.toList = true)
    (hvalues : Applicable (fun e x => (e.text? x).isSome) m.env (Activation.assignmentsOf es))
    (hblank : ∀ a ∈ Activation.assignmentsOf es, ∀ c ∈ a.2.toList, isSeparator c = false)
    (h : Activation.load .noModules es m = .ok loaded m') :
    sh.runAll m.env loaded.commands = m'.env := by
  obtain ⟨rfl, hcommands, -⟩ := Activation.activateAll_noModules (Activation.load_eq_ok_iff.1 h).2
  rw [hcommands, Machine.env_withEnv, runAll_exportCommands sh hnames hvalues hblank]

end Replay

/-- A shell that knows nothing but `export`. -/
def exporter : ExportShell where
  run e line :=
    match Text.dropStart? "export ".toList line.toList with
    | some arguments => exportWords e (String.ofList arguments)
    | none => e
  run_export e arguments _ := by
    have hdrop : Text.dropStart? "export ".toList ("export " ++ arguments).toList =
        some arguments.toList := Text.dropStart?_eq_some_iff.2 String.toList_append
    simp only [hdrop, String.ofList_toList]

/-- The name of a variable with a search path. -/
def path : Identifier := ⟨"PATH".toList, by decide⟩

/-- The name of another variable. -/
def root : Identifier := ⟨"ROOT".toList, by decide⟩

/-- An environment that puts a directory in front of a search path and refers to it. -/
def tools : Environment :=
  ⟨"tools", ["gcc"], [("ROOT", "/opt/gcc"), ("PATH", "${ROOT}/bin:$PATH"), ("FLAGS", "-I=$ROOT")]⟩

/-- A machine with a search path and a variable that is no text. -/
def machine : Machine Unit :=
  ⟨.ofList [(Bytes.ofText "PATH", Bytes.ofText "/bin"), (Bytes.ofText "RAW", [255])],
    .empty, [], ()⟩

attribute [local instance] Account.unlisted

theorem applicable_tools :
    Applicable (fun e x => (e.text? x).isSome) machine.env tools.assignments := by
  have hpath : Separated [.bare path] := ⟨nofun, trivial⟩
  have hroot : Separated [.bare root] := ⟨nofun, trivial⟩
  refine ⟨plain_of_chars (by decide),
    ⟨.braced root :: (chars "/bin:".toList (List.all_eq_true.1 (by decide)) ++ [.bare path]),
      separated_chars_append _ hpath, rfl, by decide +kernel⟩,
    ⟨chars "-I=".toList (List.all_eq_true.1 (by decide)) ++ [.bare root],
      separated_chars_append _ hroot, rfl, by decide +kernel⟩, trivial⟩

theorem run_commands_load_tools :
    ∃ loaded m', Activation.load .noModules [tools] machine = .ok loaded m' ∧
      loaded.commands = ["export ROOT=/opt/gcc", "export PATH=${ROOT}/bin:$PATH",
        "export FLAGS=-I=$ROOT"] ∧
      Applicable (fun e x => (e.text? x).isSome) machine.env tools.assignments ∧
      exporter.runAll machine.env loaded.commands = m'.env := by
  have hcommands : (match Activation.load .noModules [tools] machine with
      | .ok loaded _ => loaded.commands
      | .error _ _ => []) = ["export ROOT=/opt/gcc", "export PATH=${ROOT}/bin:$PATH",
        "export FLAGS=-I=$ROOT"] := by decide +kernel
  cases h : Activation.load .noModules [tools] machine with
  | ok loaded m' =>
    rw [h] at hcommands
    have hnoBlank : ∀ a ∈ Activation.assignmentsOf [tools],
        (a.2.toList.all fun c => !isSeparator c) = true := by decide
    refine ⟨loaded, m', rfl, hcommands, applicable_tools, run_commands_load exporter ?_ ?_ ?_ h⟩
    · decide
    · exact applicable_tools
    · intro a ha c hc
      simpa using List.all_eq_true.1 (hnoBlank a ha) c hc
  | error e m' =>
    rw [h] at hcommands
    cases hcommands

/-! ### Scripts that do something else -/

/-- Whether environments can be activated and a variable then has another value than the shell gives
it. -/
def differs (es : List Environment) (m : Machine Unit) : Bool :=
  match Activation.load .noModules es m with
  | .ok loaded m' =>
    (Activation.assignmentsOf es).any fun a =>
      (exporter.runAll m.env loaded.commands).value? (Bytes.ofText a.1) ≠
        m'.env.value? (Bytes.ofText a.1)
  | .error _ _ => false

/-- An environment with a value of two words. -/
def twoWords : Environment := ⟨"words", [], [("CC", "gcc extra")]⟩

/-- An environment with a reference to a variable that is no text. -/
def copyOfRaw : Environment := ⟨"bytes", [], [("COPY", "$RAW")]⟩

/-- The name of a variable that is no text. -/
def raw : Identifier := ⟨"RAW".toList, by decide⟩

/-- **Not what the activation did.** Names are names of the shell and values plain texts that refer
to variables which are set, and still: of two words only the first is assigned, and bytes that are
no text are put in the place of a reference. -/
theorem not_run_commands_load :
    (Applicable (fun e x => (e.value? (Bytes.ofText x)).isSome) machine.env twoWords.assignments ∧
      (∀ a ∈ twoWords.assignments, isIdentifier a.1.toList = true) ∧ differs [twoWords] machine) ∧
    Applicable (fun e x => (e.value? (Bytes.ofText x)).isSome) machine.env copyOfRaw.assignments ∧
      (∀ a ∈ copyOfRaw.assignments, isIdentifier a.1.toList = true) ∧
      differs [copyOfRaw] machine := by
  have hwords : ∀ kind, Plain kind "gcc extra" := fun _ => plain_of_chars (by decide)
  have hraw : Plain (fun x => (machine.env.value? (Bytes.ofText x)).isSome) "$RAW" :=
    ⟨[.bare raw], ⟨nofun, trivial⟩, rfl, by decide +kernel⟩
  exact ⟨⟨⟨hwords _, trivial⟩, by decide +kernel, by decide +kernel⟩, ⟨hraw, trivial⟩,
    by decide +kernel, by decide +kernel⟩

end SiteRuntime.Script
