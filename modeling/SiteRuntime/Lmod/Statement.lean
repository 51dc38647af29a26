import SiteRuntime.ProcessEnv
import SiteRuntime.Text.Blank
import SiteRuntime.Text.Offset

/-!
# Shell statements printed by the module command

The module command prints what it wants done as shell statements: assignments, perhaps exported,
and `unset`. `Statement.readAll` cuts the output at `;` and line ends outside of quotes and reads
the pieces it understands; other statements are passed over. Two scanners follow the quotes: `spans`
over the whole output and `unquote` over the value of one assignment.

The pieces are cut out at offsets in bytes. An offset inside a character would cut nothing, so
`pieces?` need not have a result. It always has one, and it is what `cut` makes of the characters
(`pieces?_eq`).
-/

namespace SiteRuntime.Lmod

/-- A statement that changes variables. -/
inductive Statement where
  | set (name value : String)
  | unset (names : List String)
  deriving DecidableEq, Repr

/-- The quotes a scanner stands in. -/
inductive Quotes where
  | outside
  | single
  | double
  deriving DecidableEq, Repr

/-! ### Cutting the output into statements -/

/-- Where the cutting scanner stands. -/
structure Scan where
  /-- The quotes around it. -/
  quotes : Quotes
  /-- Whether a backslash stands before the next character. -/
  escaped : Bool
  deriving DecidableEq, Repr

namespace Scan

/-- The start of the output. -/
def start : Scan := ⟨.outside, false⟩

/-- Where the scanner stands after a character. -/
def next (s : Scan) (c : Char) : Scan :=
  if s.escaped then { s with escaped := false }
  else if c = '\\' then { s with escaped := s.quotes ≠ .single }
  else if c = '\'' then
    match s.quotes with
    | .outside => { s with quotes := .single }
    | .single => { s with quotes := .outside }
    | .double => s
  else if c = '"' then
    match s.quotes with
    | .outside => { s with quotes := .double }
    | .double => { s with quotes := .outside }
    | .single => s
  else s

/-- Whether a character ends a statement. -/
def separates (s : Scan) (c : Char) : Bool :=
  !s.escaped && s.quotes = .outside && (c = ';' || c = '\n')

end Scan

/-- A piece of the output, by the offsets between which it lies. -/
structure Span where
  start : Nat
  stop : Nat
  deriving DecidableEq, Repr

/-- What lies between the offsets, unless this would cut a character. -/
def Span.text? (span : Span) (output : List Char) : Option (List Char) :=
  Text.slice? span.start span.stop output

theorem Span.text?_append (before piece rest : List Char) :
    Span.text? ⟨Text.byteLength before, Text.byteLength (before ++ piece)⟩
      (before ++ piece ++ rest) = some piece :=
  Text.slice?_of_append rfl rfl rfl

/-- Where the pieces lie between separators, the last one without a separator after it. The scanner
stands at `offset`, in a piece that begins at `start`. -/
def spans : Scan → (start offset : Nat) → List Char → List Span
  | _, start, offset, [] => [⟨start, offset⟩]
  | s, start, offset, c :: rest =>
    -- a separator takes one byte
    if s.separates c then ⟨start, offset⟩ :: spans s (offset + 1) (offset + c.utf8Size) rest
    else spans (s.next c) start (offset + c.utf8Size) rest

/-- The pieces of the output, cut out by offsets. There is no result if this would cut a
character. -/
def pieces? (output : List Char) : Option (List (List Char)) :=
  (spans .start 0 0 output).mapM fun span => span.text? output

/-- The pieces of the output between separators, in characters. -/
def cut : Scan → List Char → List (List Char)
  | _, [] => [[]]
  | s, c :: rest =>
    if s.separates c then [] :: cut s rest
    else
      match cut (s.next c) rest with
      | [] => [[c]]
      | piece :: pieces => (c :: piece) :: pieces

/-- Pieces with a text in front of the first one. -/
def joinFirst (text : List Char) : List (List Char) → List (List Char)
  | [] => [text]
  | piece :: pieces => (text ++ piece) :: pieces

theorem joinFirst_joinFirst (a b : List Char) (pieces : List (List Char)) :
    joinFirst a (joinFirst b pieces) = joinFirst (a ++ b) pieces := by
  cases pieces with
  | nil => rfl
  | cons piece pieces => simp only [joinFirst, List.append_assoc]

theorem cut_cons (s : Scan) (c : Char) (rest : List Char) :
    cut s (c :: rest) =
      if s.separates c then [] :: cut s rest else joinFirst [c] (cut (s.next c) rest) := by
  rw [cut]
  split
  next => rfl
  next => cases cut (s.next c) rest <;> rfl

theorem cut_ne_nil (s : Scan) (text : List Char) : cut s text ≠ [] := by
  cases text with
  | nil => exact List.cons_ne_nil _ _
  | cons c rest =>
    rw [cut_cons]
    split
    · exact List.cons_ne_nil _ _
    · cases cut (s.next c) rest <;> exact List.cons_ne_nil _ _

theorem joinFirst_nil_cut (s : Scan) (text : List Char) :
    joinFirst [] (cut s text) = cut s text := by
  cases h : cut s text with
  | nil => exact absurd h (cut_ne_nil s text)
  | cons piece pieces => rfl

theorem Scan.eq_of_separates {s : Scan} {c : Char} (h : s.separates c = true) :
    c = ';' ∨ c = '\n' := by
  rw [separates, Bool.and_eq_true, Bool.or_eq_true, decide_eq_true_eq, decide_eq_true_eq] at h
  exact h.2

/-- **What lies between the offsets.** From any place on, where a piece has been begun before it,
the pieces that are cut out are those that the characters make. -/
theorem mapM_text?_spans (s : Scan) (before begun rest : List Char) :
    (spans s (Text.byteLength before) (Text.byteLength (before ++ begun)) rest).mapM
        (fun span => span.text? (before ++ begun ++ rest)) =
      some (joinFirst begun (cut s rest)) := by
  -- along what is left of the output; each character goes on with the piece or begins another
  induction rest generalizing s before begun with
  | nil =>
    rw [spans, List.mapM_cons, Span.text?_append, List.mapM_nil, cut, joinFirst, List.append_nil]
    rfl
  | cons c rest ih =>
    have hoffset : Text.byteLength (before ++ begun) + c.utf8Size =
        Text.byteLength (before ++ (begun ++ [c])) := by simp [Nat.add_assoc]
    have houtput : before ++ begun ++ c :: rest = before ++ (begun ++ [c]) ++ rest := by simp
    rw [spans, cut_cons]
    split
    next hc =>
      -- the next piece begins where the scanner goes on
      have hsize : c.utf8Size = 1 := by
        rcases Scan.eq_of_separates hc with rfl | rfl <;> rfl
      have hrest := ih s (before ++ (begun ++ [c])) []
      rw [List.append_nil, ← houtput, ← hoffset, hsize, joinFirst_nil_cut] at hrest
      rw [List.mapM_cons, Span.text?_append, hsize, hrest, joinFirst, List.append_nil]
      rfl
    next hc =>
      rw [houtput, hoffset, ih, joinFirst_joinFirst]

/-- **Cutting by offsets.** No character is cut, and the pieces are those that the characters
make. -/
theorem pieces?_eq (output : List Char) : pieces? output = some (cut .start output) := by
  have h := mapM_text?_spans .start [] [] output
  rwa [joinFirst_nil_cut] at h

theorem pieces?_isSome (output : List Char) : (pieces? output).isSome := by
  rw [pieces?_eq]
  rfl

/-- The pieces of the output that are not blank. -/
def statementTexts (output : List Char) : List (List Char) :=
  ((pieces? output).get (pieces?_isSome output)).filter fun piece => !Text.isBlankText piece

theorem statementTexts_eq (output : List Char) :
    statementTexts output = (cut .start output).filter fun piece => !Text.isBlankText piece := by
  simp only [statementTexts, pieces?_eq, Option.get_some]

/-! ### Reading one statement -/

/-- Whether a backslash between double quotes is dropped before a character. -/
def isEscapable (c : Char) : Bool := c = '"' || c = '\\' || c = '$' || c = '\x60'

/-- A word without its quotes and backslashes. -/
def unquote : Quotes → List Char → List Char
  | _, [] => []
  | .single, c :: rest =>
    if c = '\'' then unquote .outside rest else c :: unquote .single rest
  | .double, c :: rest =>
    if c = '"' then unquote .outside rest
    else if c = '\\' then
      match rest with
      | [] => ['\\']
      | n :: rest =>
        if isEscapable n then n :: unquote .double rest else '\\' :: n :: unquote .double rest
    else c :: unquote .double rest
  | .outside, c :: rest =>
    if c = '\'' then unquote .single rest
    else if c = '"' then unquote .double rest
    else if c = '\\' then
      match rest with
      | [] => []
      | n :: rest => n :: unquote .outside rest
    else c :: unquote .outside rest

theorem unquote_outside_single (rest : List Char) :
    unquote .outside ('\'' :: rest) = unquote .single rest := by
  rw [unquote.eq_def]
  rfl

theorem unquote_outside_double (rest : List Char) :
    unquote .outside ('"' :: rest) = unquote .double rest := by
  rw [unquote.eq_def]
  rfl

theorem unquote_outside_backslash (c : Char) (rest : List Char) :
    unquote .outside ('\\' :: c :: rest) = c :: unquote .outside rest := by
  rw [unquote.eq_def]
  rfl

theorem unquote_outside_of_ne {c : Char} (hsingle : c ≠ '\'') (hdouble : c ≠ '"')
    (hbackslash : c ≠ '\\') (rest : List Char) :
    unquote .outside (c :: rest) = c :: unquote .outside rest := by
  rw [unquote.eq_def]
  simp only [hsingle, hdouble, hbackslash, if_false]

theorem unquote_single_cons (c : Char) (rest : List Char) :
    unquote .single (c :: rest) =
      if c = '\'' then unquote .outside rest else c :: unquote .single rest := by
  rw [unquote.eq_def]

theorem unquote_double_double (rest : List Char) :
    unquote .double ('"' :: rest) = unquote .outside rest := by
  rw [unquote.eq_def]
  rfl

theorem unquote_double_backslash {c : Char} (h : isEscapable c = true) (rest : List Char) :
    unquote .double ('\\' :: c :: rest) = c :: unquote .double rest := by
  rw [unquote.eq_def]
  simp [h]

theorem unquote_double_kept {c : Char} (h : isEscapable c = false) (rest : List Char) :
    unquote .double ('\\' :: c :: rest) = '\\' :: c :: unquote .double rest := by
  rw [unquote.eq_def]
  simp [h]

theorem unquote_double_of_ne {c : Char} (hdouble : c ≠ '"') (hbackslash : c ≠ '\\')
    (rest : List Char) : unquote .double (c :: rest) = c :: unquote .double rest := by
  rw [unquote.eq_def]
  simp only [hdouble, hbackslash, if_false]

/-- Whether a character can begin a name. -/
def isNameStart (c : Char) : Bool := c.isAlpha || c = '_'

/-- Whether a character can stand in a name. -/
def isNameRest (c : Char) : Bool := c.isAlphanum || c = '_'

/-- Whether a text is a name of the shell. -/
def isIdentifier : List Char → Bool
  | [] => false
  | c :: rest => isNameStart c && rest.all isNameRest

namespace Statement

/-- The statement that a trimmed piece writes, if it is one that changes variables. -/
def read? (s : List Char) : Option Statement :=
  match Text.dropStart? "unset ".toList s with
  | some rest =>
    match (Text.words rest).map String.ofList with
    | [] => none
    | names => some (.unset names)
  | none =>
    let assignment := (Text.dropStart? "export ".toList s).getD s
    match Text.splitOnce? '=' assignment with
    | some (name, value) =>
      if isIdentifier name then
        some (.set (String.ofList name) (String.ofList (unquote .outside value)))
      else none
    | none => none

/-- The statements that an output writes. -/
def readAll (output : List Char) : List Statement :=
  (statementTexts output).filterMap fun piece => read? (Text.trim piece)

/-- The writes that a statement asks for; what the platform would refuse is left out. -/
def writes : Statement → List Write
  | .set name value =>
    if isVariableName name && isVariableValue value then
      [.set (Bytes.ofText name) (Bytes.ofText value)]
    else []
  | .unset names => (names.filter isVariableName).map fun n => .unset (Bytes.ofText n)

end Statement

end SiteRuntime.Lmod
