import SiteRuntime.Shell.Arithmetic
import SiteRuntime.Shell.Fields
import SiteRuntime.Shell.State

/-!
# Expansion

What the words of a command come to when it is run: parameters, what other commands print, and the
values of arithmetic expressions take the place of their signs. How the commands of a substitution
are run is a parameter here.
-/

namespace SiteRuntime.Shell

/-- What a substitution yields: what its commands print. -/
abbrev Capture := Command → M Chars

/-! ### Parameters -/

/-- The separators of fields. -/
def State.separators (s : State) : Chars := (s.valueOf? "IFS").getD [' ', '\t', '\n']

/-- What stands between parameters that are joined. -/
def State.between (s : State) : Chars := s.separators.take 1

/-- The letters of options. -/
def optionLetters : List Char :=
  ['e', 'f', 'I', 'i', 'm', 'n', 's', 'x', 'v', 'V', 'E', 'C', 'a', 'b', 'u']

/-- A number as characters. -/
def numberText (n : Nat) : Chars := (toString n).toList

/-- The value of a parameter; all of them are joined. -/
def State.parameter? (s : State) (name : Chars) : Option Chars :=
  match name with
  | ['#'] => some (numberText s.parameters.length)
  | ['?'] => some (numberText s.status)
  | ['$'] => some (numberText s.script)
  | ['!'] => s.lastBackground.map numberText
  | ['-'] => some (optionLetters.reverse.filter s.options.contains)
  | ['@'] => some (s.between.intercalate s.parameters)
  | ['*'] => some (s.between.intercalate s.parameters)
  | c :: _ =>
    if c.isDigit then
      match (String.ofList name).toNat?.getD 0 with
      | 0 => some s.name
      | n + 1 => s.parameters[n]?
    else s.value? name
  | [] => none

/-- The cells of the value of a parameter, if it has one. -/
def State.parameterCells? (s : State) (name : Chars) (quoted : Bool) : Option (List Cell) :=
  if name = ['@'] || (name = ['*'] && !quoted) then some (Cell.ofValues quoted s.parameters)
  else (s.parameter? name).map (Cell.ofValue quoted)

/-- The value of a parameter of which there has to be one. -/
def required (name : Chars) : M Chars := do
  let s ← get
  match s.parameter? name with
  | some value => return value
  | none =>
    if s.isOn 'u' then fail s!"{Chars.toText name}: parameter not set"
    return []

/-! ### Home directories -/

/-- Where a tilde names the home directory. -/
structure Homes where
  /-- At the front of what is left of a word. -/
  front : Bool
  /-- After each colon. -/
  colons : Bool
  deriving DecidableEq, Repr

namespace Homes

/-- Nowhere. -/
def nowhere : Homes := ⟨false, false⟩

/-- At the front of a word. -/
def atFront : Homes := ⟨true, false⟩

/-- At the front of a word and after each colon. -/
def inAssignment : Homes := ⟨true, true⟩

/-- What holds after a part of the word. -/
def after (h : Homes) : Piece → Homes
  | .char ':' false => { h with front := h.colons }
  | _ => { h with front := false }

/-- Whether what follows a tilde leaves it the name of the home directory. -/
def endsName (h : Homes) : Word → Bool
  | [] => true
  | .char '/' false :: _ => true
  | .char ':' false :: _ => h.colons
  | _ => false

end Homes

/-! ### Substitutions -/

/-- What a substitution yields without the line ends at its end. -/
def dropLineEnds (s : Chars) : Chars := (s.reverse.dropWhile (· = '\n')).reverse

/-- Does what an arithmetic expression says; the result is its value. -/
def calculate (expression : Chars) : M Chars := do
  let s ← get
  match Arithmetic.evaluate s.value? expression with
  | .ok (n, writes) =>
    for (name, value) in writes do assign name (toString value).toList
    return (toString n).toList
  | .error message => fail message

/-! ### Words -/

/-- Whether a piece stands in quotes. -/
def Piece.standsInQuotes : Piece → Bool
  | .char _ quoted => quoted
  | .quotes => false
  | .param _ _ quoted => quoted
  | .output _ quoted => quoted
  | .arithmetic _ quoted => quoted

/-- Whether the quotes before a word surround nothing but all parameters, which may be none. -/
def quotesAllOnly : Word → Bool
  | .param ['@'] .value true :: rest => !(rest.head?.any Piece.standsInQuotes)
  | _ => false

mutual

/-- The cells of a word. With `inner`, it stands for a parameter, and its own characters separate
fields too. -/
def cellsOf (capture : Capture) (inner : Bool) (homes : Homes) : Word → M (List Cell)
  | [] => return []
  | .quotes :: rest => do
    let more ← cellsOf capture inner (homes.after .quotes) rest
    return if quotesAllOnly rest then more else .mark :: more
  | .char '~' false :: rest => do
    let s ← get
    let home? := if homes.front && homes.endsName rest then s.valueOf? "HOME" else none
    let first := match home? with
      | some home => Cell.ofValue true home
      | none => [.char '~' false inner]
    return first ++ (← cellsOf capture inner (homes.after .quotes) rest)
  | p :: rest => do
    let first ← cellsOfPiece capture inner homes p
    return first ++ (← cellsOf capture inner (homes.after p) rest)

/-- The cells of a part of a word. -/
def cellsOfPiece (capture : Capture) (inner : Bool) (homes : Homes) : Piece → M (List Cell)
  | .char c quoted => return [.char c quoted (inner && !quoted)]
  | .quotes => return [.mark]
  | .param name use quoted => cellsOfUse capture name quoted homes use
  | .output body quoted => return Cell.ofValue quoted (dropLineEnds (← capture body))
  | .arithmetic expression quoted => do
    let cells ← cellsOf capture false .nowhere expression
    return Cell.ofValue quoted (← calculate (fieldText (unsplit [' '] cells)))

/-- The cells of a parameter. -/
def cellsOfUse (capture : Capture) (name : Chars) (quoted : Bool) (homes : Homes) :
    Use → M (List Cell)
  | .value => do
    match (← get).parameterCells? name quoted with
    | some cells => return cells
    | none => return Cell.ofValue quoted (← required name)
  | .length => return Cell.ofValue quoted (numberText (← required name).length)
  | .trim atEnd longest pattern => do
    let value ← required name
    let cells ← cellsOf capture false .atFront pattern
    let ws := Wildcard.ofCells (unsplit (← get).between cells)
    return Cell.ofValue quoted (Wildcard.trim atEnd longest ws value)
  | .fallback kind null word => do
    let s ← get
    let missing := match s.parameter? name with
      | some value => null && value.isEmpty
      | none => true
    let cells := cellsOf capture (!quoted) { homes with front := true } word
    match kind with
    | .use =>
      if missing then cells else return (s.parameterCells? name quoted).getD []
    | .instead => if missing then return [] else cells
    | .assign =>
      if missing then
        let value := fieldText (unsplit s.between (← cells))
        if !isName name then fail s!"{Chars.toText name}: bad variable name"
        assign name value
        return Cell.ofValue quoted value
      else return (s.parameterCells? name quoted).getD []
    | .fail =>
      if missing then
        let said := fieldText (unsplit s.between (← cells))
        let message :=
          if word.isEmpty then "parameter not set" ++ (if null then " or null" else "")
          else Chars.toText said
        fail s!"{Chars.toText name}: {message}"
      else return (s.parameterCells? name quoted).getD []
  | .unknown => fail "Bad substitution"

end

/-- The fields of a word that stand for themselves or for files. -/
def fieldsOf (capture : Capture) (w : Word) : M (List Chars) := do
  let cells ← cellsOf capture false .atFront w
  let s ← get
  let fields := splitFields s.separators cells
  if s.isOn 'f' then return fields.map fieldText
  else return fields.flatMap (matchFiles s.world.files s.cwd)

/-- The fields of words. -/
def allFieldsOf (capture : Capture) : List Word → M (List Chars)
  | [] => return []
  | w :: rest => do
    let fields ← fieldsOf capture w
    return fields ++ (← allFieldsOf capture rest)

/-- What a word comes to as a pattern. -/
def patternOf (capture : Capture) (homes : Homes) (w : Word) : M (List PatternCell) := do
  let cells ← cellsOf capture false homes w
  return unsplit (← get).between cells

/-- What a word comes to as one text. -/
def textOf (capture : Capture) (homes : Homes) (w : Word) : M Chars := do
  return fieldText (← patternOf capture homes w)

end SiteRuntime.Shell
