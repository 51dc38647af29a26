import SiteRuntime.Shell.Syntax

/-!
# Wildcards

A pattern is a row of characters, of which those outside of quotes may be wildcards: `*` for any
text, `?` for any character, brackets for one of several, and a backslash before a character that
stands for itself. `Wildcard.ofCells` reads them, `Wildcard.accepts` compares a text with them.
-/

namespace SiteRuntime.Shell

/-- A character of a pattern, and whether it stands for itself. -/
abbrev PatternCell := Char × Bool

/-- What a bracket lists. -/
inductive Listed where
  | range (low high : Char)
  /-- A named class. -/
  | named (name : Chars)
  deriving DecidableEq, Repr

/-- A part of a pattern. -/
inductive Wildcard where
  | one (c : Char)
  | any
  | many
  | oneOf (inverted : Bool) (items : List Listed)
  deriving DecidableEq, Repr

namespace Listed

/-- Punctuation of ASCII. -/
def isPunctuation (c : Char) : Bool := '!' ≤ c && c ≤ '~' && !c.isAlphanum

/-- Whether a character belongs to a named class. -/
def isNamed (name : Chars) (c : Char) : Bool :=
  match String.ofList name with
  | "alnum" => c.isAlphanum
  | "alpha" => c.isAlpha
  | "blank" => c = ' ' || c = '\t'
  | "cntrl" => c.toNat < 32 || c.toNat = 127
  | "digit" => c.isDigit
  | "graph" => '!' ≤ c && c ≤ '~'
  | "lower" => c.isLower
  | "print" => ' ' ≤ c && c ≤ '~'
  | "punct" => isPunctuation c
  | "space" => c = ' ' || ('\t' ≤ c && c ≤ '\r')
  | "upper" => c.isUpper
  | "xdigit" => c.isDigit || ('a' ≤ c && c ≤ 'f') || ('A' ≤ c && c ≤ 'F')
  | _ => false

/-- The names of the classes. -/
def names : List String :=
  ["alnum", "alpha", "blank", "cntrl", "digit", "graph", "lower", "print", "punct", "space",
    "upper", "xdigit"]

/-- Whether a character is listed. -/
def includes (c : Char) : Listed → Bool
  | .range low high => low ≤ c && c ≤ high
  | .named name => isNamed name c

end Listed

namespace Wildcard

/-- A named class after its bracket, with what follows it. -/
def readNamed? : List PatternCell → Option (Listed × List PatternCell)
  | (':', false) :: rest =>
    let name := (rest.takeWhile fun p => p.1.isAlpha).map (·.1)
    match rest.drop name.length with
    | (':', false) :: (']', false) :: rest =>
      if Listed.names.contains (String.ofList name) then some (.named name, rest) else none
    | _ => none
  | _ => none

/-- What a bracket lists up to its end, if it ends. -/
def readListed : Nat → Bool → List PatternCell → Option (List Listed × List PatternCell)
  | 0, _, _ => none
  | _ + 1, _, [] => none
  | fuel + 1, first, (c, quoted) :: rest =>
    if c = ']' && !quoted && !first then some ([], rest)
    else
      let (item, rest) : Listed × List PatternCell :=
        match if c = '[' && !quoted then readNamed? rest else none with
        | some r => r
        | none =>
          match rest with
          | ('-', false) :: (']', false) :: _ => (.range c c, rest)
          | ('-', false) :: (d, _) :: rest => (.range c d, rest)
          | rest => (.range c c, rest)
      (readListed fuel false rest).map fun (items, rest) => (item :: items, rest)

/-- A bracket after its first character, if it ends. -/
def readBracket? (s : List PatternCell) : Option (Wildcard × List PatternCell) :=
  let (inverted, s) := match s with
    | ('!', false) :: rest => (true, rest)
    | s => (false, s)
  (readListed (s.length + 1) true s).map fun (items, rest) => (.oneOf inverted items, rest)

/-- The parts of a pattern; `fuel` bounds them. -/
def readCells : Nat → List PatternCell → List Wildcard
  | 0, _ => []
  | _ + 1, [] => []
  | fuel + 1, (c, quoted) :: rest =>
    if quoted then .one c :: readCells fuel rest
    else if c = '*' then .many :: readCells fuel rest
    else if c = '?' then .any :: readCells fuel rest
    else if c = '\\' then
      match rest with
      | (d, _) :: rest => .one d :: readCells fuel rest
      | [] => [.one c]
    else if c = '[' then
      match readBracket? rest with
      | some (w, rest) => w :: readCells fuel rest
      | none => .one c :: readCells fuel rest
    else .one c :: readCells fuel rest

/-- The parts of a pattern. -/
def ofCells (s : List PatternCell) : List Wildcard := readCells s.length s

/-- Whether a part matches a character. -/
def matchesChar (c : Char) : Wildcard → Bool
  | .one d => c = d
  | .any => true
  | .many => false
  | .oneOf inverted items => items.any (·.includes c) != inverted

/-- What is left of a text after each of its beginnings. -/
def tails : Chars → List Chars
  | [] => [[]]
  | c :: rest => (c :: rest) :: tails rest

/-- Whether a pattern matches a text. -/
def accepts : List Wildcard → Chars → Bool
  | [], s => s.isEmpty
  | .many :: ws, s => (tails s).any (accepts ws)
  | _ :: _, [] => false
  | w :: ws, c :: s => w.matchesChar c && accepts ws s

/-- Whether all parts of a pattern stand for themselves. -/
def isPlain : List Wildcard → Bool
  | [] => true
  | .one _ :: ws => isPlain ws
  | _ :: _ => false

/-! ### Cutting off -/

/-- The beginnings of a text, shortest first, each with what follows it. -/
def splits : Chars → List (Chars × Chars)
  | [] => [([], [])]
  | c :: rest => ([], c :: rest) :: (splits rest).map fun p => (c :: p.1, p.2)

/-- A text without its shortest or longest beginning or end that a pattern matches. -/
def trim (atEnd longest : Bool) (ws : List Wildcard) (s : Chars) : Chars :=
  if atEnd then
    let cuts := if longest then splits s else (splits s).reverse
    ((cuts.find? fun p => accepts ws p.2).map (·.1)).getD s
  else
    let cuts := if longest then (splits s).reverse else splits s
    ((cuts.find? fun p => accepts ws p.1).map (·.2)).getD s

end Wildcard

end SiteRuntime.Shell
