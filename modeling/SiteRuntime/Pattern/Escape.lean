import SiteRuntime.Pattern.Basic
import SiteRuntime.Unicode.CaseFold
import SiteRuntime.Unicode.Lookup

/-!
# Flags, blanks and escapes in patterns

What a piece of a written pattern means depends on the flags in force. With `verbose`, white space
and comments may stand between its parts: `skip` passes over them, and `takeWhileApart` collects
characters between which they stand. `readEscape` reads what follows a backslash.
-/

namespace SiteRuntime.Pattern

open Text (CodeSet)

/-- The flags in force. -/
structure Flags where
  /-- Characters match in either case. -/
  caseless : Bool
  /-- `^` and `$` also stand at line ends. -/
  multiLine : Bool
  /-- `.` also matches a line end. -/
  dotAll : Bool
  /-- A carriage return ends a line too. -/
  carriage : Bool
  /-- Classes and boundaries look at characters of every script, not only at ASCII. -/
  unicode : Bool
  /-- White space and comments in the pattern are passed over. -/
  verbose : Bool
  deriving DecidableEq, Repr

namespace Flags

/-- The flags at the start of a pattern. -/
def start : Flags := ⟨false, false, false, false, true, false⟩

/-- A flag by its letter, set or cleared; greed leaves no trace in a search. -/
def assign (f : Flags) (on : Bool) : Char → Option Flags
  | 'i' => some { f with caseless := on }
  | 'm' => some { f with multiLine := on }
  | 's' => some { f with dotAll := on }
  | 'R' => some { f with carriage := on }
  | 'u' => some { f with unicode := on }
  | 'x' => some { f with verbose := on }
  | 'U' => some f
  | _ => none

/-- What ends a line. -/
def lineEnding (f : Flags) : LineEnd := if f.carriage then .returnFeed else .feed

end Flags

/-! ### Blanks and comments -/

/-- A text after white space and comments; a comment runs from `#` to the end of the line. -/
def skipApart (inComment : Bool) : List Char → List Char
  | [] => []
  | c :: rest =>
    if inComment then skipApart (c ≠ '\n') rest
    else if Text.isBlank c then skipApart false rest
    else if c = '#' then skipApart true rest
    else c :: rest

/-- A text after what may stand between the parts of a pattern. -/
def skip (f : Flags) (s : List Char) : List Char := if f.verbose then skipApart false s else s

/-- The characters up to the first that fails a test, with the rest; what may stand between the
parts of a pattern is passed over. -/
def takeWhileApart (verbose : Bool) (keep : Char → Bool) :
    Bool → List Char → List Char × List Char
  | _, [] => ([], [])
  | inComment, c :: rest =>
    if inComment then takeWhileApart verbose keep (c ≠ '\n') rest
    else if verbose && Text.isBlank c then takeWhileApart verbose keep false rest
    else if verbose && c = '#' then takeWhileApart verbose keep true rest
    else if keep c then
      let (taken, rest) := takeWhileApart verbose keep false rest
      (c :: taken, rest)
    else ([], c :: rest)

/-! ### Sets of characters under the flags -/

/-- A set with the ASCII letters of the other case. -/
def asciiCaseClosed (s : CodeSet) : CodeSet :=
  let letters := fun (low high : Nat) => s.inter (.range low high)
  let moved := fun (distance : Int) (t : CodeSet) =>
    CodeSet.ofRanges (t.ranges.toList.map fun r =>
      (((r.1 : Int) + distance).toNat, ((r.2 : Int) + distance).toNat))
  (s.union (moved 32 (letters 0x41 0x5A))).union (moved (-32) (letters 0x61 0x7A))

/-- A set with the characters of the other case, if the flags ask for them. -/
def folded (f : Flags) (s : CodeSet) : CodeSet :=
  if !f.caseless then s
  else if f.unicode then Unicode.caseClosed s
  else asciiCaseClosed s

/-- A set or its complement. Without `unicode` a complement would hold single bytes of characters,
so there is none. -/
def negatedIf (f : Flags) (negated : Bool) (s : CodeSet) : Option CodeSet :=
  if !negated then some s else if f.unicode then some s.complement else none

/-- White space of ASCII. -/
def asciiBlank : CodeSet := .ofRanges [(9, 13), (32, 32)]

/-- Letters, digits and `_` of ASCII. -/
def asciiWord : CodeSet := .ofRanges [(48, 57), (65, 90), (95, 95), (97, 122)]

/-- The set of a letter that names one: digits, white space or word characters. -/
def letterSet? (f : Flags) (c : Char) : Option CodeSet :=
  let set? : Option CodeSet := match c.toLower with
    | 'd' => some (if f.unicode then Text.decimalDigits else .range 48 57)
    | 's' => some (if f.unicode then Unicode.whiteSpace else asciiBlank)
    | 'w' => some (if f.unicode then Text.wordCharacters else asciiWord)
    | _ => none
  set?.bind fun s => negatedIf f c.isUpper s

/-! ### Escapes -/

/-- What an escape stands for. -/
inductive Escape where
  | literal (c : Char)
  | set (s : CodeSet)
  | anchor (p : Anchor)

/-- Characters with a meaning of their own in patterns. -/
def isMeta (c : Char) : Bool := "\\.+*?()|[]\x7b\x7d^$#&-~".toList.contains c

/-- The code point that hexadecimal digits write, if it is a character. -/
def charOfHex? (digits : List Char) : Option Char :=
  let n := Text.hexValue digits
  if digits.isEmpty then none
  else if n < 0xD800 ∨ (0xDFFF < n ∧ n ≤ 0x10FFFF) then some (Char.ofNat n)
  else none

/-- Exactly `n` hexadecimal digits. -/
def takeHexDigits (f : Flags) : Nat → List Char → Option (List Char × List Char)
  | 0, s => some ([], s)
  | n + 1, s =>
    match skip f s with
    | c :: rest =>
      if (Text.hexDigit? c).isSome then
        (takeHexDigits f n rest).map fun (digits, rest) => (c :: digits, rest)
      else none
    | [] => none

/-- A hexadecimal escape after its letter: `n` digits, or any number of them in braces. Two digits
without braces name a byte where `unicode` is off, and then only one of ASCII. -/
def readHexEscape (f : Flags) (n : Nat) (s : List Char) : Option (Escape × List Char) :=
  match skip f s with
  | '{' :: rest =>
    match takeWhileApart f.verbose (fun c => (Text.hexDigit? c).isSome) false rest with
    | (digits, '}' :: rest) => (charOfHex? digits).map fun c => (.literal c, rest)
    | _ => none
  | s => do
    let (digits, rest) ← takeHexDigits f n s
    let c ← charOfHex? digits
    if n = 2 && !f.unicode && 0x7F < c.toNat then none else some (.literal c, rest)

/-- A text cut in two at the first place where another stands. -/
def cutAt? (mark : List Char) : List Char → Option (List Char × List Char)
  | [] => none
  | c :: rest =>
    match Text.dropStart? mark (c :: rest) with
    | some after => some ([], after)
    | none => (cutAt? mark rest).map fun (front, after) => (c :: front, after)

/-- The set that a property in braces stands for: a name, or a name and a value. -/
def propertySet? (s : List Char) : Option CodeSet :=
  match cutAt? ['!', '='] s with
  | some (name, value) => Unicode.valued? name value
  | none =>
    match cutAt? [':'] s with
    | some (name, value) => Unicode.valued? name value
    | none =>
      match cutAt? ['='] s with
      | some (name, value) => Unicode.valued? name value
      | none => Unicode.named? s

/-- A property after the letter of its escape. -/
def readProperty (f : Flags) (negated : Bool) (s : List Char) : Option (Escape × List Char) := do
  let (set, rest) ← match skip f s with
    | '{' :: rest =>
      match takeWhileApart f.verbose (· ≠ '}') false rest with
      | (name, '}' :: rest) => (propertySet? name).map fun set => (set, rest)
      | _ => none
    | '\\' :: _ => none
    | c :: rest => (Unicode.named? [c]).map fun set => (set, rest)
    | [] => none
  if !f.unicode then none
  else (negatedIf f negated (folded f set)).map fun set => (.set set, rest)

/-- A word boundary named in braces. -/
def namedBoundary? (name : List Char) : Option Boundary :=
  if name = "start".toList then some .wordStart
  else if name = "end".toList then some .wordEnd
  else if name = "start-half".toList then some .noWordBefore
  else if name = "end-half".toList then some .noWordAfter
  else none

/-- What follows `\b`: a name in braces, or nothing of its own. -/
def readBoundary (f : Flags) (s : List Char) : Option (Escape × List Char) :=
  let isName := fun c : Char => c.isAlpha || c = '-'
  let boundary := fun b => Escape.anchor (.boundary b (!f.unicode))
  match s with
  | '{' :: rest =>
    match skip f rest with
    | [] => none
    | c :: _ =>
      if isName c then
        match takeWhileApart f.verbose isName false rest with
        | (name, '}' :: rest) => (namedBoundary? name).map fun b => (boundary b, rest)
        | _ => none
      else some (boundary .change, s)
  | _ => some (boundary .change, s)

/-- An escape after its backslash. -/
def readEscape (f : Flags) : List Char → Option (Escape × List Char)
  | [] => none
  | 'x' :: rest => readHexEscape f 2 rest
  | 'u' :: rest => readHexEscape f 4 rest
  | 'U' :: rest => readHexEscape f 8 rest
  | 'p' :: rest => readProperty f false rest
  | 'P' :: rest => readProperty f true rest
  | 'a' :: rest => some (.literal '\x07', rest)
  | 'f' :: rest => some (.literal '\x0c', rest)
  | 't' :: rest => some (.literal '\t', rest)
  | 'n' :: rest => some (.literal '\n', rest)
  | 'r' :: rest => some (.literal '\r', rest)
  | 'v' :: rest => some (.literal '\x0b', rest)
  | 'A' :: rest => some (.anchor .textStart, rest)
  | 'z' :: rest => some (.anchor .textEnd, rest)
  | 'b' :: rest => readBoundary f rest
  | 'B' :: rest => some (.anchor (.boundary .noChange (!f.unicode)), rest)
  | '<' :: rest => some (.anchor (.boundary .wordStart (!f.unicode)), rest)
  | '>' :: rest => some (.anchor (.boundary .wordEnd (!f.unicode)), rest)
  | c :: rest =>
    if c ∈ ['d', 's', 'w', 'D', 'S', 'W'] then
      (letterSet? f c).map fun set => (.set set, rest)
    else if isMeta c || (c.toNat < 128 && !c.isAlphanum) then some (.literal c, rest)
    else none

end SiteRuntime.Pattern
