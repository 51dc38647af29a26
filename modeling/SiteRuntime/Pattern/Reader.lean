import SiteRuntime.Pattern.Bracket
import SiteRuntime.Pattern.Size

/-!
# Reading patterns

The written form of a pattern: literals, `.`, classes in brackets, escapes, positions, groups, flags
and repetitions. Whatever is not well formed is refused as a whole: an open group or class, a
repetition of nothing, an upside-down range, look-around and back-references; and so is a pattern
that is nested too deeply or would become too large.

`Pattern.read?` runs once over the text; every step consumes a character, which bounds the
recursion.
-/

namespace SiteRuntime.Pattern

open Text (CodeSet)

/-! ### Repetitions -/

/-- A number with white space around it. -/
def readCount (f : Flags) (s : List Char) : Option (Nat × List Char) :=
  let (digits, rest) := takeWhileApart f.verbose Char.isDigit false (s.dropWhile Text.isBlank)
  let n := digits.foldl (fun n c => 10 * n + (c.toNat - '0'.toNat)) 0
  if digits.isEmpty || twoTo 32 ≤ n then none else some (n, rest.dropWhile Text.isBlank)

/-- The bounds of a counted repetition after its opening brace. -/
def readBounds (f : Flags) (s : List Char) : Option ((Nat × Option Nat) × List Char) := do
  let (least, rest) ← readCount f (skip f s)
  match rest with
  | '}' :: rest => some ((least, some least), rest)
  | ',' :: rest =>
    match skip f rest with
    | '}' :: rest => some ((least, none), rest)
    | rest =>
      let (most, rest) ← readCount f rest
      match rest with
      | '}' :: rest => if least ≤ most then some ((least, some most), rest) else none
      | _ => none
  | _ => none

/-- The text after the mark of a reluctant repetition. -/
def dropReluctant : List Char → List Char
  | '?' :: rest => rest
  | s => s

/-! ### Groups -/

/-- How a group begins. -/
inductive GroupHead where
  /-- Flags for the rest of the enclosing group. -/
  | setFlags (f : Flags)
  /-- A group of its own that leaves no trace. -/
  | plain (f : Flags)
  /-- A group whose place is of interest, perhaps named. -/
  | capture (name : Option (List Char))

/-- Flags up to their colon or closing parenthesis. -/
def readFlags : Flags → List Char → Bool → Bool → List Char → Option (GroupHead × List Char)
  | _, _, _, _, [] => none
  | f, seen, cleared, dangling, c :: rest =>
    if c = ')' then
      if dangling || (seen.isEmpty && !cleared) then none else some (.setFlags f, rest)
    else if c = ':' then if dangling then none else some (.plain f, rest)
    else if c = '-' then if cleared then none else readFlags f seen true true rest
    else if seen.contains c then none
    else
      match f.assign (!cleared) c with
      | some f => readFlags f (c :: seen) cleared false rest
      | none => none

/-- Letters of any script. -/
def nameLetters : CodeSet := Unicode.alphabeticIn17

/-- Letters and numbers of any script. -/
def nameCharacters : CodeSet := nameLetters.union (Unicode.charsOf Unicode.numbers)

/-- Whether a character may begin the name of a group. -/
def beginsName (c : Char) : Bool :=
  c = '_' || (if c.toNat < 128 then c.isAlpha else nameLetters.contains c)

/-- Whether a character may stand in the name of a group. -/
def continuesName (c : Char) : Bool :=
  c ∈ ['_', '.', '[', ']'] ||
    (if c.toNat < 128 then c.isAlphanum else nameCharacters.contains c)

/-- The name of a group up to its closing angle bracket. -/
def readGroupName (s : List Char) : Option (List Char × List Char) :=
  match s.dropWhile (· ≠ '>') with
  | _ :: after =>
    match s.takeWhile (· ≠ '>') with
    | [] => none
    | c :: name => if beginsName c && name.all continuesName then some (c :: name, after) else none
  | [] => none

/-- The beginning of a group after its parenthesis. -/
def readGroupHead (f : Flags) (s : List Char) : Option (GroupHead × List Char) :=
  match skip f s with
  | '?' :: 'P' :: '<' :: rest => (readGroupName rest).map fun r => (.capture (some r.1), r.2)
  | '?' :: '<' :: '=' :: _ => none
  | '?' :: '<' :: '!' :: _ => none
  | '?' :: '<' :: rest => (readGroupName rest).map fun r => (.capture (some r.1), r.2)
  | '?' :: rest => readFlags f [] false false rest
  | s => some (.capture none, s)

/-! ### Whole patterns -/

/-- A part of a pattern. -/
structure Part where
  pattern : Pattern
  /-- How deep it is nested: a class, a repetition, a group, a choice and a row each add one. -/
  depth : Nat
  /-- Whether it can be repeated; flags cannot. -/
  repeatable : Bool

namespace Part

/-- Parts one after another, the last one first. -/
def row : List Part → Part
  | [] => ⟨.empty, 0, true⟩
  | [p] => p
  | parts =>
    ⟨sequence (parts.reverse.map Part.pattern), (parts.map Part.depth).foldl max 0 + 1, true⟩

/-- One of several parts, the last one first. -/
def choice : List Part → Part
  | [] => ⟨.empty, 0, true⟩
  | [p] => p
  | parts =>
    ⟨alternatives (parts.reverse.map Part.pattern), (parts.map Part.depth).foldl max 0 + 1, true⟩

end Part

/-- How far a group has been read. -/
structure Progress where
  /-- The flags in force. -/
  flags : Flags
  /-- The names of groups so far. -/
  names : List (List Char)
  /-- The finished alternatives, the last one first. -/
  finished : List Part
  /-- The parts of the alternative under way, the last one first. -/
  parts : List Part

namespace Progress

/-- The start of a group. -/
def start (flags : Flags) (names : List (List Char)) : Progress := ⟨flags, names, [], []⟩

/-- What has been read so far. -/
def whole (st : Progress) : Part := .choice (.row st.parts :: st.finished)

/-- With one more part. -/
def push (st : Progress) (p : Pattern) (depth : Nat) : Progress :=
  { st with parts := ⟨p, depth, true⟩ :: st.parts }

/-- With the flags changed, which is a part of its own that matches the empty text. -/
def setFlags (st : Progress) (f : Flags) : Progress :=
  { st with flags := f, parts := ⟨.empty, 0, false⟩ :: st.parts }

/-- With the last part repeated. -/
def repeatLast (st : Progress) (least : Nat) (most : Option Nat) : Option Progress :=
  match st.parts with
  | [] => none
  | p :: rest =>
    if p.repeatable then
      some { st with parts := ⟨p.pattern.times least most, p.depth + 1, true⟩ :: rest }
    else none

/-- With the next alternative begun. -/
def nextAlternative (st : Progress) : Progress :=
  { st with finished := .row st.parts :: st.finished, parts := [] }

end Progress

/-- A character as it stands. -/
def ofChar (f : Flags) (c : Char) : Pattern :=
  if f.caseless && (f.unicode || c.toNat < 128) then ofSet (folded f (.single c)) else .literal [c]

/-- Any character for `.`; without `unicode` that would be a byte, and there is none. -/
def dot? (f : Flags) : Option Pattern :=
  if !f.unicode then none
  else if f.dotAll then some (.one .all)
  else
    let ends := if f.carriage then CodeSet.ofRanges [(10, 10), (13, 13)] else .range 10 10
    some (.one ends.complement)

/-- What an escape is in a pattern. -/
def ofEscape (f : Flags) : Escape → Pattern
  | .literal c => ofChar f c
  | .set s => ofSet s
  | .anchor p => .anchor p

/-- Reads up to the end of the enclosing group; groups may be nested `levels` deep. -/
def readGroup (levels : Nat) : Nat → Progress → List Char → Option (Progress × List Char)
  | 0, _, _ => none
  | fuel + 1, st, s =>
    let f := st.flags
    match skip f s with
    | [] => some (st, [])
    | ')' :: rest => some (st, ')' :: rest)
    | '|' :: rest => readGroup levels fuel st.nextAlternative rest
    | '*' :: rest => do readGroup levels fuel (← st.repeatLast 0 none) (dropReluctant rest)
    | '+' :: rest => do readGroup levels fuel (← st.repeatLast 1 none) (dropReluctant rest)
    | '?' :: rest => do readGroup levels fuel (← st.repeatLast 0 (some 1)) (dropReluctant rest)
    | '{' :: rest => do
      let (bounds, rest) ← readBounds f rest
      readGroup levels fuel (← st.repeatLast bounds.1 bounds.2) (dropReluctant (skip f rest))
    | '(' :: rest =>
      match levels with
      | 0 => none
      | levels + 1 => do
        let inside := fun (flags : Flags) (names : List (List Char)) (rest : List Char) => do
          let (inner, rest) ← readGroup levels fuel (.start flags names) rest
          match rest with
          | ')' :: rest => some (inner, rest)
          | _ => none
        let (head, rest) ← readGroupHead f rest
        match head with
        | .setFlags f => readGroup (levels + 1) fuel (st.setFlags f) rest
        | .plain f =>
          let (inner, rest) ← inside f st.names rest
          let st := { st with names := inner.names }
          readGroup (levels + 1) fuel (st.push inner.whole.pattern (inner.whole.depth + 1)) rest
        | .capture name =>
          let names ← match name with
            | some n => if st.names.contains n then none else some (n :: st.names)
            | none => some st.names
          let (inner, rest) ← inside f names rest
          let st := { st with names := inner.names }
          let p := Pattern.group inner.whole.pattern
          readGroup (levels + 1) fuel (st.push p (inner.whole.depth + 1)) rest
    | '[' :: rest => do
      let (c, rest) ← readClass f rest
      readGroup levels fuel (st.push (ofSet c.set) c.depth) rest
    | '.' :: rest => do readGroup levels fuel (st.push (← dot? f) 0) rest
    | '^' :: rest =>
      let p := if f.multiLine then .lineStart f.lineEnding else .textStart
      readGroup levels fuel (st.push (.anchor p) 0) rest
    | '$' :: rest =>
      let p := if f.multiLine then .lineEnd f.lineEnding else .textEnd
      readGroup levels fuel (st.push (.anchor p) 0) rest
    | '\\' :: rest => do
      let (e, rest) ← readEscape f rest
      readGroup levels fuel (st.push (ofEscape f e) 0) rest
    | c :: rest => readGroup levels fuel (st.push (ofChar f c) 0) rest

/-- The pattern that a text writes, if it is well formed and neither too deep nor too large. -/
def read? (s : List Char) : Option Pattern := do
  let (st, rest) ← readGroup nestingLimit (s.length + 1) (.start .start []) s
  let whole := st.whole
  if rest.isEmpty && whole.depth ≤ nestingLimit && fits whole.pattern then some whole.pattern
  else none

end SiteRuntime.Pattern
