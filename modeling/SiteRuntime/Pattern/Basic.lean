import SiteRuntime.Power
import SiteRuntime.Text.WordCharacter

/-!
# Patterns of host names

A system is recognised by patterns on the name of the host. A pattern is a regular expression over
characters, and the only question asked of it is whether it occurs somewhere in a text, so greed
and the places of groups leave no trace here.

Patterns are built by `ofSet`, `sequence`, `alternatives` and `times`, which keep them small:
neighbouring literals are one literal, a choice between single characters is a set, and what can
only match the empty text is not repeated. How large a pattern may become is counted on this form.
-/

namespace SiteRuntime

open Text (CodeSet)

/-- A condition on the characters around a position, by whether they are word characters. -/
inductive Boundary where
  | change
  | noChange
  | wordStart
  | wordEnd
  | noWordBefore
  | noWordAfter
  deriving DecidableEq, Repr

/-- Whether the condition holds between two characters, told whether each is a word character. -/
def Boundary.holds : Boundary → Bool → Bool → Bool
  | .change, before, after => before != after
  | .noChange, before, after => before == after
  | .wordStart, before, after => !before && after
  | .wordEnd, before, after => before && !after
  | .noWordBefore, before, _ => !before
  | .noWordAfter, _, after => !after

/-- What ends a line. -/
inductive LineEnd where
  /-- A line feed. -/
  | feed
  /-- A line feed, a carriage return, or both in a row. -/
  | returnFeed
  deriving DecidableEq, Repr

/-- A condition on a position in a text. -/
inductive Anchor where
  | textStart
  | textEnd
  | lineStart (e : LineEnd)
  | lineEnd (e : LineEnd)
  /-- A word boundary; with `ascii` only letters, digits and `_` of ASCII are word characters. -/
  | boundary (b : Boundary) (ascii : Bool)
  deriving DecidableEq, Repr

/-- Whether the condition holds between two characters; at an end of the text there is none. -/
def Anchor.holds (before after : Option Char) : Anchor → Bool
  | .textStart => before.isNone
  | .textEnd => after.isNone
  | .lineStart .feed => before.isNone || before = some '\n'
  | .lineEnd .feed => after.isNone || after = some '\n'
  | .lineStart .returnFeed =>
    before.isNone || before = some '\n' || (before = some '\r' && after ≠ some '\n')
  | .lineEnd .returnFeed =>
    after.isNone || after = some '\r' || (after = some '\n' && before ≠ some '\r')
  | .boundary b ascii =>
    let isWord := if ascii then Text.isAsciiWord else Text.isWord
    b.holds (before.any isWord) (after.any isWord)

/-- A regular expression. -/
inductive Pattern where
  | empty
  | literal (text : List Char)
  /-- One character of a set. -/
  | one (s : CodeSet)
  | anchor (p : Anchor)
  /-- At least `least` and at most `most` times in a row. -/
  | repeated (p : Pattern) (least : Nat) (most : Option Nat)
  /-- A part whose place in the text is of interest. -/
  | group (p : Pattern)
  /-- One after another. -/
  | concat (ps : List Pattern)
  /-- One of several. -/
  | choice (ps : List Pattern)
  deriving Inhabited

namespace Pattern

/-- The number of bytes that write a code point. -/
def bytesOf (n : Nat) : Nat :=
  if n < 0x80 then 1 else if n < 0x800 then 2 else if n < 0x10000 then 3 else 4

/-- The number of bytes that write a text. -/
def textBytes (s : List Char) : Nat := s.foldl (fun n c => n + bytesOf c.toNat) 0

/-! ### What a pattern is known to match -/

mutual

/-- The length in bytes of the shortest text that a pattern can match, as far as it is known. -/
def shortest? : Pattern → Option Nat
  | .empty => some 0
  | .literal s => some (textBytes s)
  | .one s => s.ranges[0]?.map fun r => bytesOf r.1
  | .anchor _ => some 0
  | .repeated p least _ => (shortest? p).map (least * ·)
  | .group p => shortest? p
  | .concat ps => shortestOfAll? ps
  | .choice ps => shortestOfAny? ps

/-- The length of the shortest text that patterns one after another can match. -/
def shortestOfAll? : List Pattern → Option Nat
  | [] => some 0
  | p :: ps => do return (← shortest? p) + (← shortestOfAll? ps)

/-- The length of the shortest text that one of several patterns can match. -/
def shortestOfAny? : List Pattern → Option Nat
  | [] => none
  | [p] => shortest? p
  | p :: q :: ps => do return min (← shortest? p) (← shortestOfAny? (q :: ps))

end

mutual

/-- Whether a pattern matches nothing but the empty text. -/
def isVoid : Pattern → Bool
  | .empty => true
  | .literal s => s.isEmpty
  | .one _ => false
  | .anchor _ => true
  | .repeated p _ most => most.isSome && isVoid p
  | .group p => isVoid p
  | .concat ps => areVoid ps
  | .choice ps => areVoid ps

/-- Whether no pattern of a list matches more than the empty text. -/
def areVoid : List Pattern → Bool
  | [] => true
  | p :: ps => isVoid p && areVoid ps

end

mutual

/-- Whether a pattern asks for the start of the text before it reads anything. -/
def beginsAtStart : Pattern → Bool
  | .anchor p => p = .textStart
  | .repeated p least _ => 0 < least && beginsAtStart p
  | .group p => beginsAtStart p
  | .concat ps => someBeginsAtStart ps
  | .choice ps => allBeginAtStart ps
  | _ => false

/-- Whether a pattern in a row asks for the start of the text before anything is read. -/
def someBeginsAtStart : List Pattern → Bool
  | [] => false
  | p :: ps => beginsAtStart p || (isVoid p && someBeginsAtStart ps)

/-- Whether each of several patterns asks for the start of the text first. -/
def allBeginAtStart : List Pattern → Bool
  | [] => true
  | p :: ps => beginsAtStart p && allBeginAtStart ps

end

mutual

/-- Whether a pattern asks for the end of the text after it has read everything. -/
def endsAtStop : Pattern → Bool
  | .anchor p => p = .textEnd
  | .repeated p least _ => 0 < least && endsAtStop p
  | .group p => endsAtStop p
  | .concat ps => someEndsAtStop ps
  | .choice ps => allEndAtStop ps
  | _ => false

/-- Whether a pattern in a row asks for the end of the text after everything has been read. -/
def someEndsAtStop : List Pattern → Bool
  | [] => false
  | p :: ps => someEndsAtStop ps || (areVoid ps && endsAtStop p)

/-- Whether each of several patterns asks for the end of the text last. -/
def allEndAtStop : List Pattern → Bool
  | [] => true
  | p :: ps => endsAtStop p && allEndAtStop ps

end

mutual

/-- Whether two patterns are written alike; two groups never are. -/
def same : Pattern → Pattern → Bool
  | .empty, .empty => true
  | .literal s, .literal t => s = t
  | .one s, .one t => s = t
  | .anchor p, .anchor q => p = q
  | .repeated p least most, .repeated q least' most' =>
    least = least' && most = most' && same p q
  | .concat ps, .concat qs => allSame ps qs
  | .choice ps, .choice qs => allSame ps qs
  | _, _ => false

/-- Whether the patterns of two lists are written alike. -/
def allSame : List Pattern → List Pattern → Bool
  | [], [] => true
  | p :: ps, q :: qs => same p q && allSame ps qs
  | _, _ => false

end

/-! ### Building patterns -/

/-- One character of a set. -/
def ofSet (s : CodeSet) : Pattern :=
  match s.only? with
  | some c => .literal [c]
  | none => .one s

/-- The patterns that a pattern has in a row. -/
def inRow : Pattern → List Pattern
  | .empty => []
  | .concat ps => ps
  | p => [p]

/-- A pattern before others, as part of the literal that they begin with if it is one too. -/
def before (p : Pattern) (ps : List Pattern) : List Pattern :=
  match p, ps with
  | .literal s, .literal t :: rest => .literal (s ++ t) :: rest
  | _, _ => p :: ps

/-- Patterns one after another. -/
def sequence (ps : List Pattern) : Pattern :=
  match (ps.flatMap inRow).foldr before [] with
  | [] => .empty
  | [p] => p
  | ps => .concat ps

/-- The patterns that a pattern chooses from. -/
def options : Pattern → List Pattern
  | .choice ps => ps
  | p => [p]

/-- The characters that a pattern of one character matches. -/
def ranges? : Pattern → Option (List (Nat × Nat))
  | .literal [c] => some [(c.toNat, c.toNat)]
  | .one s => some s.ranges.toList
  | _ => none

/-- The patterns that every list begins with. -/
def sharedStart : List Pattern → List (List Pattern) → List Pattern
  | first, [] => first
  | first, other :: others =>
    let shared := (first.zip other).takeWhile fun pq => same pq.1 pq.2
    sharedStart (first.take shared.length) others

/-- The rows of patterns that are rows of at least two. -/
def rows? (ps : List Pattern) : Option (List (List Pattern)) :=
  ps.mapM fun
    | .concat qs => some qs
    | _ => none

/-- One of several patterns, as a set if each of them matches one character. -/
def oneOf (ps : List Pattern) : Pattern :=
  match ps.flatMap options with
  | [] => .one .empty
  | [p] => p
  | ps =>
    match ps.mapM ranges? with
    | some ranges => ofSet (.ofRanges ranges.flatten)
    | none => .choice ps

/-- One of several patterns; what all of them begin with stands before the choice. -/
def alternatives (ps : List Pattern) : Pattern :=
  match oneOf ps with
  | .choice ps =>
    match rows? ps with
    | some (first :: others) =>
      match sharedStart first others with
      | [] => .choice ps
      | shared =>
        let rest := (first :: others).map fun row => sequence (row.drop shared.length)
        sequence (shared ++ [oneOf rest])
    | _ => .choice ps
  | p => p

/-- A pattern at least `least` and at most `most` times; once is enough for what can only match the
empty text. -/
def times (p : Pattern) (least : Nat) (most : Option Nat) : Pattern :=
  let least' := if isVoid p then min least 1 else least
  let most' := if isVoid p then some (min (most.getD 1) 1) else most
  if least' = 0 ∧ most' = some 0 then .empty
  else if least' = 1 ∧ most' = some 1 then p
  else .repeated p least' most'

end Pattern

end SiteRuntime
