import SiteRuntime.Pattern.ByteRanges

/-!
# The size of a pattern

A pattern is refused if the automaton over bytes that recognises it would be too large, read
forwards or backwards. The size of an automaton is what its states take: 32 bytes each, 8 for every
transition of a state with several, 4 for every branch. Repetitions are written out, so that their
counts multiply.

`Cost` is what a part adds to an automaton under construction. It is a function of what is there
already: backwards, the states for a set of characters share their ends through a table of fixed
size, addressed by the numbers of the states.
-/

namespace SiteRuntime.Pattern

open Text (CodeSet)

/-- An automaton under construction. -/
structure Automaton where
  /-- The number of its states. -/
  states : Nat
  /-- The bytes that transitions and branches take. -/
  links : Nat

namespace Automaton

/-- What it takes. -/
def bytes (a : Automaton) : Nat := 32 * a.states + a.links

/-- The greatest size. -/
def limit : Nat := 10 * twoTo 20

/-- Whether it is too large. -/
def overflows (a : Automaton) : Bool := limit < a.bytes

/-- With more states and links. -/
def add (a : Automaton) (states links : Nat) : Automaton := ⟨a.states + states, a.links + links⟩

end Automaton

/-- What a part of a pattern adds to an automaton. -/
structure Cost where
  grow : Automaton → Automaton

namespace Cost

/-- A number of states and bytes of links. -/
def fixed (states links : Nat) : Cost := ⟨fun a => a.add states links⟩

/-- One cost after another. -/
def andThen (c d : Cost) : Cost := ⟨fun a => d.grow (c.grow a)⟩

/-- A cost a number of times; it is left there once the automaton is too large. -/
def growTimes (c : Cost) : Nat → Automaton → Automaton
  | 0, a => a
  | n + 1, a => if a.overflows then a else growTimes c n (c.grow a)

/-- A cost a number of times. -/
def times (c : Cost) (n : Nat) : Cost := ⟨c.growTimes n⟩

/-- A branch. -/
def branch : Cost := fixed 0 4

end Cost

/-! ### Sets of characters -/

/-- A table of states for the rows of a set, read backwards, by the transition that they hold. -/
abbrev EndTable := Array (Option ((Nat × Nat × Nat) × Nat))

/-- The number of places of the table. -/
def endTableSize : Nat := 1000

/-- The place of a transition in the table. -/
def placeOf (next low high : Nat) : Nat :=
  let mix := fun (h : UInt64) (n : Nat) => (h ^^^ UInt64.ofNat n) * 1099511628211
  (mix (mix (mix 14695981039346656037 next) low) high).toNat % endTableSize

/-- The states of one row, read backwards, up to the state that leads to its end. -/
def growRow : List ByteRange → Nat → EndTable × Automaton → EndTable × Automaton
  | [], _, ta => ta
  | (low, high) :: rest, next, (table, a) =>
    let place := placeOf next low high
    match table.getD place none with
    | some (key, state) =>
      if key = (next, low, high) then growRow rest state (table, a)
      else growRow rest a.states (table.set! place (some ((next, low, high), a.states)), a.add 1 0)
    | none =>
      growRow rest a.states (table.set! place (some ((next, low, high), a.states)), a.add 1 0)

/-- The states of a set, read backwards: a branch for every row, and the state where all end. -/
def growBackwards (rows : List (List ByteRange)) (a : Automaton) : Automaton :=
  let final := a.states + 1
  let table : EndTable := Array.replicate endTableSize none
  (rows.foldl (fun ta row =>
    let (table, a) := growRow row final ta
    (table, a.add 0 4)) (table, a.add 2 0)).2

/-- The rows that begin alike, put together: each first range with what follows it. -/
def byFirst : List (List ByteRange) → List (ByteRange × List (List ByteRange))
  | [] => []
  | [] :: rest => byFirst rest
  | (first :: row) :: rest =>
    match byFirst rest with
    | (first', rows) :: groups =>
      if first = first' then (first, row :: rows) :: groups
      else (first, [row]) :: (first', rows) :: groups
    | [] => [(first, [row])]

/-- The transitions of a state, each with the state that it leads to. -/
abbrev Transitions := List (ByteRange × Nat)

/-- The state for rows that remain to be read, `depth` bytes long at most; the states found so far
are listed with their transitions, the last one first, and equal ones are one. The state 0 is where
all rows end. -/
def stateOf : Nat → List (List ByteRange) → List Transitions → Nat × List Transitions
  | 0, _, known => (0, known)
  | depth + 1, rows, known =>
    if rows.all List.isEmpty then (0, known)
    else
      let (transitions, known) := (byFirst rows).foldl (fun (transitions, known) (first, rest) =>
        let (next, known) := stateOf depth rest known
        ((first, next) :: transitions, known)) (([] : Transitions), known)
      match known.findIdx? (· = transitions) with
      | some i => (known.length - i, known)
      | none => (known.length + 1, transitions :: known)

/-- What a set costs, read forwards: its rows share beginnings and ends. -/
def forwards (rows : List (List ByteRange)) : Cost :=
  let known := (stateOf 5 rows []).2
  .fixed (known.length + 1) (8 * known.flatten.length)

/-- What a set of characters costs. -/
def setCost (backwards : Bool) (s : CodeSet) : Cost :=
  let isAscii := s.ranges.all fun r => r.2 < 128
  if isAscii then .fixed 2 (8 * s.ranges.size)
  else
    let rows := rows s
    if backwards then ⟨growBackwards rows⟩ else forwards rows

/-! ### Choices between literals -/

/-- What the states for several words cost that share their beginnings; `depth` bounds the lengths
of the words. -/
def wordsCost : Nat → List (List Nat) → Cost
  | 0, _ => .fixed 0 0
  | depth + 1, words =>
    let firsts := (words.filterMap List.head?).eraseDups
    if firsts.isEmpty then .fixed 0 0
    else
      let own := if firsts.length = 1 then Cost.fixed 2 4 else .fixed 2 (4 + 8 * firsts.length)
      firsts.foldl (fun c first =>
        c.andThen (wordsCost depth (words.filterMap fun
          | [] => none
          | b :: rest => if b = first then some rest else none))) own

/-- The words of a choice between literals. -/
def words? (backwards : Bool) (ps : List Pattern) : Option (List (List Nat)) :=
  ps.mapM fun
    | .literal s =>
      let bytes := s.flatMap fun c => utf8 c.toNat
      some (if backwards then bytes.reverse else bytes)
    | _ => none

/-! ### Whole patterns -/

/-- What a repetition of something costs; `consumes` tells whether that always reads a character. -/
def repeatedCost (c : Cost) (consumes : Bool) (least : Nat) (most : Option Nat) : Cost :=
  let exactly := fun n => if n = 0 then Cost.fixed 1 0 else c.times n
  match most with
  | some most =>
    if least = most then exactly least
    else if least = 0 ∧ most = 1 then c.andThen (.fixed 2 8)
    else ((exactly least).andThen (.fixed 1 0)).andThen
      ((c.andThen (.fixed 1 8)).times (most - least))
  | none =>
    match least with
    | 0 => if consumes then c.andThen (.fixed 1 8) else c.andThen (.fixed 3 16)
    | 1 => c.andThen (.fixed 1 8)
    | n + 2 => ((exactly (n + 1)).andThen c).andThen (.fixed 1 8)

mutual

/-- What a pattern costs. -/
def cost (backwards : Bool) : Pattern → Cost
  | .empty => .fixed 1 0
  | .literal s => .fixed (textBytes s) 0
  | .one s => setCost backwards s
  | .anchor _ => .fixed 1 0
  | .group p => if backwards then cost backwards p else (cost backwards p).andThen (.fixed 2 0)
  | .concat ps => costOfAll backwards ps
  | .choice ps =>
    match words? backwards ps with
    | some words =>
      (Cost.fixed 1 0).andThen (wordsCost ((words.map List.length).foldl max 0) words)
    | none => (Cost.fixed 2 0).andThen (costOfAny backwards ps)
  | .repeated p least most =>
    repeatedCost (cost backwards p) ((shortest? p).any (0 < ·)) least most

/-- What patterns one after another cost; backwards the last one comes first. -/
def costOfAll (backwards : Bool) : List Pattern → Cost
  | [] => .fixed 0 0
  | p :: ps =>
    if backwards then (costOfAll backwards ps).andThen (cost backwards p)
    else (cost backwards p).andThen (costOfAll backwards ps)

/-- What the patterns of a choice cost, with a branch for each. -/
def costOfAny (backwards : Bool) : List Pattern → Cost
  | [] => .fixed 0 0
  | p :: ps => (cost backwards p).andThen (Cost.branch.andThen (costOfAny backwards ps))

end

/-- The automaton of a pattern. Unless the pattern is bound to an end of the text, it can begin
anywhere, which takes a loop in front. -/
def automaton (backwards : Bool) (p : Pattern) : Automaton :=
  let isBound := if backwards then endsAtStop p else beginsAtStart p
  let front := if isBound then Cost.fixed 1 0 else .fixed 3 16
  let marks := if backwards then Cost.fixed 1 0 else .fixed 3 0
  ((front.andThen (cost backwards p)).andThen marks).grow ⟨0, 0⟩

/-- Whether a pattern is small enough. -/
def fits (p : Pattern) : Bool := !(automaton false p).overflows && !(automaton true p).overflows

end SiteRuntime.Pattern
