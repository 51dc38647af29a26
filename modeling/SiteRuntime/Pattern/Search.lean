import SiteRuntime.Pattern.Basic

/-!
# Searching for a pattern

A pattern is laid out as a program of small steps: read one character of a set, go on at either of
two places, go on where a position allows it. A search runs over the text once and keeps the places
that can have been reached, each at most once, so its time is bounded by the size of the program
times the length of the text.
-/

namespace SiteRuntime.Pattern

open Text (CodeSet)

/-- A step of a program; the numbers are places in it. -/
inductive Step where
  /-- Reads one character of a set. -/
  | one (s : CodeSet) (next : Nat)
  /-- Goes on at both places. -/
  | either (a b : Nat)
  /-- Goes on if a position allows it. -/
  | anchor (p : Anchor) (next : Nat)
  /-- The pattern has been matched. -/
  | done
  deriving Inhabited

/-- A program under way, with the place where it begins so far. -/
structure Program where
  steps : Array Step
  entry : Nat

namespace Program

/-- Begins with one more step. -/
def push : Program → Step → Program
  | ⟨steps, _⟩, step =>
    let place := steps.size
    ⟨steps.push step, place⟩

/-- Begins anew at a place. -/
def enterAt (p : Program) (entry : Nat) : Program := { p with entry := entry }

end Program

/-- A function applied a number of times. -/
def iterate {α : Type} (f : α → α) : Nat → α → α
  | 0, x => x
  | n + 1, x => iterate f n (f x)

mutual

/-- A program that matches a pattern and goes on as another one does. -/
def layOut : Pattern → Program → Program
  | .empty, p => p
  | .literal s, p => s.reverse.foldl (fun p c => p.push (.one (.single c) p.entry)) p
  | .one s, p => p.push (.one s p.entry)
  | .anchor q, p => p.push (.anchor q p.entry)
  | .group q, p => layOut q p
  | .concat qs, p => layOutAll qs p
  | .choice qs, p => layOutAny qs p.entry (p.push (.one .empty p.entry))
  | .repeated q least (some most), p =>
    let optional := fun r : Program =>
      let body := layOut q r
      body.push (.either body.entry p.entry)
    iterate (layOut q) least (iterate optional (most - least) p)
  | .repeated q least none, p =>
    let again := p.steps.size
    let body := layOut q (p.push (.either p.entry p.entry))
    let steps := body.steps.set! again (.either body.entry p.entry)
    iterate (layOut q) (least - 1) ⟨steps, if least = 0 then again else body.entry⟩

/-- A program that matches patterns one after another and goes on as another one does. -/
def layOutAll : List Pattern → Program → Program
  | [], p => p
  | q :: qs, p => layOut q (layOutAll qs p)

/-- A program that begins as another one does or matches one of several patterns and goes on at a
place. -/
def layOutAny : List Pattern → Nat → Program → Program
  | [], _, p => p
  | q :: qs, next, p =>
    let rest := layOutAny qs next p
    let body := layOut q (rest.enterAt next)
    body.push (.either body.entry rest.entry)

end

/-- The program of a pattern. -/
def program (p : Pattern) : Program := layOut p ⟨#[.done], 0⟩

/-- The places reached at one position of the text. -/
structure Reached where
  /-- For every place of the program the last position at which it was reached. -/
  last : Array Nat
  /-- The places that read a character. -/
  readers : List Nat
  /-- Whether the pattern has been matched. -/
  matched : Bool

/-- Follows the steps that read nothing, from the waiting places on. -/
def follow (steps : Array Step) (allowed : Anchor → Bool) (now : Nat) :
    Nat → List Nat → Reached → Reached
  | 0, _, r => r
  | _ + 1, [], r => r
  | fuel + 1, place :: waiting, r =>
    if r.last[place]? = some now then follow steps allowed now fuel waiting r
    else
      let r := { r with last := r.last.set! place now }
      match steps[place]? with
      | some (.one _ _) =>
        follow steps allowed now fuel waiting { r with readers := place :: r.readers }
      | some (.either a b) => follow steps allowed now fuel (a :: b :: waiting) r
      | some (.anchor p next) =>
        follow steps allowed now fuel (if allowed p then next :: waiting else waiting) r
      | some .done => { r with matched := true }
      | none => follow steps allowed now fuel waiting r

/-- The place after a step that can read a character. -/
def advance? (steps : Array Step) (c : Char) (place : Nat) : Option Nat :=
  match steps[place]? with
  | some (.one s next) => if s.contains c then some next else none
  | _ => none

/-- Whether the pattern is matched from here on: at the waiting places, or begun anew. -/
def searchFrom (p : Program) (now : Nat) (before : Option Char) (waiting : List Nat)
    (last : Array Nat) (text : List Char) : Bool :=
  let allowed := fun q : Anchor => q.holds before text.head?
  let places := p.entry :: waiting
  let r :=
    follow p.steps allowed now (places.length + 2 * p.steps.size + 1) places ⟨last, [], false⟩
  if r.matched then true
  else
    match text with
    | [] => false
    | c :: rest =>
      searchFrom p (now + 1) (some c) (r.readers.filterMap (advance? p.steps c)) r.last rest
  termination_by text.length

/-- Whether a pattern occurs in a text. -/
def occursIn (p : Pattern) (text : List Char) : Bool :=
  let program := p.program
  searchFrom program 1 none [] (Array.replicate program.steps.size 0) text

end SiteRuntime.Pattern
