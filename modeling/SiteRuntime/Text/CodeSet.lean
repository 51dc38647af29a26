import SiteRuntime.Text.Blank
import SiteRuntime.Text.Hexadecimal

/-!
# Sets of characters

A set of characters is kept as the ranges of its code points, in ascending order and with a gap
between any two. That form is unique, makes the set operations single passes over two lists, and
lets `contains` look a character up by bisection.

A property of characters is written in hexadecimal: `41-5a` is a range, `100=12e` every second code
point from the first to the last, and `aa` a single one.
-/

namespace SiteRuntime.Text

/-- A set of characters as ascending ranges of code points, both ends included. -/
structure CodeSet where
  /-- The ranges, each with its first and last code point. -/
  ranges : Array (Nat × Nat)
  deriving DecidableEq, Repr, Inhabited

namespace CodeSet

/-- The greatest code point. -/
def last : Nat := 0x10FFFF

/-- The code point after another, past those that are no characters. -/
def next (n : Nat) : Nat := if n = 0xD7FF then 0xE000 else n + 1

/-- The code point before another, past those that are no characters. -/
def previous (n : Nat) : Nat := if n = 0xE000 then 0xD7FF else n - 1

/-- The set of no character. -/
def empty : CodeSet := ⟨#[]⟩

/-- The set of the code points from one to another. -/
def range (low high : Nat) : CodeSet := if low ≤ high then ⟨#[(low, high)]⟩ else empty

/-- The set of every character. -/
def all : CodeSet := range 0 last

/-- The set of one character. -/
def single (c : Char) : CodeSet := range c.toNat c.toNat

/-- Ranges in ascending order, joined where they touch or overlap. -/
def join : List (Nat × Nat) → List (Nat × Nat)
  | [] => []
  | [a] => [a]
  | a :: b :: rest =>
    if b.1 ≤ a.2 + 1 then join ((a.1, max a.2 b.2) :: rest) else a :: join (b :: rest)
  termination_by l => l.length

/-- The set of the code points in some range of a list. -/
def ofRanges (ranges : List (Nat × Nat)) : CodeSet :=
  ⟨(join (ranges.mergeSort fun a b => a.1 ≤ b.1)).toArray⟩

/-- Whether a code point lies in one of the ranges at the places from `low` on and before `high`. -/
def bisect (ranges : Array (Nat × Nat)) (n low high : Nat) : Bool :=
  if low < high then
    let middle := (low + high) / 2
    match ranges[middle]? with
    | none => false
    | some r =>
      if n < r.1 then bisect ranges n low middle
      else if r.2 < n then bisect ranges n (middle + 1) high
      else true
  else false
  termination_by high - low

/-- Whether a code point belongs to a set. -/
def containsPoint (s : CodeSet) (n : Nat) : Bool := bisect s.ranges n 0 s.ranges.size

/-- Whether a character belongs to a set. -/
def contains (s : CodeSet) (c : Char) : Bool := s.containsPoint c.toNat

/-- Whether no character belongs to a set. -/
def isEmpty (s : CodeSet) : Bool := s.ranges.isEmpty

/-- The only character of a set, if it has just one. -/
def only? (s : CodeSet) : Option Char :=
  match s.ranges.toList with
  | [(low, high)] => if low = high then some (Char.ofNat low) else none
  | _ => none

/-- What is in either set. -/
def union (a b : CodeSet) : CodeSet :=
  if a.isEmpty then b else if b.isEmpty then a else ofRanges (a.ranges.toList ++ b.ranges.toList)

/-- The gaps between ascending ranges from a code point on. -/
def gaps : Nat → List (Nat × Nat) → List (Nat × Nat)
  | start, [] => if start ≤ last then [(start, last)] else []
  | start, r :: rest =>
    if start < r.1 then (start, previous r.1) :: gaps (next r.2) rest else gaps (next r.2) rest

/-- What is not in a set. -/
def complement (s : CodeSet) : CodeSet := ⟨(gaps 0 s.ranges.toList).toArray⟩

/-- The common part of two lists of ascending ranges. -/
def overlap : List (Nat × Nat) → List (Nat × Nat) → List (Nat × Nat)
  | [], _ => []
  | _, [] => []
  | a :: as, b :: bs =>
    let rest := if a.2 < b.2 then overlap as (b :: bs) else overlap (a :: as) bs
    if max a.1 b.1 ≤ min a.2 b.2 then (max a.1 b.1, min a.2 b.2) :: rest else rest
  termination_by as bs => as.length + bs.length

/-- What is in both sets. -/
def inter (a b : CodeSet) : CodeSet := ⟨(overlap a.ranges.toList b.ranges.toList).toArray⟩

/-- What is in the first set and not in the second. -/
def diff (a b : CodeSet) : CodeSet := a.inter b.complement

/-- What is in exactly one of two sets. -/
def symmDiff (a b : CodeSet) : CodeSet := (a.diff b).union (b.diff a)

/-! ### The written form -/

/-- Every second code point from the first to the last, as ranges. -/
def everySecond (first final : Nat) : List (Nat × Nat) :=
  (List.range ((final - first) / 2 + 1)).map fun i => (first + 2 * i, first + 2 * i)

/-- The ranges that one item writes. -/
def rangesOfItem (item : List Char) : List (Nat × Nat) :=
  let isDigit := fun c => (hexDigit? c).isSome
  let first := hexValue (item.takeWhile isDigit)
  match item.dropWhile isDigit with
  | '-' :: final => [(first, hexValue final)]
  | '=' :: final => everySecond first (hexValue final)
  | _ => [(first, first)]

/-- The set written in lines, items separated by one blank. -/
def ofLines (lines : List String) : CodeSet :=
  ofRanges (lines.flatMap fun line => (splitOn ' ' line.toList).flatMap rangesOfItem)

end CodeSet

end SiteRuntime.Text
