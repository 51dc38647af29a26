import SiteRuntime.Pattern.Escape

/-!
# Classes in brackets

A class lists characters, ranges, named classes and further classes in brackets, and combines them
by `&&`, `--` and `~~`, which group to the left and bind alike. The other case of a character is
added to each operand of an operation and to each class before it is negated.

How deep classes are nested counts towards the nesting of the whole pattern, so a class is read
together with its depth: a bracket, an operation and a list of several items each add one.
-/

namespace SiteRuntime.Pattern

open Text (CodeSet)

/-- The ranges of a named class of ASCII characters. -/
def asciiClass? (name : List Char) : Option (List (Char × Char)) :=
  match String.ofList name with
  | "alnum" => some [('0', '9'), ('A', 'Z'), ('a', 'z')]
  | "alpha" => some [('A', 'Z'), ('a', 'z')]
  | "ascii" => some [('\x00', '\x7f')]
  | "blank" => some [('\t', '\t'), (' ', ' ')]
  | "cntrl" => some [('\x00', '\x1f'), ('\x7f', '\x7f')]
  | "digit" => some [('0', '9')]
  | "graph" => some [('!', '~')]
  | "lower" => some [('a', 'z')]
  | "print" => some [(' ', '~')]
  | "punct" => some [('!', '/'), (':', '@'), ('[', '\x60'), ('\x7b', '~')]
  | "space" => some [('\t', '\r'), (' ', ' ')]
  | "upper" => some [('A', 'Z')]
  | "word" => some [('0', '9'), ('A', 'Z'), ('_', '_'), ('a', 'z')]
  | "xdigit" => some [('0', '9'), ('A', 'F'), ('a', 'f')]
  | _ => none

/-- A named class. -/
structure NamedClass where
  negated : Bool
  ranges : List (Char × Char)

/-- A named class after its bracket, with the text after its `:]`. -/
def readNamedClass? : List Char → Option (NamedClass × List Char)
  | ':' :: s =>
    let (negated, s) := match s with
      | '^' :: rest => (true, rest)
      | _ => (false, s)
    match s.dropWhile (· ≠ ':') with
    | ':' :: ']' :: after =>
      (asciiClass? (s.takeWhile (· ≠ ':'))).map fun ranges => (⟨negated, ranges⟩, after)
    | _ => none
  | _ => none

/-- The set of a named class under the flags. -/
def NamedClass.set? (f : Flags) (c : NamedClass) : Option CodeSet :=
  negatedIf f c.negated (folded f (.ofRanges (c.ranges.map fun r => (r.1.toNat, r.2.toNat))))

/-- One item of a class: a character as itself or escaped. -/
def readClassItem (f : Flags) : List Char → Option (Escape × List Char)
  | [] => none
  | '\\' :: rest => readEscape f rest
  | c :: rest => some (.literal c, rest)

/-- Whether a character may be listed: without `unicode` only one of ASCII. -/
def isListed (f : Flags) (c : Char) : Bool := f.unicode || c.toNat < 128

/-- The ranges that an item stands for by itself. -/
def itemRanges? (f : Flags) : Escape → Option (List (Nat × Nat))
  | .literal c => if isListed f c then some [(c.toNat, c.toNat)] else none
  | .set s => some s.ranges.toList
  | .anchor _ => none

/-- What follows the current character past white space and a comment sign; if nothing does, the
very next character. -/
def peekApart (next : Option Char) (inComment : Bool) : List Char → Option Char
  | [] => next
  | c :: rest =>
    if Text.isBlank c then peekApart next inComment rest
    else if !inComment && c = '#' then peekApart next true rest
    else some c

/-- The character after the current one, as far as it decides whether a `-` makes a range. -/
def peek (f : Flags) (rest : List Char) : Option Char :=
  if f.verbose then peekApart rest.head? false rest else rest.head?

/-- A range of characters, or a single item. A `-` before a bracket or another `-` stands for no
range. -/
def readClassRange (f : Flags) (s : List Char) : Option (List (Nat × Nat) × List Char) := do
  let (first, rest) ← readClassItem f s
  match skip f rest with
  | [] => none
  | '-' :: after =>
    if peek f after = some ']' || peek f after = some '-' then
      (itemRanges? f first).map fun ranges => (ranges, '-' :: after)
    else
      let (final, rest) ← readClassItem f (skip f after)
      match first, final with
      | .literal a, .literal b =>
        if a ≤ b && isListed f a && isListed f b then some ([(a.toNat, b.toNat)], rest) else none
      | _, _ => none
  | rest => (itemRanges? f first).map fun ranges => (ranges, rest)

/-- The operations between the sets of a class. -/
inductive SetOp where
  | inter
  | diff
  | symmDiff

/-- The result of an operation on what stands before and after it. -/
def SetOp.apply : SetOp → CodeSet → CodeSet → CodeSet
  | .inter, a, b => a.inter b
  | .diff, a, b => a.diff b
  | .symmDiff, a, b => a.symmDiff b

/-- A set with the depth of the class that writes it. -/
structure Nested where
  set : CodeSet
  depth : Nat

/-- The items of a class under way. -/
structure Items where
  /-- What they list. -/
  ranges : List (Nat × Nat)
  /-- How many there are. -/
  count : Nat
  /-- The depth of the deepest. -/
  depth : Nat
  /-- An operation that waits for its second operand. -/
  waiting : Option (SetOp × Nested)

namespace Items

/-- No item yet. -/
def start : Items := ⟨[], 0, 0, none⟩

/-- With one more item. -/
def add (i : Items) (ranges : List (Nat × Nat)) (depth : Nat) : Items :=
  { i with ranges := ranges ++ i.ranges, count := i.count + 1, depth := max i.depth depth }

/-- The set of the items, combined with what waited for it. -/
def close (f : Flags) (i : Items) : Nested :=
  let set := CodeSet.ofRanges i.ranges
  let depth := if i.count < 2 then i.depth else i.depth + 1
  match i.waiting with
  | none => ⟨set, depth⟩
  | some (op, first) =>
    ⟨op.apply (folded f first.set) (folded f set), max first.depth depth + 1⟩

/-- The items so far as the first operand of an operation. -/
def operate (f : Flags) (i : Items) (op : SetOp) : Items :=
  { start with waiting := some (op, i.close f) }

end Items

/-- Hyphens at the front of a class, where they stand for themselves. -/
def readHyphens (f : Flags) : Nat → Items → List Char → Items × List Char
  | 0, items, s => (items, s)
  | fuel + 1, items, s =>
    match s with
    | '-' :: rest => readHyphens f fuel (items.add [(45, 45)] 0) (skip f rest)
    | _ => (items, s)

/-- What stands at the front of a class and would mean something else later on: `^`, hyphens, and
a closing bracket as first character. -/
def readOpening (f : Flags) (s : List Char) : Bool × Items × List Char :=
  let (negated, s) := match skip f s with
    | '^' :: rest => (true, skip f rest)
    | s => (false, s)
  let (items, s) := readHyphens f s.length .start s
  match s with
  | ']' :: rest =>
    if items.count = 0 then (negated, items.add [(93, 93)] 0, skip f rest) else (negated, items, s)
  | _ => (negated, items, s)

/-- The class that a bracket closes. -/
def closeBracket (f : Flags) (negated : Bool) (items : Items) : Option Nested :=
  let inner := items.close f
  (negatedIf f negated (folded f inner.set)).map fun set => ⟨set, inner.depth + 1⟩

/-- The items of a class up to its closing bracket; brackets may be nested `levels` deep. -/
def readItems (f : Flags) (levels : Nat) :
    Nat → Bool → Items → List Char → Option (Nested × List Char)
  | 0, _, _, _ => none
  | fuel + 1, negated, items, s =>
    match skip f s with
    | [] => none
    | ']' :: rest => (closeBracket f negated items).map fun n => (n, rest)
    | '&' :: '&' :: rest => readItems f levels fuel negated (items.operate f .inter) rest
    | '-' :: '-' :: rest => readItems f levels fuel negated (items.operate f .diff) rest
    | '~' :: '~' :: rest => readItems f levels fuel negated (items.operate f .symmDiff) rest
    | '[' :: rest =>
      match readNamedClass? rest with
      | some (named, rest) => do
        readItems f levels fuel negated (items.add (← named.set? f).ranges.toList 0) rest
      | none =>
        match levels with
        | 0 => none
        | levels + 1 => do
          let (negated', items', rest) := readOpening f rest
          let (inner, rest) ← readItems f levels fuel negated' items' rest
          readItems f (levels + 1) fuel negated (items.add inner.set.ranges.toList inner.depth) rest
    | s => do
      let (ranges, rest) ← readClassRange f s
      readItems f levels fuel negated (items.add ranges 0) rest

/-- The greatest depth of a pattern. -/
def nestingLimit : Nat := 250

/-- A class after its opening bracket. -/
def readClass (f : Flags) (s : List Char) : Option (Nested × List Char) :=
  let (negated, items, rest) := readOpening f s
  readItems f nestingLimit (s.length + 1) negated items rest

end SiteRuntime.Pattern
