import SiteRuntime.Power
import SiteRuntime.Shell.Syntax
import SiteRuntime.Text.Hexadecimal

/-!
# Arithmetic expressions

Expressions over whole numbers of 64 bits, with the operators, precedences and assignments of C. An
expression is worked out while it is read. Where a condition leaves a part out, the part is read but
not worked out.
-/

namespace SiteRuntime.Shell.Arithmetic

/-- The number of a 64-bit word. -/
def wrap (n : Int) : Int := Int.bmod n (twoTo 64)

/-- The least number. -/
def least : Int := -(twoTo 63 : Int)

/-- The greatest number. -/
def greatest : Int := (twoTo 63 : Int) - 1

/-- An operator between two operands. -/
inductive Operator where
  | mul
  | div
  | rem
  | add
  | sub
  | shiftLeft
  | shiftRight
  | lt
  | le
  | gt
  | ge
  | eq
  | ne
  | bitAnd
  | bitXor
  | bitOr
  deriving DecidableEq, Repr

/-- How loosely an operator binds. -/
def Operator.level : Operator → Nat
  | .mul => 0
  | .div => 0
  | .rem => 0
  | .add => 1
  | .sub => 1
  | .shiftLeft => 2
  | .shiftRight => 2
  | .lt => 3
  | .le => 3
  | .gt => 3
  | .ge => 3
  | .eq => 4
  | .ne => 4
  | .bitAnd => 5
  | .bitXor => 6
  | .bitOr => 7

/-- A token of an expression. -/
inductive Token where
  | eof
  | number (n : Int)
  | name (s : Chars)
  | operator (o : Operator)
  | assign
  /-- An assignment of the result of an operator. -/
  | assignWith (o : Operator)
  | and
  | or
  | not
  | bitNot
  | opening
  | closing
  | question
  | colon
  | other
  deriving DecidableEq, Repr

/-! ### Numbers -/

/-- The value of digits to a base, with what follows them. -/
def digitsValue (base : Nat) : Chars → Nat → Nat × Chars
  | [], n => (n, [])
  | c :: rest, n =>
    match Text.hexDigit? c with
    | some d => if d < base then digitsValue base rest (base * n + d) else (n, c :: rest)
    | none => (n, c :: rest)

/-- A number without sign at the front of a text: hexadecimal after `0x`, octal after `0`. -/
def readNumber (s : Chars) : Nat × Chars :=
  match s with
  | '0' :: x :: d :: rest =>
    if (x = 'x' || x = 'X') && (Text.hexDigit? d).isSome then digitsValue 16 (d :: rest) 0
    else digitsValue 8 (x :: d :: rest) 0
  | '0' :: rest => digitsValue 8 rest 0
  | s => digitsValue 10 s 0

/-- White space of ASCII. -/
def isSpace (c : Char) : Bool := c = ' ' || ('\t' ≤ c && c ≤ '\r')

/-- A whole number with white space around it, to base ten or, with `literal`, as expressions write
it. -/
def integer? (literal : Bool) (s : Chars) : Option Int :=
  let (negative, digits) := match s.dropWhile isSpace with
    | '-' :: rest => (true, rest)
    | '+' :: rest => (false, rest)
    | s => (false, s)
  if !(digits.head?.any Char.isDigit) then none
  else
    let (n, rest) := if literal then readNumber digits else digitsValue 10 digits 0
    let value : Int := if negative then -n else n
    if rest.all isSpace && least ≤ value && value ≤ greatest then some value else none

/-! ### Tokens -/

/-- A token that may be followed by `=` to make an assignment. -/
def orAssign (o : Operator) : Chars → Token × Chars
  | '=' :: rest => (.assignWith o, rest)
  | s => (.operator o, s)

/-- The token at the front of an expression. -/
def nextToken : Chars → Token × Chars
  | [] => (.eof, [])
  | ' ' :: rest => nextToken rest
  | '\t' :: rest => nextToken rest
  | '\n' :: rest => nextToken rest
  | '=' :: '=' :: rest => (.operator .eq, rest)
  | '=' :: rest => (.assign, rest)
  | '>' :: '=' :: rest => (.operator .ge, rest)
  | '>' :: '>' :: rest => orAssign .shiftRight rest
  | '>' :: rest => (.operator .gt, rest)
  | '<' :: '=' :: rest => (.operator .le, rest)
  | '<' :: '<' :: rest => orAssign .shiftLeft rest
  | '<' :: rest => (.operator .lt, rest)
  | '|' :: '|' :: rest => (.or, rest)
  | '|' :: rest => orAssign .bitOr rest
  | '&' :: '&' :: rest => (.and, rest)
  | '&' :: rest => orAssign .bitAnd rest
  | '!' :: '=' :: rest => (.operator .ne, rest)
  | '!' :: rest => (.not, rest)
  | '(' :: rest => (.opening, rest)
  | ')' :: rest => (.closing, rest)
  | '*' :: rest => orAssign .mul rest
  | '/' :: rest => orAssign .div rest
  | '%' :: rest => orAssign .rem rest
  | '+' :: rest => orAssign .add rest
  | '-' :: rest => orAssign .sub rest
  | '^' :: rest => orAssign .bitXor rest
  | '~' :: rest => (.bitNot, rest)
  | '?' :: rest => (.question, rest)
  | ':' :: rest => (.colon, rest)
  | c :: rest =>
    if c.isDigit then
      let (n, rest) := readNumber (c :: rest)
      (.number (min n greatest), rest)
    else if beginsName c then
      (.name (c :: rest.takeWhile continuesName), rest.dropWhile continuesName)
    else (.other, rest)

/-! ### Working out -/

/-- An expression under way. -/
structure Progress where
  /-- The characters ahead. -/
  rest : Chars
  /-- The token after what has been worked out. -/
  last : Token
  /-- The values of variables. -/
  lookup : Chars → Option Chars
  /-- The assignments made, the last one first. -/
  writes : List (Chars × Int)

/-- An operation on an expression under way; it fails with a message. -/
abbrev M (α : Type) := EStateM String Progress α

/-- Reads a token. -/
def next : M Token := do
  let p ← get
  let (t, rest) := nextToken p.rest
  set { p with rest }
  return t

/-- The value of a variable; one that is not set is zero. -/
def valueOf (name : Chars) : M Int := do
  let p ← get
  match p.writes.find? (·.1 = name) with
  | some w => return w.2
  | none =>
    let text := (p.lookup name).getD []
    if text.all isSpace then return 0
    else
      match integer? true text with
      | some n => return n
      | none => throw s!"Illegal number: {Chars.toText text}"

/-- The bits of a number as a natural number. -/
def bits (n : Int) : Nat := (n % (twoTo 64 : Int)).toNat

/-- The number that tells whether a condition holds. -/
def truth (b : Bool) : Int := if b then 1 else 0

/-- The result of an operator. -/
def apply (o : Operator) (a b : Int) : M Int :=
  match o with
  | .mul => return wrap (a * b)
  | .div => if b = 0 then throw "division by zero" else return wrap (Int.tdiv a b)
  | .rem => if b = 0 then throw "division by zero" else return wrap (Int.tmod a b)
  | .add => return wrap (a + b)
  | .sub => return wrap (a - b)
  | .shiftLeft => return wrap (a * (twoTo (bits b % 64) : Int))
  | .shiftRight => return a / (twoTo (bits b % 64) : Int)
  | .lt => return truth (a < b)
  | .le => return truth (a ≤ b)
  | .gt => return truth (b < a)
  | .ge => return truth (b ≤ a)
  | .eq => return truth (a = b)
  | .ne => return truth (a ≠ b)
  | .bitAnd => return wrap (Nat.land (bits a) (bits b) : Nat)
  | .bitXor => return wrap (Nat.xor (bits a) (bits b) : Nat)
  | .bitOr => return wrap (Nat.lor (bits a) (bits b) : Nat)

/-- Remembers the token after what has been worked out. -/
def setLast (t : Token) : M Unit := modify fun p => { p with last := t }

/-- The token after what has been worked out. -/
def last : M Token := return (← get).last

mutual

/-- An operand that begins with a token, of which the next token has been read too. With `skip`
nothing is worked out. -/
def primary (skip : Bool) : Nat → Token → Token → M Int
  | 0, _, _ => throw "expecting primary"
  | fuel + 1, t, after => do
    match t with
    | .opening =>
      let n ← assignment skip fuel after
      if (← last) ≠ .closing then throw "expecting ')'"
      setLast (← next)
      return n
    | .number n => setLast after; return n
    | .name s => setLast after; if skip then return 0 else valueOf s
    | .operator .add => primary skip fuel after (← next)
    | .operator .sub => return wrap (-(← primary skip fuel after (← next)))
    | .not => return truth ((← primary skip fuel after (← next)) = 0)
    | .bitNot => return -(← primary skip fuel after (← next)) - 1
    | _ => throw "expecting primary"

/-- Operators after a first operand, as long as they bind more tightly than a level. -/
def operators (skip : Bool) : Nat → Int → Operator → Nat → M Int
  | 0, _, _, _ => throw "expecting primary"
  | fuel + 1, a, o, level => do
    let t ← next
    let b ← primary skip fuel t (← next)
    let b ← match ← last with
      | .operator o' =>
        if o'.level < o.level then operators skip fuel b o' o.level else pure b
      | _ => pure b
    let a ← if skip then pure b else apply o a b
    match ← last with
    | .operator o' => if o'.level < level then operators skip fuel a o' level else return a
    | _ => return a

/-- Operands with operators between. -/
def binary (skip : Bool) : Nat → Token → Token → M Int
  | 0, _, _ => throw "expecting primary"
  | fuel + 1, t, after => do
    let a ← primary skip fuel t after
    match ← last with
    | .operator o => operators skip fuel a o 8
    | _ => return a

/-- A conjunction. -/
def conjunction (skip : Bool) : Nat → Token → Token → M Int
  | 0, _, _ => throw "expecting primary"
  | fuel + 1, t, after => do
    let a ← binary skip fuel t after
    if (← last) = .and then
      let t ← next
      let b ← conjunction (skip || a = 0) fuel t (← next)
      return truth (a ≠ 0 && b ≠ 0)
    else return a

/-- A disjunction. -/
def disjunction (skip : Bool) : Nat → Token → Token → M Int
  | 0, _, _ => throw "expecting primary"
  | fuel + 1, t, after => do
    let a ← conjunction skip fuel t after
    if (← last) = .or then
      let t ← next
      let b ← disjunction (skip || a ≠ 0) fuel t (← next)
      return truth (a ≠ 0 || b ≠ 0)
    else return a

/-- A choice by a condition. -/
def choice (skip : Bool) : Nat → Token → Token → M Int
  | 0, _, _ => throw "expecting primary"
  | fuel + 1, t, after => do
    let a ← disjunction skip fuel t after
    if (← last) = .question then
      let b ← assignment (skip || a = 0) fuel (← next)
      if (← last) ≠ .colon then throw "expecting ':'"
      let t ← next
      let c ← choice (skip || a ≠ 0) fuel t (← next)
      return if a ≠ 0 then b else c
    else return a

/-- A whole expression that begins with a token. -/
def assignment (skip : Bool) : Nat → Token → M Int
  | 0, _ => throw "expecting primary"
  | fuel + 1, t => do
    let after ← next
    let store := fun (name : Chars) (n : Int) => do
      if !skip then modify fun p => { p with writes := (name, n) :: p.writes }
      return n
    match t, after with
    | .name s, .assign => do
      let n ← assignment skip fuel (← next)
      store s n
    | .name s, .assignWith o => do
      let n ← assignment skip fuel (← next)
      if skip then return n
      store s (← apply o (← valueOf s) n)
    | _, _ => choice skip fuel t after

end

/-- The value of an expression and its assignments in order, or a message. -/
def evaluate (lookup : Chars → Option Chars) (s : Chars) :
    Except String (Int × List (Chars × Int)) :=
  let op : M Int := do
    let n ← assignment false (2 * s.length + 8) (← next)
    if (← last) ≠ .eof then throw "expecting EOF"
    return n
  match op ⟨s, .eof, lookup, []⟩ with
  | .ok n p => .ok (n, p.writes.reverse)
  | .error message _ =>
    if message.startsWith "Illegal" then .error message
    else .error s!"arithmetic expression: {message}: \"{Chars.toText s}\""

end SiteRuntime.Shell.Arithmetic
