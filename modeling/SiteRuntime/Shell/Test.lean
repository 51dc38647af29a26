import SiteRuntime.Shell.Number
import SiteRuntime.Shell.State

/-!
# Conditions

The builtin that tells whether a condition holds. Its arguments are read as an expression with
operators before one operand and between two; with few arguments, an argument that could be an
operator is taken as an operand where the expression would make no sense otherwise.
-/

namespace SiteRuntime.Shell.Test

/-- What an argument can be. -/
inductive Operator where
  /-- Before one operand. -/
  | unary (letter : Char)
  /-- Between two operands. -/
  | binary (name : String)
  | not
  | and
  | or
  | opening
  | closing
  deriving DecidableEq, Repr

/-- The letters of operators before one operand. -/
def unaryLetters : List Char :=
  ['r', 'w', 'x', 'e', 'f', 'd', 'c', 'b', 'p', 'u', 'g', 'k', 's', 't', 'z', 'n', 'h', 'O', 'G',
    'L', 'S']

/-- The operators between two operands. -/
def binaryNames : List String :=
  ["=", "!=", "<", ">", "-eq", "-ne", "-ge", "-gt", "-le", "-lt", "-nt", "-ot", "-ef"]

/-- The operator that an argument can be. -/
def operator? (a : Chars) : Option Operator :=
  match a with
  | ['!'] => some .not
  | ['('] => some .opening
  | [')'] => some .closing
  | ['-', 'a'] => some .and
  | ['-', 'o'] => some .or
  | ['-', c] => if unaryLetters.contains c then some (.unary c) else none
  | _ =>
    let name := String.ofList a
    if binaryNames.contains name then some (.binary name) else none

/-- Whether an argument stands between two operands. -/
def isBinary (a : Chars) : Bool :=
  match operator? a with
  | some (.binary _) => true
  | _ => false

/-- Whether an argument before one operand is an operand itself. -/
def isOperand (rest : List Chars) : Bool :=
  match rest with
  | [] => true
  | [_] => false
  | a :: _ => isBinary a

/-- The operator at the front of arguments, unless it is an operand. -/
def lead? : List Chars → Option Operator
  | [] => none
  | a :: rest =>
    match operator? a with
    | some (.unary c) => if isOperand rest then none else some (.unary c)
    | some .opening => if rest.isEmpty then none else some .opening
    | o => o

/-! ### Operands -/

/-- The whole number that an operand is. -/
def number (a : Chars) : M Int :=
  match integerArgument? a with
  | some n => return n
  | none => fail s!"Illegal number: {Chars.toText a}"

/-- What stands at a path. -/
def entry? (path : Chars) : M (Option Entry) := do
  match (← get).resolve path with
  | .ok (_, e) => return some e
  | .error _ => return none

/-- The paths of devices. -/
def devices : List String :=
  ["/dev/null", "/dev/zero", "/dev/full", "/dev/random", "/dev/urandom", "/dev/tty"]

/-- What an operator says of one operand. -/
def holdsOfOne (letter : Char) (a : Chars) : M Bool := do
  match letter with
  | 'n' => return !a.isEmpty
  | 'z' => return a.isEmpty
  | 't' => let _ ← number a; return false
  | _ =>
    if devices.contains (String.ofList a) then return ['c', 'e', 'r', 'w'].contains letter
    match ← entry? a with
    | none => return false
    | some e =>
      match letter, e with
      | 'f', .file _ _ => return true
      | 'd', .directory => return true
      | 's', .file content _ => return !content.isEmpty
      | 's', .directory => return true
      | 'x', .file _ executable => return executable
      | c, _ => return ['r', 'w', 'x', 'e', 'O', 'G'].contains c

/-- Whether two paths lead to the same place. -/
def sameFile (a b : Chars) : M Bool := do
  let s ← get
  match s.resolve a, s.resolve b with
  | .ok (p, _), .ok (q, _) => return p = q
  | _, _ => return false

/-- The comparison of whole numbers that an operator makes. -/
def comparison? : String → Option (Int → Int → Bool)
  | "-eq" => some fun a b => a = b
  | "-ne" => some fun a b => a ≠ b
  | "-ge" => some fun a b => b ≤ a
  | "-gt" => some fun a b => b < a
  | "-le" => some fun a b => a ≤ b
  | "-lt" => some fun a b => a < b
  | _ => none

/-- What an operator says of two operands. -/
def holdsOfTwo (name : String) (a b : Chars) : M Bool := do
  match comparison? name with
  | some compares =>
    let a ← number a
    let b ← number b
    return compares a b
  | none =>
    match name with
    | "=" => return a = b
    | "!=" => return a ≠ b
    | "<" => return (compare a b).isLT
    | ">" => return (compare a b).isGT
    | "-ef" => sameFile a b
    | _ => return false

/-! ### Expressions -/

mutual

/-- A condition without `-a` and `-o`, and the arguments after it. -/
def primary : Nat → List Chars → M (Bool × List Chars)
  | 0, _ => return (false, [])
  | fuel + 1, args => do
    match args with
    | [] => return (false, [])
    | a :: rest =>
      match lead? args with
      | some .not =>
        let (holds, rest) ← primary fuel rest
        return (!holds, rest)
      | some .opening =>
        if lead? rest = some .closing then return (false, rest.drop 1)
        else
          let (holds, rest) ← disjunction fuel rest
          if lead? rest = some .closing then return (holds, rest.drop 1)
          else fail "closing paren expected"
      | some (.unary c) =>
        match rest with
        | b :: rest => return (← holdsOfOne c b, rest)
        | [] => fail s!"{Chars.toText a}: argument expected"
      | _ =>
        match lead? rest with
        | some (.binary name) =>
          match rest.drop 1 with
          | b :: rest => return (← holdsOfTwo name a b, rest)
          | [] => fail s!"{name}: argument expected"
        | _ => return (!a.isEmpty, rest)

/-- Conditions that have to hold together. -/
def conjunction : Nat → List Chars → M (Bool × List Chars)
  | 0, _ => return (false, [])
  | fuel + 1, args => do
    let (holds, rest) ← primary fuel args
    if lead? rest = some .and then
      let (more, rest) ← conjunction fuel (rest.drop 1)
      return (holds && more, rest)
    else return (holds, rest)

/-- Conditions of which one has to hold. -/
def disjunction : Nat → List Chars → M (Bool × List Chars)
  | 0, _ => return (false, [])
  | fuel + 1, args => do
    let (holds, rest) ← conjunction fuel args
    if lead? rest = some .or then
      let (more, rest) ← disjunction fuel (rest.drop 1)
      return (holds || more, rest)
    else return (holds, rest)

end

/-- Whether an expression holds; all arguments have to belong to it. -/
def expression (args : List Chars) (plain : Bool) : M Bool := do
  let fuel := 4 * args.length + 8
  let (holds, rest) ←
    if plain then
      match args with
      | [a, name, b] => pure (← holdsOfTwo (String.ofList name) a b, [])
      | _ => disjunction fuel args
    else disjunction fuel args
  if rest.isEmpty then return holds
  else
    match (args[args.length - rest.length - 1]?).getD [] with
    | [] => fail "unexpected operator"
    | a => fail s!"{Chars.toText a}: unexpected operator"

/-- Whether the condition of arguments holds. Up to four of them are told by their number first. -/
def holds : List Chars → M Bool
  | [] => return false
  | args@(first :: rest) => do
    if args.length = 3 && (rest.head?.any isBinary) then expression args true
    else if args.length = 3 || args.length = 4 then
      if first = ['('] && args.getLast? = some [')'] then expression rest.dropLast false
      else if first = ['!'] then return !(← holds rest)
      else expression args false
    else expression args false

/-- The exit code of a condition. -/
def run (args : List Chars) : M Nat := do return if ← holds args then 0 else 1

end SiteRuntime.Shell.Test
