import SiteRuntime.Json.Basic
import SiteRuntime.Text.Hexadecimal

/-!
# Reading JSON

`Json.read?` reads one value that fills the text, white space around it apart, and fails on
anything else. Numbers are read as they come: digits are collected in a word of 64 bits, and what
no longer fits makes the number a double whose further digits only count. A value nests at most
127 deep, a surrogate escape needs its partner, and control characters have to be escaped.

Every function here consumes a front part of the text and returns the rest; recursion into nested
values goes by the depth still allowed, recursion along items by the length of the text.
-/

namespace SiteRuntime.Json

/-- White space between tokens. -/
def isSpace (c : Char) : Bool := c = ' ' || c = '\n' || c = '\t' || c = '\r'

/-- The text after leading white space. -/
def skipSpace (s : List Char) : List Char := s.dropWhile isSpace

/-! ### Numbers -/

/-- The greatest significand that is collected exactly. -/
def maxSignificand : Nat := twoTo 64 - 1

/-- The greatest exponent that is read as a number. -/
def maxExponent : Nat := twoTo 31 - 1

/-- The value of a decimal digit. -/
def digit? (c : Char) : Option Nat :=
  if c.isDigit then some (c.toNat - '0'.toNat) else none

/-- Digits collected onto a number as long as it stays within a bound: the number, how many digits
were taken, and the rest, which begins with the first digit that did not fit if one did not. -/
def takeDigits (bound : Nat) (n taken : Nat) : List Char → Nat × Nat × List Char
  | [] => (n, taken, [])
  | c :: rest =>
    match digit? c with
    | none => (n, taken, c :: rest)
    | some d =>
      if 10 * n + d ≤ bound then takeDigits bound (10 * n + d) (taken + 1) rest
      else (n, taken, c :: rest)

/-- The text after leading digits, and how many there were. -/
def skipDigits (s : List Char) : Nat × List Char :=
  ((s.takeWhile Char.isDigit).length, s.dropWhile Char.isDigit)

/-- Whether a text begins with a digit. -/
def startsWithDigit : List Char → Bool
  | c :: _ => c.isDigit
  | [] => false

/-- A double of a sign, a significand and a power of ten. -/
def scaled? (negative : Bool) (significand : Nat) (k : Int) (rest : List Char) :
    Option (Number × List Char) :=
  (Binary64.ofScaled negative significand k).map fun x => (.double x, rest)

/-- The exponent part after its mark. An exponent too great to read makes zero of zero and of a
number with a negative exponent, and is refused otherwise. -/
def readExponent (negative : Bool) (significand : Nat) (k : Int) (s : List Char) :
    Option (Number × List Char) :=
  let (down, s) := match s with
    | '+' :: rest => (false, rest)
    | '-' :: rest => (true, rest)
    | _ => (false, s)
  if !startsWithDigit s then none
  else
    let (e, _, rest) := takeDigits maxExponent 0 0 s
    if startsWithDigit rest then
      if significand ≠ 0 ∧ !down then none
      else some (.double ⟨negative, 0, -1074⟩, (skipDigits rest).2)
    else scaled? negative significand (if down then k - e else k + e) rest

/-- What follows the digits of a number that is a double already. -/
def readTail (negative : Bool) (significand : Nat) (k : Int) (s : List Char) :
    Option (Number × List Char) :=
  match s with
  | c :: rest =>
    if c = 'e' ∨ c = 'E' then readExponent negative significand k rest
    else scaled? negative significand k s
  | [] => scaled? negative significand k s

/-- The digits after the point, with the power of ten that the digits before it stand for. Digits
that no longer fit are passed over. -/
def readFraction (negative : Bool) (significand : Nat) (k : Int) (s : List Char) :
    Option (Number × List Char) :=
  let (n, taken, rest) := takeDigits maxSignificand significand 0 s
  if startsWithDigit rest then readTail negative n (k - taken) (skipDigits rest).2
  else if taken = 0 then none
  else readTail negative n (k - taken) rest

/-- A number whose significand is full: the further digits before the point count. -/
def readLong (negative : Bool) (significand : Nat) (s : List Char) :
    Option (Number × List Char) :=
  let (count, rest) := skipDigits s
  match rest with
  | '.' :: rest => readFraction negative significand count rest
  | _ => readTail negative significand count rest

/-- A whole number that fits, or the double it becomes: minus zero, and what is below -2^63. -/
def ofWhole (negative : Bool) (n : Nat) : Option Number :=
  if !negative then some (.whole n)
  else if n ≠ 0 ∧ n ≤ twoTo 63 then some (.whole (-(n : Int)))
  else (Binary64.ofScaled true n 0).map .double

/-- What follows the leading digits of a number. -/
def readAfterWhole (negative : Bool) (n : Nat) (s : List Char) : Option (Number × List Char) :=
  match s with
  | '.' :: rest => readFraction negative n 0 rest
  | c :: rest =>
    if c = 'e' ∨ c = 'E' then readExponent negative n 0 rest
    else (ofWhole negative n).map fun v => (v, s)
  | [] => (ofWhole negative n).map fun v => (v, s)

/-- A number without its sign. -/
def readMagnitude (negative : Bool) (s : List Char) : Option (Number × List Char) :=
  match s with
  | '0' :: rest => if startsWithDigit rest then none else readAfterWhole negative 0 rest
  | _ =>
    if !startsWithDigit s then none
    else
      let (n, _, rest) := takeDigits maxSignificand 0 0 s
      if startsWithDigit rest then readLong negative n rest else readAfterWhole negative n rest

/-- A number. -/
def readNumber : List Char → Option (Number × List Char)
  | '-' :: rest => readMagnitude true rest
  | s => readMagnitude false s

/-! ### Strings -/

/-- The number that four hexadecimal digits write. -/
def readHex4 : List Char → Option (Nat × List Char)
  | a :: b :: c :: d :: rest => do
    let a ← Text.hexDigit? a
    let b ← Text.hexDigit? b
    let c ← Text.hexDigit? c
    let d ← Text.hexDigit? d
    some (4096 * a + 256 * b + 16 * c + d, rest)
  | _ => none

/-- The character that a `u` escape writes: one code point, or a surrogate and its partner. -/
def readCodePoint (s : List Char) : Option (Char × List Char) := do
  let (n, rest) ← readHex4 s
  if 0xDC00 ≤ n ∧ n ≤ 0xDFFF then none
  else if 0xD800 ≤ n ∧ n ≤ 0xDBFF then
    match rest with
    | '\\' :: 'u' :: rest => do
      let (low, rest) ← readHex4 rest
      if 0xDC00 ≤ low ∧ low ≤ 0xDFFF then
        some (Char.ofNat (0x10000 + 1024 * (n - 0xD800) + (low - 0xDC00)), rest)
      else none
    | _ => none
  else some (Char.ofNat n, rest)

/-- The character that a one-letter escape writes. -/
def simpleEscape? : Char → Option Char
  | '"' => some '"'
  | '\\' => some '\\'
  | '/' => some '/'
  | 'b' => some '\x08'
  | 'f' => some '\x0c'
  | 'n' => some '\n'
  | 'r' => some '\r'
  | 't' => some '\t'
  | _ => none

/-- The rest of a string after its opening quote; `fuel` bounds the number of characters. -/
def readChars : Nat → List Char → Option (List Char × List Char)
  | 0, _ => none
  | _, [] => none
  | fuel + 1, c :: rest =>
    if c = '"' then some ([], rest)
    else if c.toNat < 0x20 then none
    else if c = '\\' then
      match rest with
      | 'u' :: rest => do
        let (x, rest) ← readCodePoint rest
        let (xs, rest) ← readChars fuel rest
        some (x :: xs, rest)
      | e :: rest => do
        let x ← simpleEscape? e
        let (xs, rest) ← readChars fuel rest
        some (x :: xs, rest)
      | [] => none
    else do
      let (xs, rest) ← readChars fuel rest
      some (c :: xs, rest)

/-- A string after its opening quote. -/
def readString (s : List Char) : Option (String × List Char) :=
  (readChars (s.length + 1) s).map fun r => (String.ofList r.1, r.2)

/-! ### Values -/

/-- Items up to the closing bracket, the first of them at the front of the text. -/
def readItems (item : List Char → Option (Json × List Char)) :
    Nat → List Char → Option (List Json × List Char)
  | 0, _ => none
  | fuel + 1, s => do
    let (v, rest) ← item (skipSpace s)
    match skipSpace rest with
    | ']' :: rest => some ([v], rest)
    | ',' :: rest =>
      let (vs, rest) ← readItems item fuel rest
      some (v :: vs, rest)
    | _ => none

/-- Members up to the closing brace, the first of them at the front of the text. -/
def readMembers (item : List Char → Option (Json × List Char)) :
    Nat → List Char → Option (List (String × Json) × List Char)
  | 0, _ => none
  | fuel + 1, s =>
    match skipSpace s with
    | '"' :: rest => do
      let (name, rest) ← readString rest
      match skipSpace rest with
      | ':' :: rest =>
        let (v, rest) ← item (skipSpace rest)
        match skipSpace rest with
        | '}' :: rest => some ([(name, v)], rest)
        | ',' :: rest =>
          let (ms, rest) ← readMembers item fuel rest
          some ((name, v) :: ms, rest)
        | _ => none
      | _ => none
    | _ => none

/-- A value at the front of a text without leading white space, nesting less deep than given. -/
def readValue : Nat → List Char → Option (Json × List Char)
  | _, 'n' :: 'u' :: 'l' :: 'l' :: rest => some (.null, rest)
  | _, 't' :: 'r' :: 'u' :: 'e' :: rest => some (.bool true, rest)
  | _, 'f' :: 'a' :: 'l' :: 's' :: 'e' :: rest => some (.bool false, rest)
  | _, '"' :: rest => (readString rest).map fun r => (.string r.1, r.2)
  | 0, _ => none
  | depth + 1, '[' :: rest =>
    if depth = 0 then none
    else
      match skipSpace rest with
      | ']' :: rest => some (.array [], rest)
      | rest => (readItems (readValue depth) rest.length rest).map fun r => (.array r.1, r.2)
  | depth + 1, '{' :: rest =>
    if depth = 0 then none
    else
      match skipSpace rest with
      | '}' :: rest => some (.object [], rest)
      | rest =>
        (readMembers (readValue depth) rest.length rest).map fun r => (ofMembers r.1, r.2)
  | _, s => (readNumber s).map fun r => (.number r.1, r.2)

/-- How deep values may nest, plus one. -/
def depthLimit : Nat := 128

/-- The value that a text writes. -/
def read? (s : String) : Option Json := do
  let (v, rest) ← readValue depthLimit (skipSpace s.toList)
  if (skipSpace rest).isEmpty then some v else none

end SiteRuntime.Json
