import SiteRuntime.Binary64
import SiteRuntime.Shell.Syntax
import SiteRuntime.Text.Hexadecimal

/-!
# Numbers in commands

How commands read numbers from their arguments and write them. A number at the front of an argument
is read as far as it goes; what is left tells whether the argument is one.
-/

namespace SiteRuntime.Shell

/-- White space of ASCII. -/
def isAsciiSpace (c : Char) : Bool := c = ' ' || ('\t' ≤ c && c ≤ '\r')

/-- Digits to a base at the front of a text. -/
def takeDigits (base : Nat) (s : Chars) : Chars × Chars :=
  let digits := s.takeWhile fun c => (Text.hexDigit? c).any (· < base)
  (digits, s.drop digits.length)

/-- The number that digits to a base write. -/
def digitsNumber (base : Nat) (digits : Chars) : Nat :=
  digits.foldl (fun n c => base * n + (Text.hexDigit? c).getD 0) 0

/-- The sign at the front of a text: whether it is a minus. -/
def takeSign : Chars → Bool × Chars
  | '-' :: rest => (true, rest)
  | '+' :: rest => (false, rest)
  | s => (false, s)

/-- A whole number at the front of an argument, after white space, with what follows it. With
`literal` it may be hexadecimal or octal. Nothing follows an argument without a number. -/
def leadingInteger (literal : Bool) (s : Chars) : Option (Int × Chars) :=
  let (negative, s) := takeSign (s.dropWhile isAsciiSpace)
  let (base, digits, rest) := match s with
    | '0' :: x :: d :: rest =>
      if literal && (x = 'x' || x = 'X') && (Text.hexDigit? d).isSome then
        (16, takeDigits 16 (d :: rest))
      else if literal then (8, takeDigits 8 s)
      else (10, takeDigits 10 s)
    | '0' :: _ => (if literal then 8 else 10, takeDigits (if literal then 8 else 10) s)
    | _ => (10, takeDigits 10 s)
  if digits.isEmpty then none
  else
    let n := digitsNumber base digits
    some (if negative then -n else n, rest)

/-- A whole number of 64 bits as an argument, with white space around it. -/
def integerArgument? (s : Chars) : Option Int :=
  match leadingInteger false s with
  | some (n, rest) =>
    if rest.all isAsciiSpace && -(twoTo 63 : Int) ≤ n && n < twoTo 63 then some n else none
  | none => none

/-- A count as an argument: a whole number of 31 bits without sign. -/
def countArgument? (s : Chars) : Option Nat :=
  match integerArgument? s with
  | some n => if 0 ≤ n && n < twoTo 31 then some n.toNat else none
  | none => none

/-! ### Decimal fractions -/

/-- A quotient that is not negative, with its sign. -/
structure Ratio where
  negative : Bool
  num : Nat
  /-- Greater than zero. -/
  den : Nat

/-- The greatest exponent that is worked out. -/
def mostExponent : Nat := 5000

/-- An exponent after its letter at the front of a text, if there is one. -/
def takeExponent (letters : List Char) (s : Chars) : Int × Chars :=
  match s with
  | e :: rest =>
    if letters.contains e then
      let (negative, digits) := takeSign rest
      match takeDigits 10 digits with
      | ([], _) => (0, s)
      | (digits, rest) =>
        let n := min (digitsNumber 10 digits) mostExponent
        (if negative then -n else n, rest)
    else (0, s)
  | [] => (0, s)

/-- A number with a fraction and an exponent at the front of an argument, to base ten or sixteen. -/
def leadingFraction (s : Chars) : Option (Ratio × Chars) :=
  let (negative, s) := takeSign (s.dropWhile isAsciiSpace)
  let (base, scale, letters, s') := match s with
    | '0' :: x :: rest =>
      if x = 'x' || x = 'X' then (16, 2, ['p', 'P'], rest) else (10, 10, ['e', 'E'], s)
    | _ => (10, 10, ['e', 'E'], s)
  let (whole, rest) := takeDigits base s'
  let (places, rest) := match rest with
    | '.' :: rest => takeDigits base rest
    | rest => ([], rest)
  if whole.isEmpty && places.isEmpty then
    if base = 16 then some (⟨negative, 0, 1⟩, s.drop 1) else none
  else
    let (exponent, rest) := takeExponent letters
      (if places.isEmpty && whole.length = s'.length then [] else rest)
    let num := digitsNumber base (whole ++ places)
    let den := Nat.pow base places.length
    let factor := Nat.pow scale exponent.natAbs
    some (if exponent < 0 then ⟨negative, num, den * factor⟩ else ⟨negative, num * factor, den⟩,
      rest)

/-- The double nearest to a quotient, as a quotient; none if it is too great. -/
def Ratio.rounded (r : Ratio) : Option Ratio :=
  if r.num = 0 then some r
  else (Binary64.ofRatio r.num r.den).map fun (m, e) =>
    let (num, den) := Binary64.ratio m e
    ⟨r.negative, num, den⟩

/-- Digits with zeros before them up to a length. -/
def zeroPadded (length : Nat) (digits : Chars) : Chars :=
  List.replicate (length - digits.length) '0' ++ digits

/-- A quotient with a number of decimal places; `point` asks for a point without places too. -/
def Ratio.fixed (r : Ratio) (places : Nat) (point : Bool) : Chars :=
  let n := Binary64.divNearest (r.num * tenTo places) r.den
  let digits := zeroPadded (places + 1) (toString n).toList
  let whole := digits.length - places
  digits.take whole ++ (if places = 0 && !point then [] else '.' :: digits.drop whole)

/-- The leading digits of a quotient, of which one stands before the point, and its power of ten. -/
def Ratio.leading (r : Ratio) (places : Nat) : Chars × Int :=
  if r.num = 0 then (List.replicate (places + 1) '0', 0)
  else
    let e := Binary64.decimalExponent r.num r.den
    let shift : Int := places - e
    let n :=
      if 0 ≤ shift then Binary64.divNearest (r.num * tenTo shift.toNat) r.den
      else Binary64.divNearest r.num (r.den * tenTo (-shift).toNat)
    if n < tenTo (places + 1) then ((toString n).toList, e)
    else ((toString (n / 10)).toList, e + 1)

/-- The sign and at least two digits of an exponent. -/
def exponentText (letter : Char) (e : Int) : Chars :=
  letter :: (if e < 0 then '-' else '+') :: zeroPadded 2 (toString e.natAbs).toList

/-- A quotient with an exponent. -/
def Ratio.scientific (r : Ratio) (letter : Char) (places : Nat) (point : Bool) : Chars :=
  let (digits, e) := r.leading places
  digits.take 1 ++ (if places = 0 && !point then [] else '.' :: digits.drop 1) ++
    exponentText letter e

/-- A fraction without the zeros at its end. -/
def dropLastZeros (s : Chars) : Chars :=
  let kept := (s.reverse.dropWhile (· = '0')).reverse
  if kept.getLast? = some '.' then kept.dropLast else kept

/-- A quotient with a number of digits that count, with an exponent if it is very great or very
small. -/
def Ratio.general (r : Ratio) (letter : Char) (digits : Nat) (zeros : Bool) : Chars :=
  let digits := max digits 1
  let (leading, e) := r.leading (digits - 1)
  if -4 ≤ e && e < digits then
    let text := r.fixed (digits - 1 - e).toNat zeros
    if zeros || !text.contains '.' then text else dropLastZeros text
  else
    let fraction := leading.take 1 ++ '.' :: leading.drop 1
    (if zeros then fraction else dropLastZeros fraction) ++ exponentText letter e

end SiteRuntime.Shell
