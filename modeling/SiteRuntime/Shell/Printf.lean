import SiteRuntime.Shell.Escape
import SiteRuntime.Shell.Number
import SiteRuntime.Shell.State

/-!
# Formatted printing

The builtin that prints its arguments as a format says. The format is used again as long as it takes
arguments and some are left; arguments that are missing are empty or zero.
-/

namespace SiteRuntime.Shell.Printf

/-- A number in a directive: a given one or the next argument. -/
inductive Amount where
  | given (n : Nat)
  | argument
  deriving DecidableEq, Repr

/-- A part of a format. -/
inductive Item where
  | text (s : Chars)
  /-- An argument with flags, a width, a precision and what is made of it. -/
  | directive (flags : List Char) (width precision : Option Amount) (conversion : Char)
  /-- A directive that is not known, by its text, or one cut short. -/
  | bad (directive : Option Chars)
  deriving DecidableEq, Repr

/-- The number of a directive at the front of a format. -/
def takeAmount (s : Chars) : Option Amount × Chars :=
  match s with
  | '*' :: rest => (some .argument, rest)
  | _ =>
    match takeDigits 10 s with
    | ([], _) => (none, s)
    | (digits, rest) => (some (.given (digitsNumber 10 digits)), rest)

/-- What can be made of an argument. -/
def conversions : List Char :=
  ['b', 'c', 's', 'd', 'i', 'o', 'u', 'x', 'X', 'e', 'E', 'f', 'F', 'g', 'G']

/-- A directive after its sign, and what follows it. -/
def readDirective (s : Chars) : Item × Chars :=
  let flags := s.takeWhile ['#', '-', '+', ' ', '0'].contains
  let (width, rest) := takeAmount (s.drop flags.length)
  let (precision, rest) := match rest with
    | '.' :: rest =>
      let (p, rest) := takeAmount rest
      (some (p.getD (.given 0)), rest)
    | rest => (none, rest)
  match rest with
  | [] => (.bad none, [])
  | c :: rest =>
    if conversions.contains c then (.directive flags width precision c, rest)
    else (.bad (some (s.take (s.length - rest.length))), rest)

/-- The items of a format; `fuel` bounds its length. -/
def readItems : Nat → Chars → List Item
  | 0, _ => []
  | _ + 1, [] => []
  | fuel + 1, '%' :: '%' :: rest => .text ['%'] :: readItems fuel rest
  | fuel + 1, '%' :: rest =>
    let (item, rest) := readDirective rest
    item :: readItems fuel rest
  | fuel + 1, '\\' :: rest =>
    match formatEscape rest with
    | .char c rest => .text [c] :: readItems fuel rest
    | _ => .text ['\\'] :: readItems fuel rest
  | fuel + 1, c :: rest => .text [c] :: readItems fuel rest

/-- Printing under way. -/
structure Progress where
  /-- The arguments ahead. -/
  rest : List Chars
  /-- What is to be printed. -/
  text : Chars
  /-- The exit code. -/
  code : Nat
  /-- Whether the end has been asked for. -/
  stopped : Bool

/-- The next argument, if there is one. -/
def Progress.next (p : Progress) : Option Chars × Progress :=
  match p.rest with
  | a :: rest => (some a, { p with rest })
  | [] => (none, p)

/-- Says what is wrong with an argument. -/
def Progress.warn (p : Progress) (argument : Chars) (message : String) : M Progress := do
  complain s!"{Chars.toText argument}: {message}"
  return { p with code := 1 }

/-- The next argument as a whole number between bounds. -/
def nextInteger (p : Progress) (least most : Int) : M (Int × Progress) := do
  match p.next with
  | (none, p) => return (0, p)
  | (some a, p) =>
    match a with
    | quote :: c :: _ => if quote = '"' || quote = '\'' then return (c.toNat, p)
    | _ => pure ()
    match leadingInteger true a with
    | none => if a.isEmpty then return (0, p) else return (0, ← p.warn a "expected numeric value")
    | some (n, rest) =>
      if n < least || most < n then
        return (max least (min most n), ← p.warn a "Numerical result out of range")
      else if rest.isEmpty then return (n, p)
      else return (n, ← p.warn a "not completely converted")

/-- The least and the greatest number with a sign. -/
def signedBounds : Int × Int := (-(twoTo 63 : Int), twoTo 63 - 1)

/-- The bounds of numbers without sign; a negative one wraps around. -/
def unsignedBounds : Int × Int := (1 - (twoTo 64 : Int), twoTo 64 - 1)

/-- The next argument as a number with a fraction. -/
def nextRatio (p : Progress) : M (Option Ratio × Progress) := do
  match p.next with
  | (none, p) => return (some ⟨false, 0, 1⟩, p)
  | (some a, p) =>
    match a with
    | quote :: c :: _ => if quote = '"' || quote = '\'' then return (some ⟨false, c.toNat, 1⟩, p)
    | _ => pure ()
    match leadingFraction a with
    | none =>
      let zero : Option Ratio := some ⟨false, 0, 1⟩
      if a.isEmpty then return (zero, p) else return (zero, ← p.warn a "expected numeric value")
    | some (r, rest) =>
      match r.rounded with
      | none => return (none, ← p.warn a "Numerical result out of range")
      | some r =>
        if rest.isEmpty then return (some r, p)
        else return (some r, ← p.warn a "not completely converted")

/-- The value of a number in a directive. -/
def amount (p : Progress) : Option Amount → M (Option Int × Progress)
  | none => return (none, p)
  | some (.given n) => return (some n, p)
  | some .argument => do
    let (n, p) ← nextInteger p (-(twoTo 31 : Int)) (twoTo 31 - 1)
    return (some n, p)

/-- A text set in a width. -/
def padded (flags : List Char) (width : Int) (s : Chars) : Chars :=
  let blanks := List.replicate (width.natAbs - s.length) ' '
  if flags.contains '-' || width < 0 then s ++ blanks else blanks ++ s

/-- The sign of a number. -/
def signText (flags : List Char) (negative : Bool) : Chars :=
  if negative then ['-']
  else if flags.contains '+' then ['+']
  else if flags.contains ' ' then [' ']
  else []

/-- Digits after a sign set in a width; with `zeros` the width is filled with zeros. -/
def paddedNumber (flags : List Char) (zeros : Bool) (width : Int) (sign digits : Chars) : Chars :=
  if zeros && flags.contains '0' && !flags.contains '-' && 0 ≤ width then
    sign ++ zeroPadded (width.natAbs - sign.length) digits
  else padded flags width (sign ++ digits)

/-- The digits of a number to a base. -/
def baseDigits (base n : Nat) : Chars := Nat.toDigits base n

/-- The digits of a whole number with at least as many as a precision says. -/
def preciseDigits (precision : Option Int) (base n : Nat) : Chars :=
  match precision with
  | some (Int.ofNat k) => if n = 0 && k = 0 then [] else zeroPadded k (baseDigits base n)
  | _ => baseDigits base n

/-- A number without sign to a base. -/
def unsignedText (flags : List Char) (width : Int) (precision : Option Int) (conversion : Char)
    (n : Nat) : Chars :=
  let base := match conversion with
    | 'o' => 8
    | 'u' => 10
    | _ => 16
  let digits := preciseDigits precision base n
  let marked := flags.contains '#'
  let sign := if marked && base = 16 && n ≠ 0 then ['0', 'x'] else []
  let digits :=
    if marked && base = 8 && digits.head? ≠ some '0' then '0' :: digits else digits
  let text := paddedNumber flags precision.isNone width sign digits
  if conversion = 'X' then text.map Char.toUpper else text

/-- A number with a fraction. -/
def fractionText (flags : List Char) (width : Int) (precision : Option Int) (conversion : Char)
    (r : Option Ratio) : Chars :=
  let places := match precision with
    | some (Int.ofNat k) => k
    | _ => 6
  let marked := flags.contains '#'
  let text := match r with
    | none => padded flags width ("inf".toList)
    | some r =>
      let digits := match conversion.toLower with
        | 'f' => r.fixed places marked
        | 'e' => r.scientific 'e' places marked
        | _ => r.general 'e' places marked
      paddedNumber flags true width (signText flags r.negative) digits
  if conversion.isUpper then text.map Char.toUpper else text

/-- A text cut to a precision. -/
def cut (precision : Option Int) (s : Chars) : Chars :=
  match precision with
  | some (Int.ofNat k) => s.take k
  | _ => s

/-- Does what a directive says. -/
def convert (flags : List Char) (width precision : Option Amount) (conversion : Char)
    (p : Progress) : M Progress := do
  let (width, p) ← amount p width
  let (precision, p) ← amount p precision
  let width := width.getD 0
  let add := fun (p : Progress) (s : Chars) => { p with text := p.text ++ s }
  match conversion with
  | 'b' =>
    let (a, p) := p.next
    let (s, goesOn) := unescape printedEscape (a.getD [])
    return { add p (padded flags width (cut precision s)) with stopped := !goesOn }
  | 'c' =>
    let (a, p) := p.next
    return add p (padded flags width [(a.getD []).headD '\x00'])
  | 's' =>
    let (a, p) := p.next
    return add p (padded flags width (cut precision (a.getD [])))
  | 'd' => signed p width precision
  | 'i' => signed p width precision
  | c =>
    if ['o', 'u', 'x', 'X'].contains c then
      let (n, p) ← nextInteger p unsignedBounds.1 unsignedBounds.2
      return add p (unsignedText flags width precision c (n % (twoTo 64 : Int)).toNat)
    else
      let (r, p) ← nextRatio p
      return add p (fractionText flags width precision c r)
where
  /-- A whole number with a sign. -/
  signed (p : Progress) (width : Int) (precision : Option Int) : M Progress := do
    let (n, p) ← nextInteger p signedBounds.1 signedBounds.2
    let digits := preciseDigits precision 10 n.natAbs
    let sign := signText flags (n < 0)
    return { p with text := p.text ++ paddedNumber flags precision.isNone width sign digits }

/-- Prints what there is to print. -/
def flush (p : Progress) : M Unit := do
  let _ ← printChars p.text

/-- Does what items say. -/
def useItems : List Item → Progress → M Progress
  | [], p => return p
  | item :: rest, p => do
    if p.stopped then return p
    match item with
    | .text s => useItems rest { p with text := p.text ++ s }
    | .directive flags width precision conversion =>
      useItems rest (← convert flags width precision conversion p)
    | .bad none => flush p; fail "missing format character"
    | .bad (some d) => flush p; fail s!"%{Chars.toText d}: invalid directive"

/-- Uses a format as long as it takes arguments and some are left; `fuel` bounds how often. -/
def useFormat (items : List Item) : Nat → Progress → M Progress
  | 0, p => return p
  | fuel + 1, p => do
    let after ← useItems items p
    if after.stopped || after.rest.isEmpty || after.rest.length = p.rest.length then return after
    else useFormat items fuel after

/-- Prints arguments as a format says. -/
def run (format : Chars) (args : List Chars) : M Nat := do
  let items := readItems (format.length + 1) format
  let p ← useFormat items (args.length + 1) ⟨args, [], 0, false⟩
  flush p
  return p.code

end SiteRuntime.Shell.Printf
