import SiteRuntime.Shell.Syntax
import SiteRuntime.Text.Hexadecimal

/-!
# Escapes

Characters that are written with a backslash, as the commands that print know them. What `\c` ends
is told apart, because nothing is printed after it.
-/

namespace SiteRuntime.Shell

/-- The character that a letter after a backslash stands for. -/
def escapedLetter? : Char → Option Char
  | 'a' => some '\x07'
  | 'b' => some '\x08'
  | 'e' => some '\x1b'
  | 'f' => some '\x0c'
  | 'n' => some '\n'
  | 'r' => some '\r'
  | 't' => some '\t'
  | 'v' => some '\x0b'
  | '\\' => some '\\'
  | _ => none

/-- Whether a character is an octal digit. -/
def isOctal (c : Char) : Bool := '0' ≤ c && c ≤ '7'

/-- The byte that digits write, of which only the last eight bits count. -/
def byteOf (base : Nat) (digits : Chars) : Char :=
  Char.ofNat (digits.foldl (fun n c => base * n + (Text.hexDigit? c).getD 0) 0 % 256)

/-- At most a number of characters that satisfy a test, and what follows them. -/
def takeAtMost (p : Char → Bool) (most : Nat) (s : Chars) : Chars × Chars :=
  let digits := (s.take most).takeWhile p
  (digits, s.drop digits.length)

/-- A byte of at most three octal digits at the front of a text. -/
def readOctal (s : Chars) : Char × Chars :=
  let (digits, rest) := takeAtMost isOctal 3 s
  (byteOf 8 digits, rest)

/-- What an escape stands for after its backslash. -/
inductive Escaped where
  | char (c : Char) (rest : Chars)
  /-- Nothing that is known: the backslash stands for itself. -/
  | unknown
  /-- The end of what is printed. -/
  | stop

/-- Escapes of a format: octal digits and letters. -/
def formatEscape (s : Chars) : Escaped :=
  match s with
  | [] => .unknown
  | c :: rest =>
    if isOctal c then
      let (d, rest) := readOctal s
      .char d rest
    else
      match escapedLetter? c with
      | some d => .char d rest
      | none => .unknown

/-- Escapes of what the shell prints: octal digits may have a zero before them, and there is an
end. -/
def printedEscape (s : Chars) : Escaped :=
  match s with
  | 'c' :: _ => .stop
  | '0' :: rest =>
    let (d, rest) := readOctal rest
    .char d rest
  | _ => formatEscape s

/-- Escapes of the program that prints: hexadecimal digits too. -/
def programEscape (s : Chars) : Escaped :=
  match s with
  | 'x' :: rest =>
    match takeAtMost (fun c => (Text.hexDigit? c).isSome) 2 rest with
    | ([], _) => .unknown
    | (digits, rest) => .char (byteOf 16 digits) rest
  | _ => printedEscape s

/-- A text with its escapes replaced, and whether it goes on after that. Its length is bounded by
`fuel`. -/
def unescapeFrom (escape : Chars → Escaped) : Nat → Chars → Chars × Bool
  | 0, _ => ([], true)
  | _ + 1, [] => ([], true)
  | fuel + 1, c :: rest =>
    if c = '\\' then
      match escape rest with
      | .char d rest =>
        let (more, goesOn) := unescapeFrom escape fuel rest
        (d :: more, goesOn)
      | .unknown =>
        let (more, goesOn) := unescapeFrom escape fuel rest
        (c :: more, goesOn)
      | .stop => ([], false)
    else
      let (more, goesOn) := unescapeFrom escape fuel rest
      (c :: more, goesOn)

/-- A text with its escapes replaced, and whether it goes on after that. -/
def unescape (escape : Chars → Escaped) (s : Chars) : Chars × Bool :=
  unescapeFrom escape (s.length + 1) s

/-- Texts with blanks between and a line end at the end, with their escapes replaced. -/
def unescapeAll (escape : Chars → Escaped) (lineEnd : Bool) (args : List Chars) : Chars :=
  let (text, goesOn) := unescape escape ([' '].intercalate args)
  if goesOn && lineEnd then text ++ ['\n'] else text

end SiteRuntime.Shell
