import SiteRuntime.Power
import SiteRuntime.Text.Blank
import SiteRuntime.Text.Quoted

/-!
# Durations

A duration is written as numbers with units, such as `1h 30min` or `1.5s`, and counted in
nanoseconds. Positions in messages are counted in bytes.
-/

namespace SiteRuntime

/-- A span of time in nanoseconds. -/
structure Duration where
  /-- The number of nanoseconds. -/
  nanos : Nat
  deriving DecidableEq, Repr

namespace Duration

/-- Why a text is no duration. -/
inductive ReadError where
  | empty
  | numberExpected (position : Nat)
  | invalidCharacter (position : Nat)
  /-- A number without a unit. -/
  | unitNeeded (number : Nat)
  | unknownUnit (unit : String)
  | overflow
  deriving DecidableEq, Repr

/-- The text of a problem. -/
def ReadError.message : ReadError → String
  | .empty => "value was empty"
  | .numberExpected n => s!"expected number at {n}"
  | .invalidCharacter n => s!"invalid character at {n}"
  | .unitNeeded n => s!"time unit needed, for example {n}sec or {n}ms"
  | .unknownUnit unit =>
    s!"unknown time unit {Text.quoted unit}, supported units: ns, us/µs, ms, sec, min, " ++
      "hours, days, weeks, months, years (and few variations)"
  | .overflow =>
    "number is too large or cannot be represented without a lack of precision " ++
      "(values below 1ns are not supported)"

/-- The length of a second in nanoseconds. -/
def second : Nat := 1000000000

/-- The length of a unit in nanoseconds. -/
def unitLength? (unit : String) : Option Nat :=
  if ["nanos", "nsec", "ns"].contains unit then some 1
  else if ["usec", "us", "µs"].contains unit then some 1000
  else if ["millis", "msec", "ms"].contains unit then some 1000000
  else if ["seconds", "second", "secs", "sec", "s"].contains unit then some second
  else if ["minutes", "minute", "min", "mins", "m"].contains unit then some (60 * second)
  else if ["hours", "hour", "hr", "hrs", "h"].contains unit then some (3600 * second)
  else if ["days", "day", "d"].contains unit then some (86400 * second)
  else if ["weeks", "week", "wk", "wks", "w"].contains unit then some (604800 * second)
  else if ["months", "month", "M"].contains unit then some (2630016 * second)
  else if ["years", "year", "yr", "yrs", "y"].contains unit then some (31557600 * second)
  else none

/-- The least number that is too large. -/
def bound : Nat := twoTo 64

/-- A number that is not too large. -/
def bounded (n : Nat) : Except ReadError Nat := if n < bound then .ok n else .error .overflow

/-- The value of a digit. -/
def digitOf? (c : Char) : Option Nat := if c.isDigit then some (c.toNat - '0'.toNat) else none

/-- Whether a character can stand in a unit. -/
def isUnitChar (c : Char) : Bool := c.isAlpha || c = 'µ'

/-- A part of a number after the point. -/
structure Fraction where
  /-- The digits as a number. -/
  numerator : Nat
  /-- Ten to the number of digits. -/
  denominator : Nat

/-- A text with the position of its first character. -/
abbrev Rest := List Char × Nat

/-- The position after a character. -/
def after (c : Char) (position : Nat) : Nat := position + c.utf8Size

/-- The first digit of a number after white space, if the text goes on. -/
def readFirst : List Char → Nat → Except ReadError (Option (Nat × Rest))
  | [], _ => .ok none
  | c :: rest, position =>
    match digitOf? c with
    | some d => .ok (some (d, rest, after c position))
    | none =>
      if Text.isBlank c then readFirst rest (after c position)
      else .error (.numberExpected position)

/-- The digits after a point, up to a unit. What comes directly behind the point is reported at
`mark`, the position of the point. -/
def readFraction (f : Fraction) (mark : Nat) :
    List Char → Nat → Except ReadError (Fraction × Rest)
  | [], position =>
    if f.denominator = 1 then .error (.invalidCharacter mark) else .ok (f, [], position)
  | c :: rest, position => do
    match digitOf? c with
    | some d =>
      let f := ⟨← bounded (10 * f.numerator + d), ← bounded (10 * f.denominator)⟩
      readFraction f (after c position) rest (after c position)
    | none =>
      if Text.isBlank c then readFraction f (after c position) rest (after c position)
      else if !isUnitChar c || f.denominator = 1 then .error (.invalidCharacter mark)
      else .ok (f, c :: rest, position)

/-- The digits of a number with its first digits read, up to a unit or the end. -/
def readNumber (n : Nat) :
    List Char → Nat → Except ReadError (Nat × Option Fraction × Rest)
  | [], position => .ok (n, none, [], position)
  | c :: rest, position => do
    match digitOf? c with
    | some d => readNumber (← bounded (10 * n + d)) rest (after c position)
    | none =>
      if Text.isBlank c then readNumber n rest (after c position)
      else if isUnitChar c then .ok (n, none, c :: rest, position)
      else if c = '.' then
        let (f, rest) ← readFraction ⟨0, 1⟩ position rest (after c position)
        .ok (n, some f, rest)
      else .error (.invalidCharacter position)

/-- The letters of a unit, and what follows: the next number may follow at once. -/
def readUnit : List Char → Nat → Except ReadError (List Char × Rest)
  | [], position => .ok ([], [], position)
  | c :: rest, position =>
    if c.isDigit || Text.isBlank c then .ok ([], c :: rest, position)
    else if isUnitChar c then
      (readUnit rest (after c position)).map fun r => (c :: r.1, r.2)
    else .error (.invalidCharacter position)

/-- A count of nanoseconds or of seconds. -/
structure Span where
  /-- The length in nanoseconds of what is counted. -/
  grain : Nat
  /-- How many there are. -/
  count : Nat

/-- The sum of a time and a span. Neither the nanoseconds beside the whole seconds nor the seconds
may become too large. -/
def plus (sum : Nat) (span : Span) : Except ReadError Nat := do
  if span.grain < second then let _ ← bounded (sum % second + span.count)
  let total := sum + span.count * span.grain
  if bound * second ≤ total then throw .overflow
  return total

/-- A quotient without a rest. -/
def dividedBy (n d : Nat) : Except ReadError Nat :=
  if n % d = 0 then .ok (n / d) else .error .overflow

/-- So many units. They are counted in seconds from the second on. -/
def wholeSpan (n length : Nat) : Except ReadError Span := do
  let grain := if length < second then 1 else second
  return ⟨grain, ← bounded (n * (length / grain))⟩

/-- A part of a unit. It is counted in seconds from the hour on, and has to come out even; a
nanosecond has no parts. -/
def partSpan (f : Fraction) (length : Nat) : Except ReadError Span := do
  if length = 1 then throw .overflow
  let grain := if length < 3600 * second then 1 else second
  return ⟨grain, ← dividedBy (← bounded (f.numerator * (length / grain))) f.denominator⟩

/-- A time with a number of units added. -/
def addUnits (sum n : Nat) (f : Option Fraction) (unit : String) : Except ReadError Nat := do
  match unitLength? unit with
  | none => throw (if unit.isEmpty then .unitNeeded n else .unknownUnit unit)
  | some length =>
    let sum ← plus sum (← wholeSpan n length)
    match f with
    | none => return sum
    | some f => plus sum (← partSpan f length)

/-- The sum of numbers with units, with fuel for the text. -/
def readParts : Nat → Nat → List Char → Nat → Except ReadError Nat
  | 0, sum, _, _ => .ok sum
  | fuel + 1, sum, s, position => do
    match ← readFirst s position with
    | none => return sum
    | some (d, s, position) =>
      let (n, f, s, position) ← readNumber d s position
      let (unit, s, position) ← readUnit s position
      readParts fuel (← addUnits sum n f (String.ofList unit)) s position

/-- The duration that a text writes. -/
def read (s : String) : Except ReadError Duration := do
  match ← readFirst s.toList 0 with
  | none => throw .empty
  | some _ => return ⟨← readParts (s.length + 1) 0 s.toList 0⟩

/-- The whole milliseconds of a duration. -/
def millis (d : Duration) : Nat := d.nanos / 1000000

/-- A duration for people: minutes and seconds, seconds with two places, or milliseconds. -/
def text (d : Duration) : String :=
  let seconds := d.nanos / second
  let millis := d.millis % 1000
  if 60 ≤ seconds then s!"{seconds / 60}m {seconds % 60}s"
  else if 0 < seconds then
    let hundredths := millis / 10
    s!"{seconds}." ++ (if hundredths < 10 then s!"0{hundredths}" else s!"{hundredths}") ++ "s"
  else s!"{millis}ms"

end Duration

end SiteRuntime
