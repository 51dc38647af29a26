import SiteRuntime.Timestamp.Format

/-!
# Writing timestamps

The text of a moment in a format. Numbers are filled up to the width of their field; a year has a
sign outside of 0 to 9999.
-/

namespace SiteRuntime.Timestamp

/-! ### Numbers -/

/-- A character repeated up to a width. -/
def padding (c : Char) (width : Nat) (s : List Char) : List Char :=
  List.replicate (width - s.length) c

/-- A signed number, filled up to a width. Zeros stand behind the sign, blanks before it. -/
def signed (sign : List Char) (n : Nat) (width : Nat) (fill : Fill) : List Char :=
  let digits := Nat.toDigits 10 n
  match fill with
  | .nothing => sign ++ digits
  | .zeros => sign ++ padding '0' width (sign ++ digits) ++ digits
  | .blanks => padding ' ' width (sign ++ digits) ++ sign ++ digits

/-- The sign of a number that shows one only if it is negative. -/
def minus (v : Int) : List Char := if v < 0 then ['-'] else []

/-- A number, filled up to a width. -/
def number (v : Int) (width : Nat) (fill : Fill) : List Char :=
  signed (minus v) v.natAbs width fill

/-- A natural number with leading zeros up to a width. -/
def zeroFilled (n width : Nat) : List Char := number n width .zeros

/-- A year: four digits, and one more column for a sign if it needs one. -/
def yearText (year : Int) (fill : Fill) : List Char :=
  if 0 ≤ year ∧ year < 10000 then number year 4 fill
  else signed (if year < 0 then ['-'] else ['+']) year.natAbs 5 fill

/-- A byte of two digits. What is above 99 is counted on in the first digit, which then leaves the
digits. -/
def twoDigits (n : Nat) (fill : Fill) : List Char :=
  let ones := Char.ofNat ('0'.toNat + n % 10)
  let tens := n / 10
  match tens, fill with
  | 0, .nothing => [ones]
  | 0, .blanks => [' ', ones]
  | _, _ => [Char.ofNat ('0'.toNat + tens), ones]

/-- A number cut down to a byte. -/
def byte (v : Int) : Nat := (v % 256).toNat

/-- The text of a number field. -/
def NumberField.text (m : Moment) (fill : Fill) : NumberField → List Char
  | .year => yearText m.date.year fill
  | .century => twoDigits (byte (m.date.year / 100)) fill
  | .yearOfCentury => twoDigits (m.date.year % 100).toNat fill
  | .quarter => Nat.toDigits 10 m.date.quarter
  | .month => twoDigits m.date.month fill
  | .day => twoDigits m.date.day fill
  | .hour => twoDigits m.clock.hour fill
  | .hour12 => twoDigits m.clock.hour12 fill
  | .minute => twoDigits m.clock.minute fill
  | .second => twoDigits m.clock.second fill
  | .weekdayFromMonday => Nat.toDigits 10 (m.date.weekday + 1)
  | .weekdayFromSunday => Nat.toDigits 10 ((m.date.weekday + 1) % 7)
  | .weekFromSunday => twoDigits (m.date.weeksFrom 6) fill
  | .weekFromMonday => twoDigits (m.date.weeksFrom 0) fill
  | .weekYear => yearText m.date.isoWeek.1 fill
  | .weekYearOfCentury => twoDigits (m.date.isoWeek.1 % 100).toNat fill
  | .week => twoDigits m.date.isoWeek.2 fill
  | .ordinal => number m.date.ordinal 3 fill
  | .nanoseconds => number m.fraction 9 fill
  | .seconds => number m.seconds 9 fill

/-! ### Names -/

/-- The names of the months. -/
def monthNames : List String :=
  ["January", "February", "March", "April", "May", "June", "July", "August", "September",
    "October", "November", "December"]

/-- The names of the days of the week from Monday. -/
def weekdayNames : List String :=
  ["Monday", "Tuesday", "Wednesday", "Thursday", "Friday", "Saturday", "Sunday"]

/-- A name or its first three letters. -/
def nameText (names : List String) (i : Nat) (short : Bool) : List Char :=
  let name := ((names[i]?).getD "").toList
  if short then name.take 3 else name

/-- The half of the day. -/
def halfText (afternoon upper : Bool) : List Char :=
  match afternoon, upper with
  | false, false => ['a', 'm']
  | false, true => ['A', 'M']
  | true, false => ['p', 'm']
  | true, true => ['P', 'M']

/-! ### Fractions and offsets -/

/-- The first digits of a fraction given in nanoseconds. -/
def fractionText (nanos digits : Nat) : List Char :=
  zeroFilled (nanos / tenTo (9 - digits)) digits

/-- A point and the fraction, as short as thousands allow, if it is not zero. -/
def shortFractionText (nanos : Nat) : List Char :=
  if nanos = 0 then []
  else if nanos % 1000000 = 0 then '.' :: fractionText nanos 3
  else if nanos % 1000 = 0 then '.' :: fractionText nanos 6
  else '.' :: fractionText nanos 9

/-- The distance from universal time. Where minutes come last, they are rounded. -/
def offsetText (offset : Int) (form : OffsetForm) : List Char :=
  let seconds := offset.natAbs
  let minutes := seconds / 60
  let nearest := (seconds + 30) / 60
  let two := (zeroFilled · 2)
  (if offset < 0 then '-' else '+') ::
    match form with
    | .plain => two (nearest / 60) ++ two (nearest % 60)
    | .minutes => two (nearest / 60) ++ ':' :: two (nearest % 60)
    | .seconds => two (minutes / 60) ++ ':' :: two (minutes % 60) ++ ':' :: two (seconds % 60)
    | .hours => two (seconds / 3600)
    | .named =>
      two (minutes / 60) ++ ':' :: two (minutes % 60) ++
        if seconds % 60 = 0 then [] else ':' :: two (seconds % 60)

/-! ### Items -/

/-- The text of an item. -/
def Item.text (m : Moment) : Item → List Char
  | .literal c => [c]
  | .number field fill => field.text m fill
  | .monthName short => nameText monthNames (m.date.month - 1) short
  | .weekdayName short => nameText weekdayNames m.date.weekday short
  | .halfOfDay upper => halfText m.clock.isAfternoon upper
  | .shortFraction => shortFractionText m.fraction
  | .fraction point digits =>
    if point then '.' :: fractionText m.fraction digits else fractionText m.fraction digits
  | .offset form => offsetText m.offset form

/-- The text of a moment in a format, if the format is one. -/
def text? (format : String) (m : Moment) : Option String :=
  (TimestampFormat.read? format).map fun items => String.ofList (items.flatMap (Item.text m))

end SiteRuntime.Timestamp
