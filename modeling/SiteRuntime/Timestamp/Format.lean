import SiteRuntime.Timestamp.Calendar

/-!
# Formats of timestamps

A format is text with fields: `%` and a letter, perhaps with a flag between that says how a number
is filled up. `TimestampFormat.read?` reads a format as a list of items and refuses the whole of it
if one field is not known; some letters stand for several items.
-/

namespace SiteRuntime

namespace Timestamp

/-- How a number is filled up to its width. -/
inductive Fill where
  | zeros
  | blanks
  | nothing
  deriving DecidableEq, Repr

/-- A field that is a number. -/
inductive NumberField where
  | year | century | yearOfCentury | quarter | month | day | hour | hour12 | minute | second
  /-- The day of the week from Monday as 1. -/
  | weekdayFromMonday
  /-- The day of the week from Sunday as 0. -/
  | weekdayFromSunday
  /-- Weeks begun in the year, from its first Sunday. -/
  | weekFromSunday
  /-- Weeks begun in the year, from its first Monday. -/
  | weekFromMonday
  | weekYear | weekYearOfCentury | week
  /-- The day of the year. -/
  | ordinal
  | nanoseconds
  /-- Seconds since the start of 1970. -/
  | seconds
  deriving DecidableEq, Repr

/-- How much of the distance from universal time is shown. -/
inductive OffsetForm where
  /-- Hours and minutes, `+0530`. -/
  | plain
  /-- Hours and minutes, `+05:30`. -/
  | minutes
  /-- Hours, minutes and seconds, `+05:30:00`. -/
  | seconds
  /-- Hours, `+05`. -/
  | hours
  /-- Hours, minutes, and seconds if there are any. -/
  | named
  deriving DecidableEq, Repr

/-- A part of a format. -/
inductive Item where
  | literal (c : Char)
  | number (field : NumberField) (fill : Fill)
  | monthName (short : Bool)
  | weekdayName (short : Bool)
  | halfOfDay (upper : Bool)
  /-- A point and the fraction of the second, as short as thousands allow, if it is not zero. -/
  | shortFraction
  /-- The first digits of the fraction of the second, perhaps with a point before them. -/
  | fraction (point : Bool) (digits : Nat)
  | offset (form : OffsetForm)
  deriving DecidableEq, Repr

end Timestamp

namespace TimestampFormat

open Timestamp

/-- A number filled up with zeros. -/
def zeros (f : NumberField) : Item := .number f .zeros

/-- A number filled up with blanks. -/
def blanks (f : NumberField) : Item := .number f .blanks

/-- Items with the same literal character between. -/
def separated (c : Char) : List Item → List Item
  | [] => []
  | [item] => [item]
  | item :: rest => item :: .literal c :: separated c rest

/-- Month, day and year of the century. -/
def shortDate : List Item := separated '/' [zeros .month, zeros .day, zeros .yearOfCentury]

/-- Year, month and day. -/
def longDate : List Item := separated '-' [zeros .year, zeros .month, zeros .day]

/-- Hour, minute and second. -/
def time : List Item := separated ':' [zeros .hour, zeros .minute, zeros .second]

/-- The items that a letter stands for. -/
def itemsOf? : Char → Option (List Item)
  | 'Y' => some [zeros .year]
  | 'C' => some [zeros .century]
  | 'y' => some [zeros .yearOfCentury]
  | 'q' => some [.number .quarter .nothing]
  | 'm' => some [zeros .month]
  | 'b' => some [.monthName true]
  | 'h' => some [.monthName true]
  | 'B' => some [.monthName false]
  | 'd' => some [zeros .day]
  | 'e' => some [blanks .day]
  | 'a' => some [.weekdayName true]
  | 'A' => some [.weekdayName false]
  | 'w' => some [.number .weekdayFromSunday .nothing]
  | 'u' => some [.number .weekdayFromMonday .nothing]
  | 'U' => some [zeros .weekFromSunday]
  | 'W' => some [zeros .weekFromMonday]
  | 'G' => some [zeros .weekYear]
  | 'g' => some [zeros .weekYearOfCentury]
  | 'V' => some [zeros .week]
  | 'j' => some [zeros .ordinal]
  | 'D' => some shortDate
  | 'x' => some shortDate
  | 'F' => some longDate
  | 'v' => some (separated '-' [blanks .day, .monthName true, zeros .year])
  | 'H' => some [zeros .hour]
  | 'k' => some [blanks .hour]
  | 'I' => some [zeros .hour12]
  | 'l' => some [blanks .hour12]
  | 'P' => some [.halfOfDay false]
  | 'p' => some [.halfOfDay true]
  | 'M' => some [zeros .minute]
  | 'S' => some [zeros .second]
  | 'f' => some [zeros .nanoseconds]
  | 'R' => some (separated ':' [zeros .hour, zeros .minute])
  | 'T' => some time
  | 'X' => some time
  | 'r' =>
    some (separated ':' [zeros .hour12, zeros .minute, zeros .second] ++
      [.literal ' ', .halfOfDay true])
  | 'Z' => some [.offset .named]
  | 'z' => some [.offset .plain]
  | 'c' =>
    some ([.weekdayName true, .literal ' ', .monthName true, .literal ' ', blanks .day,
      .literal ' '] ++ time ++ [.literal ' ', zeros .year])
  | '+' =>
    some (longDate ++ .literal 'T' :: time ++ [.shortFraction, .offset .minutes])
  | 's' => some [.number .seconds .nothing]
  | 't' => some [.literal '\t']
  | 'n' => some [.literal '\n']
  | '%' => some [.literal '%']
  | _ => none

/-- The fill that a flag asks for. -/
def fillOf? : Char → Option Fill
  | '-' => some .nothing
  | '_' => some .blanks
  | '0' => some .zeros
  | _ => none

/-- The number of digits that a character asks for in a fraction. -/
def fractionDigits? : Char → Option Nat
  | '3' => some 3
  | '6' => some 6
  | '9' => some 9
  | _ => none

/-- The items of the field after a `%`, and the rest of the format. A flag needs a letter that
stands for a single number. -/
def readField : List Char → Option (List Item × List Char)
  | ':' :: ':' :: ':' :: 'z' :: rest => some ([.offset .hours], rest)
  | ':' :: ':' :: 'z' :: rest => some ([.offset .seconds], rest)
  | ':' :: 'z' :: rest => some ([.offset .minutes], rest)
  | '.' :: 'f' :: rest => some ([.shortFraction], rest)
  | '.' :: d :: 'f' :: rest => (fractionDigits? d).map fun n => ([.fraction true n], rest)
  | c :: rest =>
    match fractionDigits? c, fillOf? c, rest with
    | some n, _, 'f' :: rest => some ([.fraction false n], rest)
    | none, some fill, letter :: rest =>
      match itemsOf? letter with
      | some [.number field _] => some ([.number field fill], rest)
      | _ => none
    | none, none, rest => (itemsOf? c).map fun items => (items, rest)
    | _, _, _ => none
  | [] => none

/-- The items of a format, with fuel for its length. -/
def readItems : Nat → List Char → Option (List Item)
  | _, [] => some []
  | 0, _ => none
  | fuel + 1, c :: rest =>
    if c = '%' then
      match readField rest with
      | some (items, rest) => (readItems fuel rest).map fun more => items ++ more
      | none => none
    else (readItems fuel rest).map fun more => .literal c :: more

/-- The items of a format, if it is one. -/
def read? (format : String) : Option (List Item) := readItems format.length format.toList

end TimestampFormat

end SiteRuntime
