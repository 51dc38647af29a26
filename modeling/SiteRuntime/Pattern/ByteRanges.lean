import SiteRuntime.Pattern.Basic

/-!
# Ranges of characters as ranges of bytes

A range of code points is written in UTF-8 by several rows of byte ranges, in ascending order:
`rows` gives for each row the first and last byte at each place, so that a character lies in the
range just if its bytes lie in one of the rows.
-/

namespace SiteRuntime.Pattern

open Text (CodeSet)

/-- A range of bytes. -/
abbrev ByteRange := Nat × Nat

/-- The bytes of a code point. -/
def utf8 (n : Nat) : List Nat :=
  if n < 0x80 then [n]
  else if n < 0x800 then [0xC0 + n / 64, 0x80 + n % 64]
  else if n < 0x10000 then [0xE0 + n / 4096, 0x80 + n / 64 % 64, 0x80 + n % 64]
  else [0xF0 + n / 262144, 0x80 + n / 4096 % 64, 0x80 + n / 64 % 64, 0x80 + n % 64]

/-- A range cut so that in each part the bytes vary independently: `unit` code points share what
comes before their last byte, and there are `levels` bytes to look at. -/
def aligned : Nat → Nat → Nat → Nat → List (Nat × Nat)
  | 0, _, low, high => [(low, high)]
  | levels + 1, unit, low, high =>
    if low / unit = high / unit then [(low, high)]
    else
      let (first, low') :=
        if low % unit = 0 then ([], low)
        else ([(low, low / unit * unit + unit - 1)], (low / unit + 1) * unit)
      let (final, high') :=
        if high % unit = unit - 1 then ([], high)
        else ([(high / unit * unit, high)], high / unit * unit - 1)
      first ++ (if low' ≤ high' then aligned levels (unit * 64) low' high' else []) ++ final

/-- The ranges of code points written with equally many bytes, with that number less one. -/
def byLength : List (Nat × Nat × Nat) :=
  [(0, 0x7F, 0), (0x80, 0x7FF, 1), (0x800, 0xD7FF, 2), (0xE000, 0xFFFF, 2), (0x10000, 0x10FFFF, 3)]

/-- The rows of byte ranges that write a range of code points. -/
def rowsOfRange (low high : Nat) : List (List ByteRange) :=
  byLength.flatMap fun (first, final, levels) =>
    let low := max low first
    let high := min high final
    if high < low then []
    else (aligned levels 64 low high).map fun r => (utf8 r.1).zip (utf8 r.2)

/-- The rows of byte ranges that write a set of characters. -/
def rows (s : CodeSet) : List (List ByteRange) :=
  s.ranges.toList.flatMap fun r => rowsOfRange r.1 r.2

end SiteRuntime.Pattern
