/-!
# Hexadecimal numbers

Reading hexadecimal digits, of either case.
-/

namespace SiteRuntime.Text

/-- The value of a hexadecimal digit. -/
def hexDigit? (c : Char) : Option Nat :=
  if '0' ≤ c ∧ c ≤ '9' then some (c.toNat - '0'.toNat)
  else if 'a' ≤ c ∧ c ≤ 'f' then some (c.toNat - 'a'.toNat + 10)
  else if 'A' ≤ c ∧ c ≤ 'F' then some (c.toNat - 'A'.toNat + 10)
  else none

/-- The number that hexadecimal digits write; other characters are passed over. -/
def hexValue (s : List Char) : Nat :=
  s.foldl (fun n c => match hexDigit? c with
    | some d => 16 * n + d
    | none => n) 0

end SiteRuntime.Text
