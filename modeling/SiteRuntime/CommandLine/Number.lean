import SiteRuntime.Config.Key

/-!
# Numbers on the command line

Whole numbers of a bounded range, written in base ten, perhaps with a sign.
-/

namespace SiteRuntime.CommandLine

/-- Why a text is no number of a range. -/
inductive NumberError where
  | empty
  | invalidDigit
  | tooLarge
  | tooSmall
  | outOfRange (value : Int) (least most : Nat)
  deriving DecidableEq, Repr

/-- The text of a problem. -/
def NumberError.message : NumberError → String
  | .empty => "cannot parse integer from empty string"
  | .invalidDigit => "invalid digit found in string"
  | .tooLarge => "number too large to fit in target type"
  | .tooSmall => "number too small to fit in target type"
  | .outOfRange value least most => s!"{value} is not in {least}..={most}"

/-- The digits of a number, which have to be there and below a bound. -/
def readDigits (bound : Nat) (beyond : NumberError) (digits : List Char) :
    Except NumberError Nat :=
  if digits.isEmpty || !digits.all Char.isDigit then .error .invalidDigit
  else if decimalValue digits < bound then .ok (decimalValue digits)
  else .error beyond

/-- A number below 2^64. -/
def readCount (s : String) : Except NumberError Nat :=
  match s.toList with
  | [] => .error .empty
  | '+' :: digits => readDigits (twoTo 64) .tooLarge digits
  | digits => readDigits (twoTo 64) .tooLarge digits

/-- A number between -2^63 and 2^63-1. -/
def readSigned (s : String) : Except NumberError Int :=
  match s.toList with
  | [] => .error .empty
  | '-' :: digits => (readDigits (twoTo 63 + 1) .tooSmall digits).map fun n => -n
  | '+' :: digits => (readDigits (twoTo 63) .tooLarge digits).map fun n => (n : Int)
  | digits => (readDigits (twoTo 63) .tooLarge digits).map fun n => (n : Int)

/-- The greatest number of retries. -/
def maxRetries : Nat := twoTo 32 - 1

/-- A number of retries. -/
def readRetries (s : String) : Except NumberError Nat := do
  let n ← readSigned s
  if 0 ≤ n ∧ n ≤ maxRetries then return n.toNat else throw (.outOfRange n 0 maxRetries)

end SiteRuntime.CommandLine
