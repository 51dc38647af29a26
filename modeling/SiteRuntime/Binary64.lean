import SiteRuntime.Power

/-!
# Binary floating-point numbers of 64 bits

`Binary64` is a finite double: a sign, a significand below 2^53 and an exponent of two. Sums of
digits and powers of ten become doubles in three exact steps, each on natural numbers: `ofRatio`
rounds a quotient to the nearest double, ties to the even significand, and `mul` and `div` round
the exact product and quotient once. `digits` is the way back: the fewest decimal digits that lie
in the interval of numbers that round to the double, and of those the nearest.
-/

namespace SiteRuntime

/-- A finite double, `±significand · 2^exponent`. -/
structure Binary64 where
  /-- Whether the sign is minus; zero has a sign too. -/
  negative : Bool
  /-- Below 2^53, and at least 2^52 unless the exponent is the least one. -/
  significand : Nat
  /-- Between -1074 and 971. -/
  exponent : Int
  deriving DecidableEq, Repr

namespace Binary64

/-- `num / den` rounded to the nearest integer, ties to even. -/
def divNearest (num den : Nat) : Nat :=
  let q := num / den
  let r := num % den
  if 2 * r < den then q else if 2 * r > den then q + 1 else if q % 2 = 0 then q else q + 1

/-- The exponent of the greatest power of two that is at most `num / den`. -/
def binaryExponent (num den : Nat) : Int :=
  let e : Int := (num.log2 : Int) - (den.log2 : Int)
  let atMost : Bool :=
    if e ≥ 0 then den * twoTo e.toNat ≤ num else den ≤ num * twoTo (-e).toNat
  if atMost then e else e - 1

/-- The magnitude nearest to `num / den` as significand and exponent; none above the greatest
double. -/
def ofRatio (num den : Nat) : Option (Nat × Int) :=
  if num = 0 then some (0, -1074)
  else
    let q : Int := max (binaryExponent num den - 52) (-1074)
    let m := if q ≥ 0 then divNearest num (den * twoTo q.toNat)
      else divNearest (num * twoTo (-q).toNat) den
    let (m, q) := if m = twoTo 53 then (twoTo 52, q + 1) else (m, q)
    if q > 971 then none else some (m, q)

/-- The magnitude `significand · 2^exponent` as a quotient of natural numbers. -/
def ratio (m : Nat) (e : Int) : Nat × Nat :=
  if e ≥ 0 then (m * twoTo e.toNat, 1) else (m, twoTo (-e).toNat)

/-- The rounded product of two magnitudes. -/
def mul (a b : Nat × Int) : Option (Nat × Int) :=
  let x := ratio a.1 a.2
  let y := ratio b.1 b.2
  ofRatio (x.1 * y.1) (x.2 * y.2)

/-- The rounded quotient of two magnitudes; the divisor is not zero. -/
def div (a b : Nat × Int) : Option (Nat × Int) :=
  let x := ratio a.1 a.2
  let y := ratio b.1 b.2
  ofRatio (x.1 * y.2) (x.2 * y.1)

/-- The double nearest to a power of ten. -/
def powerOfTen (k : Nat) : Nat × Int := (ofRatio (tenTo k) 1).getD (0, -1074)

/-- The greatest power of ten below the greatest double. -/
def greatestPower : Nat := 308

/-- Divides by powers of ten that are doubles, the greatest one as often as needed. -/
def divideByTens : Nat → (Nat × Int) → Nat → Nat × Int
  | 0, x, _ => x
  | steps + 1, x, k =>
    if x.1 = 0 then x
    else if k ≤ greatestPower then (div x (powerOfTen k)).getD x
    else divideByTens steps ((div x (powerOfTen greatestPower)).getD x) (k - greatestPower)

/-- `significand · 10^k` as a double: the significand is rounded first, then multiplied or divided
by a rounded power of ten. Above the greatest double there is none. -/
def ofScaled (negative : Bool) (significand : Nat) (k : Int) : Option Binary64 :=
  match ofRatio significand 1 with
  | none => none
  | some x =>
    let scaled : Option (Nat × Int) :=
      if k ≥ 0 then
        if x.1 = 0 then some x
        else if k.toNat ≤ greatestPower then mul x (powerOfTen k.toNat) else none
      else some (divideByTens 5 x (-k).toNat)
    scaled.map fun y => ⟨negative, y.1, y.2⟩

/-! ### Shortest decimal digits -/

/-- The exponent of the greatest power of ten that is at most `num / den`, searched downwards. -/
def decimalExponentFrom (num den : Nat) : Nat → Int → Int
  | 0, k => k
  | fuel + 1, k =>
    let atMost : Bool :=
      if k ≥ 0 then den * tenTo k.toNat ≤ num else den ≤ num * tenTo (-k).toNat
    if atMost then k else decimalExponentFrom num den fuel (k - 1)

/-- The exponent of the greatest power of ten that is at most `num / den`, for a double's
magnitude: the binary exponent gives it up to one. -/
def decimalExponent (num den : Nat) : Int :=
  decimalExponentFrom num den 4 (binaryExponent num den * 30103 / 100000 + 1)

/-- Whether `c · 10^k` lies in the interval of numbers that round to `m · 2^e`. The ends belong to
it when the significand is even. -/
def roundsTo (m : Nat) (e : Int) (c : Nat) (k : Int) : Bool :=
  -- in quarters of a unit of the last place, the value is 4m
  let below : Nat := if m = twoTo 52 ∧ e > -1074 then 1 else 2
  let scale (n : Nat) : Nat × Nat := ratio n (e - 2)
  let low := scale (4 * m - below)
  let high := scale (4 * m + 2)
  let x : Nat × Nat := if k ≥ 0 then (c * tenTo k.toNat, 1) else (c, tenTo (-k).toNat)
  let closed := m % 2 = 0
  let atLeast : Bool := if closed then low.1 * x.2 ≤ x.1 * low.2 else low.1 * x.2 < x.1 * low.2
  let atMost : Bool := if closed then x.1 * high.2 ≤ high.1 * x.2 else x.1 * high.2 < high.1 * x.2
  atLeast && atMost

/-- The two neighbours of a magnitude on the grid of multiples of `10^k`, the nearer one first, if
they round back to it. -/
def candidate? (m : Nat) (e : Int) (k : Int) : Option Nat :=
  let v := ratio m e
  let num := if k ≥ 0 then v.1 else v.1 * tenTo (-k).toNat
  let den := if k ≥ 0 then v.2 * tenTo k.toNat else v.2
  let low := num / den
  let near := divNearest num den
  let far := if near = low then low + 1 else low
  if roundsTo m e near k then some near
  else if roundsTo m e far k then some far
  else none

/-- Decimal digits and the power of ten of the last one, from a given number of digits on. -/
def digitsFrom (m : Nat) (e : Int) (top : Int) : Nat → Nat → Nat × Int
  | 0, n => ((candidate? m e (top - n + 1)).getD 0, top - n + 1)
  | fuel + 1, n =>
    match candidate? m e (top - n + 1) with
    | some c => (c, top - n + 1)
    | none => digitsFrom m e top fuel (n + 1)

/-- A number without its trailing zeros, each moved into the power of ten. -/
def dropZeros : Nat → Nat → Int → Nat × Int
  | 0, c, k => (c, k)
  | fuel + 1, c, k => if c % 10 = 0 ∧ c ≠ 0 then dropZeros fuel (c / 10) (k + 1) else (c, k)

/-- The fewest decimal digits that read back, with the power of ten of the last one. -/
def digits (x : Binary64) : Nat × Int :=
  if x.significand = 0 then (0, 0)
  else
    let v := ratio x.significand x.exponent
    let d := digitsFrom x.significand x.exponent (decimalExponent v.1 v.2) 17 1
    dropZeros 20 d.1 d.2

/-! ### Text -/

/-- Where the decimal text of a double is positional and where it has an exponent. -/
structure TextFormat where
  /-- The least exponent of the leading digit that is written positionally. -/
  leastPositional : Int
  /-- The greatest exponent of the leading digit that is written positionally. -/
  greatestPositional : Int

/-- Numbers from 0.00001 up to below 10^16 are written positionally. -/
def textFormat : TextFormat := ⟨-5, 15⟩

/-- The decimal digits of a natural number. -/
def natDigits (n : Nat) : List Char := Nat.toDigits 10 n

/-- The text of a double: positional with at least one digit after the point, or with an exponent
that carries its sign. -/
def text (x : Binary64) : String :=
  let (c, k) := digits x
  let ds := natDigits c
  let top : Int := k + (ds.length : Int) - 1
  let sign := if x.negative then ['-'] else []
  let body :=
    if c = 0 then ['0', '.', '0']
    else if k ≥ 0 ∧ top ≤ textFormat.greatestPositional then
      ds ++ List.replicate k.toNat '0' ++ ['.', '0']
    else if top ≥ 0 ∧ top ≤ textFormat.greatestPositional then
      ds.take (top.toNat + 1) ++ '.' :: ds.drop (top.toNat + 1)
    else if top < 0 ∧ top ≥ textFormat.leastPositional then
      '0' :: '.' :: List.replicate (-top - 1).toNat '0' ++ ds
    else
      let mark := if top < 0 then ['e', '-'] else ['e', '+']
      let power := mark ++ natDigits top.natAbs
      match ds with
      | [] => power
      | [d] => d :: power
      | d :: rest => d :: '.' :: rest ++ power
  String.ofList (sign ++ body)

end Binary64

end SiteRuntime
