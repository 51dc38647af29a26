/-!
# Powers of two and of ten

Machine words are bounded by powers of two, decimal digits are worth powers of ten. Both are named
here for natural numbers, so that it does not depend on the instances at hand what `^` would mean.
-/

namespace SiteRuntime

/-- Two to the power of `k`. -/
def twoTo (k : Nat) : Nat := Nat.pow 2 k

/-- Ten to the power of `k`. -/
def tenTo (k : Nat) : Nat := Nat.pow 10 k

end SiteRuntime
