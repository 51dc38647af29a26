import SiteRuntime.Job.Basic

/-!
# Trying again

A piece of work is attempted until an attempt succeeds or none are left. The list of attempts is in
order, and only its last can be one that succeeded.
-/

namespace SiteRuntime.Retry

variable {ε σ α : Type}

/-- Attempts until one is good or `left` more have been made. Before the attempt of a number,
`again` is done with that number. -/
def attempts (attempt : EStateM ε σ α) (again : Nat → EStateM ε σ Unit) (isGood : α → Bool) :
    Nat → Nat → EStateM ε σ (List α)
  | _, 0 => return [← attempt]
  | number, left + 1 => do
    let first ← attempt
    if isGood first then return [first]
    again (number + 1)
    return first :: (← attempts attempt again isGood (number + 1) left)

/-- The first attempt and at most `retries` more. -/
def run (attempt : EStateM ε σ α) (again : Nat → EStateM ε σ Unit) (isGood : α → Bool)
    (retries : Nat) : EStateM ε σ (List α) :=
  attempts attempt again isGood 0 retries

end SiteRuntime.Retry
