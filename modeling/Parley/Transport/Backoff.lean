import Parley.Time.Span

/-!
# How often to try again

A request that got no response at all is sent again after a while, and the while grows with
every attempt.
-/

namespace Parley

open Time

/-- How many times a request is repeated, and how long the first pause is. -/
structure Backoff where
  retries : Nat
  base : Span
  deriving DecidableEq, Repr

namespace Backoff

/-- Two more attempts, the first after half a second. -/
def standard : Backoff := ⟨2, .ofMillis 500⟩

/-- No further attempt. -/
def never : Backoff := ⟨0, .zero⟩

/-- The pause before attempt number `attempt` after the first. -/
def pause (b : Backoff) (attempt : Nat) : Span := b.base.times (max attempt 1)

/-- How many requests are sent at most, as far as thirty-two bits can count them. -/
def attempts (b : Backoff) : Nat := min (b.retries + 1) 4294967295

end Backoff

end Parley
