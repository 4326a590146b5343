import Resubmit.Decimal.Binary64
import Resubmit.Duration

namespace Resubmit.Duration

/-!
# Durations as floating-point seconds

Into seconds a duration is the sum of its rounded parts.  Back from seconds the
exact value is rounded to the nearest nanosecond, a half to the even one.
-/

/-- The duration in seconds, in floating-point arithmetic. -/
def toSeconds (d : Duration) : Float :=
  d.secs.toFloat + d.nanos.toFloat / 1.0e9

/-- The integer nearest to a quotient; halfway between two, the even one. -/
def roundedQuotient (numerator denominator : Nat) : Nat :=
  let below := numerator / denominator
  let twiceRest := 2 * (numerator % denominator)
  if twiceRest < denominator then below
  else if denominator < twiceRest then below + 1
  else below + below % 2

/-- The nanoseconds in a magnitude of seconds, to the nearest one. -/
def roundedNanos (m : Decimal.Magnitude) : Nat :=
  roundedQuotient
    (m.significand * Nat.pow 2 m.exponent.toNat * nanosPerSecond)
    (Nat.pow 2 (-m.exponent).toNat)

/--
The duration nearest to a number of seconds.

There is none for a number that is negative, not finite, or too large.
-/
def ofSeconds? (x : Float) : Option Duration :=
  match Decimal.Binary64.ofFloat x with
  | .finite negative m =>
      if negative ∧ m.significand ≠ 0 then none else ofNanos? (roundedNanos m)
  | _ => none

end Resubmit.Duration
