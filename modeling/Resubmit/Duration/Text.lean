import Resubmit.Duration

namespace Resubmit.Duration

/-!
# Written durations

A duration is written in the largest unit of which it holds at least one, with
the rest as a decimal fraction that has no trailing zero: `1.5s`, `1.01ms`,
`20µs`, `999ns`.
-/

/-- The digits after the point of `numerator / 10 ^ places`, point included. -/
def fractionText (numerator places : Nat) : String :=
  if numerator = 0 then
    ""
  else
    let digits := Nat.toDigits 10 numerator
    let padded := List.replicate (places - digits.length) '0' ++ digits
    "." ++ String.ofList (padded.reverse.dropWhile (· == '0')).reverse

/-- The written form of a duration. -/
def text (d : Duration) : String :=
  let nanos := d.nanos.toNat
  if 0 < d.secs then
    toString d.secs.toNat ++ fractionText nanos 9 ++ "s"
  else if 1000000 ≤ nanos then
    toString (nanos / 1000000) ++ fractionText (nanos % 1000000) 6 ++ "ms"
  else if 1000 ≤ nanos then
    toString (nanos / 1000) ++ fractionText (nanos % 1000) 3 ++ "µs"
  else
    toString nanos ++ "ns"

end Resubmit.Duration
