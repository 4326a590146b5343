import Resubmit.Duration.Seconds
import Resubmit.Policy
import Resubmit.Random.WordSource

namespace Resubmit.Policy

/-!
# The delay before a resubmission

Without jitter the delay before attempt `n` is `min (base * 2 ^ n) max`, computed
in a register of one hundred and twenty-eight bits.  With a jitter `f` it is then
multiplied by a factor drawn from `1 - f` to `1 + f` and capped again.
-/

/-- The largest exponent that is used; beyond it every delay is capped anyway. -/
def exponentCap : UInt32 := 96

/-- The largest value of a register of 128 bits. -/
def largestRegister : Nat := 0xffffffffffffffffffffffffffffffff

/-- The product in a register that stays at its largest value. -/
def saturatingProduct (a b : Nat) : Nat :=
  min (a * b) largestRegister

/-- The delay before an attempt, without jitter. -/
def backoff (p : Policy) (attempt : UInt32) : Duration :=
  let exponent := min attempt exponentCap
  let span := saturatingProduct p.base.toNanos (Nat.pow 2 exponent.toNat)
  if p.max.toNanos ≤ span then
    p.max
  else
    let secs := UInt64.ofNat (span / nanosPerSecond)
    let nanos := UInt32.ofNat (span % nanosPerSecond)
    (Duration.ofParts? secs nanos).getD p.max

/-! ## Jitter -/

/-- Why no jittered delay can be given. -/
inductive JitterError where
  /-- The width of the range of factors is not a finite number. -/
  | rangeTooWide
  deriving Repr, DecidableEq

/-- A number from zero up to one, made of the upper 52 bits of a word. -/
def unitInterval (word : UInt64) : Float :=
  Float.ofBits ((0x3ff0000000000000 : UInt64) ||| (word >>> 12)) - 1.0

/-- The width of the range from `-jitter` to `jitter`. -/
def jitterRange (p : Policy) : Float :=
  p.jitter - (-p.jitter)

/-- The factor that a word selects, never below zero. -/
def jitterFactor (p : Policy) (word : UInt64) : Float :=
  let factor := 1.0 + (unitInterval word * p.jitterRange + (-p.jitter))
  if factor < 0.0 then 0.0 else factor

/-- A delay multiplied by a factor and capped. -/
def scaled (p : Policy) (delay : Duration) (factor : Float) : Duration :=
  min ((Duration.ofSeconds? (delay.toSeconds * factor)).getD p.max) p.max

/-- Whether the delay before an attempt is the same for all random words. -/
def isExact (p : Policy) (attempt : UInt32) : Bool :=
  p.jitter ≤ 0.0 || !p.jitter.isFinite || (p.backoff attempt).isZero

/--
The delay before an attempt and the random source afterwards.

A word is drawn only if it matters.
-/
def delay
    [WordSource γ]
    (p : Policy)
    (attempt : UInt32)
    (source : γ) :
    Except JitterError (Duration × γ) :=
  let capped := p.backoff attempt
  if p.isExact attempt then
    .ok (capped, source)
  else if p.jitterRange.isFinite then
    let (word, rest) := WordSource.next source
    .ok (p.scaled capped (p.jitterFactor word), rest)
  else
    .error .rangeTooWide

/-- The delays before several attempts, drawn from one source, and the source after each. -/
def delays
    [WordSource γ]
    (p : Policy)
    (attempts : List UInt32)
    (source : γ) :
    Except JitterError (List (Duration × γ)) :=
  match attempts with
  | [] => .ok []
  | attempt :: rest => do
      let drawn ← p.delay attempt source
      let later ← p.delays rest drawn.2
      return drawn :: later

end Resubmit.Policy
