import Mathlib.Algebra.Group.Nat.Defs
import Resubmit.Policy.Delay

namespace Resubmit

/-!
# The exact backoff

The delay before an attempt is computed in a register that saturates, with an exponent that
is capped.  Neither shows in the result: a delay never exceeds the longest one of the policy,
and wherever the register or the exponent gives way the product is beyond that already.
-/

namespace Duration

/-- The seconds of a span that is not too long fit into their word. -/
theorem toNat_ofNat_secs
    {span : Nat}
    (short : span < nanosLimit) :
    (UInt64.ofNat (span / nanosPerSecond)).toNat = span / nanosPerSecond := by
  rw [UInt64.toNat_ofNat']
  apply Nat.mod_eq_of_lt
  simp only [nanosLimit, secsLimit, nanosPerSecond] at *
  omega

/-- The nanoseconds left over always fit into theirs. -/
theorem toNat_ofNat_nanos (span : Nat) :
    (UInt32.ofNat (span % nanosPerSecond)).toNat = span % nanosPerSecond := by
  rw [UInt32.toNat_ofNat']
  apply Nat.mod_eq_of_lt
  simp only [nanosPerSecond]
  omega

/-- Less than a second of nanoseconds neither carries over nor overflows. -/
theorem ofParts?_of_lt
    (secs : UInt64)
    {nanos : UInt32}
    (small : nanos.toNat < nanosPerSecond) :
    ofParts? secs nanos = some ⟨secs, nanos, small⟩ := by
  have noCarry : secs.toNat + nanos.toNat / nanosPerSecond = secs.toNat := by
    rw [Nat.div_eq_of_lt small, Nat.add_zero]
  have within : secs.toNat < secsLimit := secs.toNat_lt
  unfold ofParts?
  simp only [noCarry, if_pos within, Nat.mod_eq_of_lt small, UInt64.ofNat_toNat,
    UInt32.ofNat_toNat]

/--
The delay doubled a number of times, where doubling stops at the longest delay.

A product that cannot be held counts as the longest delay, too.
-/
def doubledUntil (longest : Duration) : Nat → Duration → Duration
  | 0, delay => min delay longest
  | times + 1, delay =>
      if longest ≤ delay then
        min delay longest
      else
        doubledUntil longest times ((ofNanos? (2 * delay.toNanos)).getD longest)

/-- Stopping at the longest delay comes to the same as cutting the whole product off. -/
theorem toNanos_doubledUntil
    (longest : Duration)
    (times : Nat)
    (delay : Duration) :
    (doubledUntil longest times delay).toNanos =
      min (delay.toNanos * 2 ^ times) longest.toNanos := by
  induction times generalizing delay with
  | zero => rw [doubledUntil, toNanos_min, Nat.pow_zero, Nat.mul_one]
  | succ times inductionHypothesis =>
      have grown : delay.toNanos * 2 ^ (times + 1) = 2 * delay.toNanos * 2 ^ times := by
        rw [Nat.pow_succ, Nat.mul_comm (2 ^ times), ← Nat.mul_assoc, Nat.mul_comm 2]
      have atLeast (span : Nat) : span ≤ span * 2 ^ times :=
        Nat.le_mul_of_pos_right span (Nat.two_pow_pos times)
      rw [doubledUntil]
      split
      · rename_i long
        rw [le_iff_toNanos_le] at long
        have longer := atLeast (2 * delay.toNanos)
        rw [toNanos_min, grown]
        omega
      · rw [inductionHypothesis, grown]
        unfold ofNanos?
        split
        · rename_i held
          have same := toNanos_of_ofNanos? (if_pos held)
          rw [Option.getD_some, same]
        · rename_i tooLong
          have bounded := longest.toNanos_lt
          have longer := atLeast (2 * delay.toNanos)
          have stays := atLeast longest.toNanos
          rw [Option.getD_none]
          omega

end Duration

namespace Policy

/-- Beyond the cap of the exponent every positive delay is longer than any that can be held. -/
theorem nanosLimit_le_of_cap
    {base : Nat}
    (positive : 1 ≤ base)
    {exponent : Nat}
    (beyond : exponentCap.toNat ≤ exponent) :
    Duration.nanosLimit ≤ base * 2 ^ exponent := by
  have capped : Duration.nanosLimit ≤ 2 ^ exponentCap.toNat := by decide
  calc Duration.nanosLimit
    _ ≤ 2 ^ exponentCap.toNat := capped
    _ ≤ 2 ^ exponent := Nat.pow_le_pow_right Nat.two_pos beyond
    _ ≤ base * 2 ^ exponent := Nat.le_mul_of_pos_left _ positive

theorem toNat_min (a b : UInt32) : (min a b).toNat = min a.toNat b.toNat := by
  change (if a ≤ b then a else b).toNat = _
  split <;> rename_i order <;> rw [UInt32.le_iff_toNat_le] at order <;> omega

/-- Capping the product makes up for capping the exponent. -/
theorem min_exponentCap
    (base longest : Duration)
    (attempt : UInt32) :
    min (base.toNanos * 2 ^ (min attempt exponentCap).toNat) longest.toNanos =
      min (base.toNanos * 2 ^ attempt.toNat) longest.toNanos := by
  rw [toNat_min]
  rcases Nat.le_total attempt.toNat exponentCap.toNat with small | beyond
  · rw [Nat.min_eq_left small]
  · rw [Nat.min_eq_right beyond]
    rcases Nat.eq_zero_or_pos base.toNanos with zero | positive
    · rw [zero, Nat.zero_mul, Nat.zero_mul]
    · have capped := nanosLimit_le_of_cap positive (Nat.le_refl exponentCap.toNat)
      have uncapped := nanosLimit_le_of_cap positive beyond
      have short := Nat.le_of_lt longest.toNanos_lt
      exact
        (Nat.min_eq_right (Nat.le_trans short capped)).trans
          (Nat.min_eq_right (Nat.le_trans short uncapped)).symm

/-- Capping the product makes up for the width of the register. -/
theorem min_saturatingProduct
    (longest : Duration)
    (a b : Nat) :
    min (saturatingProduct a b) longest.toNanos = min (a * b) longest.toNanos := by
  have bounded := longest.toNanos_lt
  have wide : Duration.nanosLimit ≤ largestRegister := by decide
  rw [saturatingProduct]
  omega

/-- The product that the register holds for an attempt. -/
def heldProduct (policy : Policy) (attempt : UInt32) : Nat :=
  saturatingProduct policy.base.toNanos (2 ^ (min attempt exponentCap).toNat)

theorem min_heldProduct (policy : Policy) (attempt : UInt32) :
    min (policy.heldProduct attempt) policy.max.toNanos =
      min (policy.base.toNanos * 2 ^ attempt.toNat) policy.max.toNanos :=
  (min_saturatingProduct _ _ _).trans (min_exponentCap _ _ _)

/-- A product below the longest delay is taken apart into seconds and nanoseconds as it is. -/
theorem backoff_of_heldProduct_lt
    {policy : Policy}
    {attempt : UInt32}
    (short : policy.heldProduct attempt < policy.max.toNanos) :
    Duration.ofParts?
        (UInt64.ofNat (policy.heldProduct attempt / nanosPerSecond))
        (UInt32.ofNat (policy.heldProduct attempt % nanosPerSecond)) =
      some (policy.backoff attempt) ∧
    (policy.backoff attempt).secs.toNat = policy.heldProduct attempt / nanosPerSecond ∧
    (policy.backoff attempt).nanos.toNat = policy.heldProduct attempt % nanosPerSecond := by
  have small :
      (UInt32.ofNat (policy.heldProduct attempt % nanosPerSecond)).toNat < nanosPerSecond := by
    rw [Duration.toNat_ofNat_nanos]
    exact Nat.mod_lt _ (by decide)
  have made := Duration.ofParts?_of_lt
    (UInt64.ofNat (policy.heldProduct attempt / nanosPerSecond)) small
  have whole :
      policy.backoff attempt =
        ⟨UInt64.ofNat (policy.heldProduct attempt / nanosPerSecond),
          UInt32.ofNat (policy.heldProduct attempt % nanosPerSecond), small⟩ := by
    unfold backoff
    simp only [Nat.pow_eq]
    change
      (if policy.max.toNanos ≤ policy.heldProduct attempt then policy.max else
        (Duration.ofParts? _ _).getD policy.max) = _
    rw [if_neg (Nat.not_le.mpr short)]
    exact congrArg (Option.getD · policy.max) made
  refine ⟨by rw [made, whole], ?_, ?_⟩
  · rw [whole]
    exact Duration.toNat_ofNat_secs (Nat.lt_trans short policy.max.toNanos_lt)
  · rw [whole]
    exact Duration.toNat_ofNat_nanos _

/-- The delay before an attempt doubles with each attempt, up to the longest one. -/
theorem toNanos_backoff (policy : Policy) (attempt : UInt32) :
    (policy.backoff attempt).toNanos =
      min (policy.base.toNanos * 2 ^ attempt.toNat) policy.max.toNanos := by
  rw [← min_heldProduct]
  rcases Nat.lt_or_ge (policy.heldProduct attempt) policy.max.toNanos with short | long
  · obtain ⟨_, secs, nanos⟩ := backoff_of_heldProduct_lt short
    rw [Duration.toNanos, secs, nanos, Nat.div_add_mod, Nat.min_eq_left (Nat.le_of_lt short)]
  · have longest : policy.backoff attempt = policy.max := if_pos long
    rw [longest, Nat.min_eq_right long]

/--
How the delay before an attempt is computed, and that it is exact.

The exponent, the register and the words may give way, but never where it shows.
-/
structure ExactBackoff (policy : Policy) (attempt : UInt32) : Prop where
  /-- The delay is the power of two that it should be, cut off at the longest delay. -/
  closed :
    (policy.backoff attempt).toNanos =
      min (policy.base.toNanos * 2 ^ attempt.toNat) policy.max.toNanos
  /-- It is what doubling step by step comes to. -/
  doubled :
    policy.backoff attempt = Duration.doubledUntil policy.max attempt.toNat policy.base
  /-- The cap of the exponent does not change it. -/
  exponent :
    min (policy.base.toNanos * 2 ^ (min attempt exponentCap).toNat) policy.max.toNanos =
      min (policy.base.toNanos * 2 ^ attempt.toNat) policy.max.toNanos
  /-- The factors fit into the register. -/
  factors :
    policy.base.toNanos ≤ largestRegister ∧
      2 ^ (min attempt exponentCap).toNat ≤ largestRegister
  /-- A product that does not fit into the register does not change it either. -/
  register :
    min (policy.heldProduct attempt) policy.max.toNanos =
      min (policy.base.toNanos * 2 ^ (min attempt exponentCap).toNat) policy.max.toNanos
  /-- A product below the longest delay is the exact one. -/
  product :
    policy.heldProduct attempt < policy.max.toNanos →
    policy.heldProduct attempt = policy.base.toNanos * 2 ^ attempt.toNat
  /-- It fits into the words for seconds and nanoseconds. -/
  words :
    policy.heldProduct attempt < policy.max.toNanos →
    (UInt64.ofNat (policy.heldProduct attempt / nanosPerSecond)).toNat =
        policy.heldProduct attempt / nanosPerSecond ∧
      (UInt32.ofNat (policy.heldProduct attempt % nanosPerSecond)).toNat =
        policy.heldProduct attempt % nanosPerSecond
  /-- The words make the delay, and nothing is carried over from one to the other. -/
  assembled :
    policy.heldProduct attempt < policy.max.toNanos →
    Duration.ofParts?
        (UInt64.ofNat (policy.heldProduct attempt / nanosPerSecond))
        (UInt32.ofNat (policy.heldProduct attempt % nanosPerSecond)) =
      some (policy.backoff attempt) ∧
    (policy.backoff attempt).secs.toNat = policy.heldProduct attempt / nanosPerSecond ∧
    (policy.backoff attempt).nanos.toNat = policy.heldProduct attempt % nanosPerSecond

/-- The delay before an attempt is exact for every policy and every attempt. -/
theorem backoff_exact (policy : Policy) (attempt : UInt32) : ExactBackoff policy attempt where
  closed := policy.toNanos_backoff attempt
  doubled := by
    apply Duration.toNanos_inj.mp
    rw [toNanos_backoff, Duration.toNanos_doubledUntil]
  exponent := min_exponentCap _ _ _
  factors := by
    have wide : Duration.nanosLimit ≤ largestRegister := by decide
    have power : 2 ^ exponentCap.toNat ≤ largestRegister := by decide
    have least : (min attempt exponentCap).toNat ≤ exponentCap.toNat := by
      rw [toNat_min]
      exact Nat.min_le_right _ _
    exact
      ⟨Nat.le_trans (Nat.le_of_lt policy.base.toNanos_lt) wide,
        Nat.le_trans (Nat.pow_le_pow_right Nat.two_pos least) power⟩
  register := min_saturatingProduct _ _ _
  product short := by
    have capped := policy.min_heldProduct attempt
    omega
  words short :=
    ⟨Duration.toNat_ofNat_secs (Nat.lt_trans short policy.max.toNanos_lt),
      Duration.toNat_ofNat_nanos _⟩
  assembled := backoff_of_heldProduct_lt

/-- Whether a policy does not spread its delays; an accepted jitter is never below zero. -/
def Unjittered (policy : Policy) : Prop :=
  policy.jitter ≤ 0.0

instance (policy : Policy) : Decidable policy.Unjittered :=
  inferInstanceAs (Decidable (policy.jitter ≤ 0.0))

/-- Without jitter the delay is exact, and no random word is drawn for it. -/
theorem delay_of_unjittered
    {γ : Type}
    [WordSource γ]
    {policy : Policy}
    (unjittered : policy.Unjittered)
    (attempt : UInt32)
    (source : γ) :
    policy.delay attempt source = .ok (policy.backoff attempt, source) := by
  have zero : decide (policy.jitter ≤ 0.0) = true := decide_eq_true unjittered
  have exact : policy.isExact attempt = true := by
    rw [isExact, zero, Bool.true_or, Bool.true_or]
  simp only [delay, exact, ↓reduceIte]

end Policy

end Resubmit
