import Resubmit.Proofs.Backoff
import Resubmit.Proofs.Jitter
import Resubmit.Random.ChaCha12

namespace Resubmit

/-!
# When a delay takes a random word

A delay is spread around the exact one with a random word, unless the word would make no
difference.  Whether it does is a matter of the policy alone: the number of the attempt does
not come into it.  So the number of delays drawn from a source tells how far it has advanced.
-/

open Float.Model

namespace Binary64

theorem isFinite_of_small {number : Float} (small : Small number.toModel.unpack) :
    number.isFinite = true := by
  change number.toModel.unpack.isFinite = true
  cases unpacked : number.toModel.unpack with
  | zero | finite => rfl
  | infinity | notANumber =>
      rw [unpacked] at small
      cases small

/-- A number that is not below zero is at most zero or above it. -/
theorem le_zero_iff
    {number : Float}
    (nonneg : 0.0 ≤ number)
    (small : Small number.toModel.unpack) :
    number ≤ 0.0 ↔ ¬ 0.0 < number := by
  have nonneg : UnpackedFloat.le (.zero .positive) number.toModel.unpack = true :=
    of_decide_eq_true nonneg
  change
    decide (UnpackedFloat.le number.toModel.unpack (.zero .positive) = true) = true ↔
      ¬ decide (UnpackedFloat.lt (.zero .positive) number.toModel.unpack = true) = true
  cases unpacked : number.toModel.unpack with
  | zero sign => cases sign <;> decide
  | finite sign mantissa exponent pos =>
      rw [unpacked] at nonneg
      cases sign with
      | negative => cases nonneg
      | positive => exact iff_of_false (fun same => nomatch same) (fun not => not rfl)
  | infinity | notANumber =>
      rw [unpacked] at small
      cases small

end Binary64

namespace Policy

variable {policy : Policy}

theorem bounds_of_fault? (sound : policy.fault? = none) :
    policy.base ≤ policy.max ∧ 0.0 ≤ policy.jitter ∧ policy.jitter < 1.0 := by
  unfold fault? at sound
  split at sound
  · cases sound
  · rename_i ordered
    split at sound
    · rename_i within
      exact ⟨Nat.not_lt.mp ordered, within⟩
    · cases sound

/-- Whether delays are spread: there is something to spread them by, and something to spread. -/
def Spreads (policy : Policy) : Prop :=
  0.0 < policy.jitter ∧ 0 < policy.base.toNanos

instance (policy : Policy) : Decidable policy.Spreads :=
  inferInstanceAs (Decidable (_ ∧ _))

/-- The exact delay before an attempt is zero only if every one is. -/
theorem isZero_backoff_iff (sound : policy.fault? = none) (attempt : UInt32) :
    (policy.backoff attempt).isZero = true ↔ policy.base.toNanos = 0 := by
  have ordered : policy.base.toNanos ≤ policy.max.toNanos := (bounds_of_fault? sound).1
  have grown : policy.base.toNanos ≤ policy.base.toNanos * 2 ^ attempt.toNat :=
    Nat.le_mul_of_pos_right _ (Nat.two_pow_pos _)
  rw [Duration.isZero, beq_iff_eq, toNanos_backoff]
  constructor
  · intro none
    omega
  · intro none
    rw [none, Nat.zero_mul, Nat.zero_min]

/-- Under an accepted policy all delays are exact, or none is. -/
theorem isExact_iff (sound : policy.fault? = none) (attempt : UInt32) :
    policy.isExact attempt = true ↔ ¬ policy.Spreads := by
  obtain ⟨_, nonneg, below⟩ := bounds_of_fault? sound
  have small := Binary64.small_of_lt_one nonneg below
  have finite := Binary64.isFinite_of_small small
  have least := Binary64.le_zero_iff nonneg small
  have zero := isZero_backoff_iff sound attempt
  rw [isExact, finite, Bool.not_true, Bool.or_false, Bool.or_eq_true, decide_eq_true_eq, least,
    zero, Spreads, Nat.pos_iff_ne_zero, not_and_or, not_not]

theorem backoff_le_max (policy : Policy) (attempt : UInt32) :
    policy.backoff attempt ≤ policy.max := by
  rw [Duration.le_iff_toNanos_le, toNanos_backoff]
  exact Nat.min_le_right _ _

theorem scaled_le_max (policy : Policy) (delay : Duration) (factor : Float) :
    policy.scaled delay factor ≤ policy.max := by
  rw [Duration.le_iff_toNanos_le, scaled, Duration.toNanos_min]
  exact Nat.min_le_right _ _

/-- Without a spread a delay is exact and takes no word, from whatever source. -/
theorem delay_of_not_spreads
    {γ : Type}
    [WordSource γ]
    (sound : policy.fault? = none)
    (exact : ¬ policy.Spreads)
    (attempt : UInt32)
    (source : γ) :
    policy.delay attempt source = .ok (policy.backoff attempt, source) := by
  simp only [delay, (isExact_iff sound attempt).mpr exact, ↓reduceIte]

/-- With a spread a delay is scaled by the next word, and takes just that. -/
theorem delay_of_spreads
    {γ : Type}
    [WordSource γ]
    (sound : policy.fault? = none)
    (spreads : policy.Spreads)
    (attempt : UInt32)
    (source : γ) :
    policy.delay attempt source =
      .ok (policy.scaled (policy.backoff attempt)
          (policy.jitterFactor (WordSource.next source).1),
        (WordSource.next source).2) := by
  have inexact : ¬ policy.isExact attempt = true := fun exact =>
    (isExact_iff sound attempt).mp exact spreads
  simp only [delay, inexact, isFinite_jitterRange sound, Bool.false_eq_true, ↓reduceIte]

/-- The number of random words that so many delays take. -/
def words (policy : Policy) (count : Nat) : Nat :=
  if policy.Spreads then count else 0

/-- What a delay is drawn from an accepted policy: no longer than the longest one, for one word. -/
theorem of_delay
    {attempt : UInt32}
    {source rest : ChaCha12}
    {delay : Duration}
    (sound : policy.fault? = none)
    (drawn : policy.delay attempt source = .ok (delay, rest)) :
    delay ≤ policy.max ∧ rest = { source with drawn := source.drawn + policy.words 1 } := by
  by_cases spreads : policy.Spreads
  · rw [delay_of_spreads sound spreads] at drawn
    cases drawn
    rw [words, if_pos spreads]
    exact ⟨scaled_le_max _ _ _, rfl⟩
  · rw [delay_of_not_spreads sound spreads] at drawn
    cases drawn
    rw [words, if_neg spreads]
    exact ⟨backoff_le_max _ _, rfl⟩

/-! ## Several delays from one source -/

/-- The source after several delays have been drawn. -/
def sourceAfter (source : γ) (draws : List (Duration × γ)) : γ :=
  draws.foldl (fun _ draw => draw.2) source

section Draws

variable {γ : Type}
variable [WordSource γ]
variable {attempt : UInt32}
variable {attempts : List UInt32}
variable {source : γ}
variable {draws : List (Duration × γ)}

theorem delays_cons_eq_ok_iff :
    policy.delays (attempt :: attempts) source = .ok draws ↔
      ∃ head tail,
        policy.delay attempt source = .ok head ∧
          policy.delays attempts head.2 = .ok tail ∧
          draws = head :: tail := by
  rw [delays]
  cases begun : policy.delay attempt source with
  | error cause =>
      constructor
      · intro drawn
        cases drawn
      · rintro ⟨head, tail, drawn, _⟩
        cases drawn
  | ok head =>
      change (policy.delays attempts head.2).bind _ = _ ↔ _
      cases later : policy.delays attempts head.2 with
      | error cause =>
          constructor
          · intro drawn
            cases drawn
          · rintro ⟨other, tail, same, drawn, _⟩
            cases same
            rw [later] at drawn
            cases drawn
      | ok tail =>
          constructor
          · intro drawn
            cases drawn
            exact ⟨head, tail, rfl, later, rfl⟩
          · rintro ⟨other, rest, same, drawn, rfl⟩
            cases same
            rw [later] at drawn
            cases drawn
            rfl

/-- One more delay is drawn from where the earlier ones have left the source. -/
theorem delays_concat
    {draw : Duration × γ}
    (earlier : policy.delays attempts source = .ok draws)
    (last : policy.delay attempt (sourceAfter source draws) = .ok draw) :
    policy.delays (attempts ++ [attempt]) source = .ok (draws ++ [draw]) := by
  induction attempts generalizing source draws with
  | nil =>
      cases earlier
      exact delays_cons_eq_ok_iff.mpr ⟨draw, [], last, rfl, rfl⟩
  | cons first others inductionHypothesis =>
      obtain ⟨head, tail, begun, later, rfl⟩ := delays_cons_eq_ok_iff.mp earlier
      exact delays_cons_eq_ok_iff.mpr
        ⟨head, tail ++ [draw], begun, inductionHypothesis later last, rfl⟩

end Draws

/-- Delays drawn from an accepted policy are never too long, and take words only for a spread. -/
theorem of_delays
    {attempts : List UInt32}
    {source : ChaCha12}
    {draws : List (Duration × ChaCha12)}
    (sound : policy.fault? = none)
    (drawn : policy.delays attempts source = .ok draws) :
    (∀ draw ∈ draws, draw.1 ≤ policy.max) ∧
      sourceAfter source draws =
        { source with drawn := source.drawn + policy.words draws.length } := by
  induction attempts generalizing source draws with
  | nil =>
      cases drawn
      refine ⟨List.forall_mem_nil _, ?_⟩
      rw [List.length_nil, words, ite_self]
      rfl
  | cons first others inductionHypothesis =>
      obtain ⟨head, tail, begun, later, rfl⟩ := delays_cons_eq_ok_iff.mp drawn
      obtain ⟨short, advanced⟩ := of_delay sound begun
      obtain ⟨allShort, left⟩ := inductionHypothesis later
      refine ⟨List.forall_mem_cons.mpr ⟨short, allShort⟩, ?_⟩
      have total : policy.words 1 + policy.words tail.length = policy.words (tail.length + 1) := by
        unfold words
        split <;> omega
      change sourceAfter head.2 tail = _
      rw [left, advanced, List.length_cons, ← total, Nat.add_assoc]

end Policy

end Resubmit
