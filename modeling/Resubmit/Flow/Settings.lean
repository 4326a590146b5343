import Resubmit.Policy

namespace Resubmit

/-!
# Configuring a flow

A builder collects the options of a flow.  `Builder.settings` accepts them or
names the first rule that is broken: first those of the policy, then at least one
submission at a time, then room for at least one pending retry.
-/

/-- Accepted options of a flow. -/
structure Settings where
  policy : Policy
  /-- The greatest number of submissions in flight. -/
  parallelism : Nat
  /-- The number of pending retries from which on the feed is left alone. -/
  retryCapacity : Nat
  /-- Whether a hook observes retries and exhaustion. -/
  observed : Bool
  policy_sound : policy.fault? = none
  parallelism_pos : 0 < parallelism
  retryCapacity_pos : 0 < retryCapacity

/-- Options of a flow that are still to be checked. -/
structure Builder where
  policy : Policy
  parallelism : Nat
  /-- The parallelism, if it is not given. -/
  retryCapacity : Option Nat
  /-- The seed of the jitter, which is unpredictable if it is not given. -/
  seed : Option UInt64
  observed : Bool

namespace Builder

/-- The options of a flow of which nothing has been said. -/
def standard : Builder where
  policy := Policy.standard
  parallelism := 1
  retryCapacity := none
  seed := none
  observed := false

/-- The short form: a policy and a parallelism, everything else as usual. -/
def ofPolicy (policy : Policy) (parallelism : Nat) : Builder :=
  { standard with policy := policy, parallelism := parallelism }

/-- The retry capacity that a flow will have. -/
def effectiveCapacity (builder : Builder) : Nat :=
  builder.retryCapacity.getD builder.parallelism

/-- Check the options. -/
def settings (builder : Builder) : Except ConfigError Settings :=
  match policySound : builder.policy.fault? with
  | some fault => .error fault
  | none =>
      if noSlot : builder.parallelism = 0 then
        .error .zeroParallelism
      else if noRoom : builder.effectiveCapacity = 0 then
        .error .zeroRetryCapacity
      else
        .ok {
          policy := builder.policy
          parallelism := builder.parallelism
          retryCapacity := builder.effectiveCapacity
          observed := builder.observed
          policy_sound := policySound
          parallelism_pos := Nat.pos_of_ne_zero noSlot
          retryCapacity_pos := Nat.pos_of_ne_zero noRoom
        }

/-- The form for inspection. -/
def inspect (builder : Builder) : String :=
  Text.openRecord "RetryFlowBuilder" [
    ("policy", builder.policy.inspect),
    ("parallelism", toString builder.parallelism),
    ("retry_capacity", Text.optional toString builder.retryCapacity),
    ("seed", Text.optional (fun seed => toString seed.toNat) builder.seed),
    ("on_retry", Text.truth builder.observed)
  ]

end Builder

end Resubmit
