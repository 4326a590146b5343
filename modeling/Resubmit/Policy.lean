import Resubmit.Decimal.Layout
import Resubmit.Duration.Text
import Resubmit.Text.Inspection

namespace Resubmit

/-!
# Resubmission policies

A policy says how often an element is resubmitted at most, how the delay before a
resubmission grows and is spread, and what happens when the attempts run out.
Policies are plain data: `Policy.fault?` tells which of them may be used, and
names the first rule that one breaks.
-/

/-- What happens when the attempts run out while a retry is still asked for. -/
inductive Exhaustion where
  /-- The last response is given out and marked as exhausted. -/
  | emitLast
  /-- The whole flow fails. -/
  | fail
  deriving Repr, DecidableEq, Inhabited

/-- How a flow resubmits. -/
structure Policy where
  maxAttempts : UInt32
  base : Duration
  max : Duration
  jitter : Float
  exhaustion : Exhaustion

/-- A rule of configuration that was broken. -/
inductive ConfigError where
  | baseExceedsMax (base max : Duration)
  | jitterOutOfRange (jitter : Float)
  | zeroParallelism
  | zeroRetryCapacity

namespace ConfigError

/-- The message for users. -/
def message : ConfigError → String
  | .baseExceedsMax base max =>
      "base delay " ++ base.text ++ " exceeds max delay " ++ max.text
  | .jitterOutOfRange jitter =>
      "randomization factor " ++ Decimal.Layout.display.write jitter ++ " is outside [0, 1)"
  | .zeroParallelism => "parallelism must be at least 1"
  | .zeroRetryCapacity => "retry capacity must be at least 1"

/-- The form for inspection. -/
def inspect : ConfigError → String
  | .baseExceedsMax base max =>
      Text.record "BaseExceedsMax" [("base", base.text), ("max", max.text)]
  | .jitterOutOfRange jitter =>
      "RandomizationOutOfRange(" ++ Decimal.Layout.inspection.write jitter ++ ")"
  | .zeroParallelism => "ZeroParallelism"
  | .zeroRetryCapacity => "ZeroRetryCapacity"

/-- Equality, in which jitters compare as numbers. -/
def beq : ConfigError → ConfigError → Bool
  | .baseExceedsMax base max, .baseExceedsMax base' max' => base == base' && max == max'
  | .jitterOutOfRange jitter, .jitterOutOfRange jitter' => jitter == jitter'
  | .zeroParallelism, .zeroParallelism => true
  | .zeroRetryCapacity, .zeroRetryCapacity => true
  | _, _ => false

instance : BEq ConfigError where
  beq := beq

end ConfigError

namespace Exhaustion

/-- The written name of a choice. -/
def name : Exhaustion → String
  | .emitLast => "EmitLast"
  | .fail => "Fail"

/-- The choice of a written name. -/
def ofName? (name : String) : Option Exhaustion :=
  if name = "EmitLast" then some .emitLast
  else if name = "Fail" then some .fail
  else none

/-- Every choice is found by its name. -/
theorem ofName?_name (e : Exhaustion) : ofName? e.name = some e := by
  cases e <;> decide

end Exhaustion

namespace Policy

/-- Equality, in which jitters compare as numbers. -/
def beq (p q : Policy) : Bool :=
  p.maxAttempts == q.maxAttempts && p.base == q.base && p.max == q.max
    && p.jitter == q.jitter && p.exhaustion == q.exhaustion

instance : BEq Policy where
  beq := beq

/-- No resubmission, a constant delay of `base`, no jitter. -/
def exponential (base : Duration) : Policy where
  maxAttempts := 0
  base := base
  max := base
  jitter := 0.0
  exhaustion := .emitLast

/-- Three resubmissions, from 100ms up to 10s, a jitter of a fifth. -/
def standard : Policy where
  maxAttempts := 3
  base := Duration.ofMillis 100
  max := Duration.ofMillis 10000
  jitter := 0.2
  exhaustion := .emitLast

instance : Inhabited Policy where
  default := standard

/-- The first rule that the policy breaks. -/
def fault? (p : Policy) : Option ConfigError :=
  if p.max < p.base then
    some (.baseExceedsMax p.base p.max)
  else if 0.0 ≤ p.jitter ∧ p.jitter < 1.0 then
    none
  else
    some (.jitterOutOfRange p.jitter)

/-- A policy of the four given values, if they break no rule. -/
def ofParts
    (maxAttempts : UInt32)
    (base max : Duration)
    (jitter : Float) :
    Except ConfigError Policy :=
  let p : Policy := {
    maxAttempts := maxAttempts
    base := base
    max := max
    jitter := jitter
    exhaustion := .emitLast
  }
  match p.fault? with
  | some fault => .error fault
  | none => .ok p

/-- The form for inspection. -/
def inspect (p : Policy) : String :=
  Text.record "RetryPolicy" [
    ("max_attempts", toString p.maxAttempts.toNat),
    ("base_delay", p.base.text),
    ("max_delay", p.max.text),
    ("randomization_factor", Decimal.Layout.inspection.write p.jitter),
    ("on_exhaustion", p.exhaustion.name)
  ]

end Policy

end Resubmit
