import Resubmit.Flow.Settings
import Resubmit.Random.ChaCha12
import Resubmit.RetryQueue
import Resubmit.Work

namespace Resubmit

/-!
# Flows

A flow submits work items, at most so many at a time, and holds the retries that
wait for their delay or for a free slot.  Its state has nothing of the world
around it; how the two work together is in `Resubmit.Flow.Step`.
-/

/-- An attempt whose response is awaited. -/
structure Submission (Req Ctx : Type) where
  /-- The number by which the flow knows the submission, counted from zero. -/
  ticket : Nat
  attempt : Attempt Req Ctx
  /-- Where a retry had waited; fresh work has not. -/
  place : Option Place
  deriving Repr, DecidableEq

/-- The state of a flow. -/
structure Flow (Req Ctx : Type) where
  settings : Settings
  /-- Whether the feed has ended. -/
  feedEnded : Bool
  /-- Whether the flow has ended, for whatever reason. -/
  terminated : Bool
  /-- The ticket of the next submission. -/
  nextTicket : Nat
  /-- The submissions whose responses are awaited, the oldest first. -/
  inFlight : List (Submission Req Ctx)
  retries : RetryQueue (Attempt Req Ctx)
  /-- The source of the jitter. -/
  random : ChaCha12

namespace Flow

/-- A flow that has not begun. -/
def start (settings : Settings) (random : ChaCha12) : Flow Req Ctx where
  settings := settings
  feedEnded := false
  terminated := false
  nextTicket := 0
  inFlight := []
  retries := ∅
  random := random

/-- The number of submissions whose responses are awaited. -/
def inFlightCount (flow : Flow Req Ctx) : Nat :=
  flow.inFlight.length

/-- The number of retries that wait for their delay or for a free slot. -/
def pendingCount (flow : Flow Req Ctx) : Nat :=
  flow.retries.size

/-- Whether another submission may be made. -/
def HasSlot (flow : Flow Req Ctx) : Prop :=
  flow.inFlight.length < flow.settings.parallelism

instance (flow : Flow Req Ctx) : Decidable flow.HasSlot :=
  inferInstanceAs (Decidable (_ < _))

/-- Whether the feed is left alone: it has ended, or too many retries are pending. -/
def Gated (flow : Flow Req Ctx) : Prop :=
  flow.feedEnded = true ∨ flow.settings.retryCapacity ≤ flow.retries.size

instance (flow : Flow Req Ctx) : Decidable flow.Gated :=
  inferInstanceAs (Decidable (_ ∨ _))

/-- Whether nothing is left to wait for. -/
def Settled (flow : Flow Req Ctx) : Prop :=
  flow.feedEnded = true ∧ flow.inFlight.length = 0 ∧ flow.retries.size = 0

instance (flow : Flow Req Ctx) : Decidable flow.Settled :=
  inferInstanceAs (Decidable (_ ∧ _))

/-- Forget all work and end. -/
def shutDown (flow : Flow Req Ctx) : Flow Req Ctx :=
  { flow with
    inFlight := []
    retries := flow.retries.clear
    terminated := true }

end Flow

/--
The flow of a builder.

`entropy` is the source of the jitter when no seed was given.
-/
def Builder.build (builder : Builder) (entropy : ChaCha12) : Except ConfigError (Flow Req Ctx) :=
  builder.settings.map fun settings =>
    Flow.start settings ((builder.seed.map ChaCha12.ofSeed).getD entropy)

/-- The ways in which a flow is asked for. -/
inductive Construction where
  /-- A builder is given a feed. -/
  | ofBuilder (builder : Builder)
  /-- A feed is given a builder. -/
  | ofFeed (builder : Builder)
  /-- A feed is given a policy and a parallelism. -/
  | ofPolicy (policy : Policy) (parallelism : Nat)

namespace Construction

/-- The options that are asked for. -/
def options : Construction → Builder
  | .ofBuilder builder => builder
  | .ofFeed builder => builder
  | .ofPolicy policy parallelism => .ofPolicy policy parallelism

/-- The flow that is asked for, or the first rule that its options break. -/
def build (construction : Construction) (entropy : ChaCha12) : Except ConfigError (Flow Req Ctx) :=
  construction.options.build entropy

end Construction

end Resubmit
