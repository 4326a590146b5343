import Resubmit.Flow

namespace Resubmit

/-!
# What a flow works with

The feed, the stage, the classifier, the clock, the timer and the hook are outside
the flow.  All of them share one state `σ` of any kind, and each call may change
it in any way, so nothing is assumed about who answers what and when.
-/

/-- What the feed answers when it is asked for an item. -/
inductive Offer (Req Ctx : Type) where
  | item (item : WorkItem Req Ctx)
  | pending
  | ended
  deriving Repr, DecidableEq

/-- What a hook is told: a retry with its delay, or exhaustion without one. -/
structure Notice (Resp : Type) where
  /-- The number of the attempt that was answered. -/
  attempt : UInt32
  response : Resp
  delay : Option Duration
  deriving Repr, DecidableEq

/-- A response to one of the submissions in flight. -/
structure Completion (Resp Fault : Type) (inFlight : List α) where
  index : Fin inFlight.length
  answer : Except Fault Resp

/-- The calls that a flow makes, on an outside state `σ`. -/
structure Surroundings (σ Req Resp Ctx Fault Refusal : Type) where
  /-- Read the clock. -/
  now : σ → Instant
  /-- Ask the feed for an item. -/
  pull : σ → Offer Req Ctx × σ
  /-- Hand a request to the stage, under a ticket. -/
  submit : σ → Nat → Req → σ
  /-- Ask whether one of the submissions in flight has been answered, and take the answer. -/
  collect :
    σ →
    (inFlight : List (Submission Req Ctx)) →
    Option (Completion Resp Fault inFlight) × σ
  /-- Ask the classifier about a response. -/
  classify : σ → Resp → Ctx → Except Refusal (Verdict Req Ctx) × σ
  /-- Look whether a timer with the deadline has gone off. -/
  timerFired : σ → Instant → Bool × σ
  /-- Call the hook. -/
  notify : σ → Notice Resp → σ
  /-- Give up submissions whose responses are not wanted any more. -/
  abandon : σ → List (Submission Req Ctx) → σ

end Resubmit
