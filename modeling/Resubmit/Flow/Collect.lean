import Resubmit.Flow.Poll

namespace Resubmit

/-!
# Taking every outcome

Whoever waits for the next item polls again each time something has changed outside.
How that comes about is left open: `wait` tells what is outside when it is time for
the next poll, or that nothing can change any more.
-/

/-- What waiting for an item comes to. -/
inductive Awaited (Resp Ctx Fault Refusal : Type) where
  | item (item : Item Resp Ctx Fault Refusal)
  | ended
  | brokenDown (cause : Breakdown)
  /-- Nothing is left that could change the state of the flow. -/
  | stalled
  /-- The budget was used up. -/
  | unfinished

/-- How a consumer came to its end. -/
inductive Conclusion where
  /-- The flow ended. -/
  | ended
  /-- The consumer had enough. -/
  | satisfied
  | brokenDown (cause : Breakdown)
  | stalled
  | unfinished
  deriving Repr, DecidableEq

namespace Run

variable {σ Req Resp Ctx Fault Refusal : Type}

/-- Wait for an item, polling at most `turns` times. -/
def await
    (env : Surroundings σ Req Resp Ctx Fault Refusal)
    (wait : Run σ Req Resp Ctx Fault Refusal → Option σ)
    (budget : Nat) :
    Nat →
    Run σ Req Resp Ctx Fault Refusal →
    Awaited Resp Ctx Fault Refusal × Run σ Req Resp Ctx Fault Refusal
  | 0, run => (.unfinished, run)
  | turns + 1, run =>
      match run.poll env budget with
      | (none, polled) => (.unfinished, polled)
      | (some (.item item), polled) => (.item item, polled)
      | (some .ended, polled) => (.ended, polled)
      | (some (.brokenDown cause), polled) => (.brokenDown cause, polled)
      | (some .pending, polled) =>
          match wait polled with
          | none => (.stalled, polled)
          | some outside => await env wait budget turns { polled with outside := outside }

/-- Take every outcome, or stop at the first fault. -/
def collectOutcomes
    (env : Surroundings σ Req Resp Ctx Fault Refusal)
    (wait : Run σ Req Resp Ctx Fault Refusal → Option σ)
    (budget : Nat) :
    Nat →
    List (Outcome Resp Ctx) →
    Run σ Req Resp Ctx Fault Refusal →
    Conclusion
      × Except (FlowError Fault Refusal) (List (Outcome Resp Ctx))
      × Run σ Req Resp Ctx Fault Refusal
  | 0, outcomes, run => (.unfinished, .ok outcomes.reverse, run)
  | takes + 1, outcomes, run =>
      match run.await env wait budget budget with
      | (.item (.ok outcome), run) =>
          collectOutcomes env wait budget takes (outcome :: outcomes) run
      | (.item (.error error), run) => (.satisfied, .error error, run)
      | (.ended, run) => (.ended, .ok outcomes.reverse, run)
      | (.brokenDown cause, run) => (.brokenDown cause, .ok outcomes.reverse, run)
      | (.stalled, run) => (.stalled, .ok outcomes.reverse, run)
      | (.unfinished, run) => (.unfinished, .ok outcomes.reverse, run)

end Run

end Resubmit
