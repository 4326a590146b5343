import Resubmit.Flow.Step

namespace Resubmit.Run

/-!
# Polling and ending a flow

A poll walks from station to station until one of them stops it.  How many
stations it may visit is limited by a budget, and a poll that needs more has no
result; a larger budget then goes further, and never changes a result.
-/

variable {σ Req Resp Ctx Fault Refusal : Type}

/-- Walk on from a station, visiting at most `budget` of them. -/
def walk
    (env : Surroundings σ Req Resp Ctx Fault Refusal) :
    Nat →
    Station →
    Run σ Req Resp Ctx Fault Refusal →
    Option (PollResult Resp Ctx Fault Refusal) × Run σ Req Resp Ctx Fault Refusal
  | 0, _, run => (none, run)
  | budget + 1, station, run =>
      match run.step env station with
      | (.go next, after) => walk env budget next after
      | (.stop result, after) => (some result, after)

/-- Poll the flow; one that has ended does nothing any more. -/
def poll
    (env : Surroundings σ Req Resp Ctx Fault Refusal)
    (budget : Nat)
    (run : Run σ Req Resp Ctx Fault Refusal) :
    Option (PollResult Resp Ctx Fault Refusal) × Run σ Req Resp Ctx Fault Refusal :=
  if run.flow.terminated then
    (some .ended, run)
  else
    run.walk env budget .promote

/-- Give up all work and end the flow without a fault. -/
def cancel
    (env : Surroundings σ Req Resp Ctx Fault Refusal)
    (run : Run σ Req Resp Ctx Fault Refusal) :
    Run σ Req Resp Ctx Fault Refusal :=
  (run.log (.cancelled run.flow.inFlightCount run.flow.pendingCount)).shutDown env

/-- Do away with the flow itself: what is in flight is given up. -/
def release
    (env : Surroundings σ Req Resp Ctx Fault Refusal)
    (run : Run σ Req Resp Ctx Fault Refusal) : σ :=
  env.abandon run.outside run.flow.inFlight

end Resubmit.Run
