import Resubmit.Flow.Collect
import Resubmit.Simulation.Timetable

namespace Resubmit

/-!
# Driving a flow through simulated time

Whenever the flow has nothing to give out, time jumps to the next tick at which
something can change: a sleep ends, a retry becomes due, or an item arrives.  A
consumer takes item after item and may pause, cancel or stop in between.
-/

/-- A run of a flow in a world that goes by a timetable. -/
abbrev SimulatedRun (Req Resp Ctx Fault Refusal : Type) : Type :=
  Run (World (Timetable Req Ctx) Req Resp Fault) Req Resp Ctx Fault Refusal

/-- The surroundings of a flow in a world that goes by a timetable. -/
abbrev SimulatedSurroundings (Req Resp Ctx Fault Refusal : Type) : Type :=
  Surroundings (World (Timetable Req Ctx) Req Resp Fault) Req Resp Ctx Fault Refusal

/-- How a consumer goes about. -/
structure Consumer where
  /-- How many items are taken at most. -/
  limit : Option Nat
  /-- After how many items the flow is cancelled. -/
  cancelAfter : Option Nat
  /-- How long the consumer pauses after each item. -/
  pause : Option Duration

/-- The consumer that takes everything and never pauses. -/
def Consumer.patient : Consumer where
  limit := none
  cancelAfter := none
  pause := none

/-- An item as a consumer received it. -/
structure Receipt (Resp Ctx Fault Refusal : Type) where
  item : Item Resp Ctx Fault Refusal
  time : Instant
  inFlight : Nat
  pending : Nat

namespace SimulatedRun

variable {Req Resp Ctx Fault Refusal : Type}

def clock (run : SimulatedRun Req Resp Ctx Fault Refusal) : Instant :=
  run.outside.host.clock

/-- Move time forward to an instant, and wake whose sleep is over by then. -/
def advanceTo
    (run : SimulatedRun Req Resp Ctx Fault Refusal)
    (now : Instant) :
    SimulatedRun Req Resp Ctx Fault Refusal :=
  let world := run.outside
  let moved := { world with host := { world.host with clock := now } }
  { run with outside := moved.wakeOver now }

/-- The next instant on a tick at which something can change. -/
def nextChange? (run : SimulatedRun Req Resp Ctx Fault Refusal) : Option Instant :=
  let sleeps := run.outside.sleepers.map fun sleeper => sleeper.deadline
  let retries := run.flow.retries.nextDeadline?.toList
  let arrivals := run.outside.host.nextArrival?.toList
  ((sleeps ++ retries ++ arrivals).map Instant.roundedUp).min?

/-- What is outside once time has jumped to the next instant at which something can change. -/
def wait?
    (run : SimulatedRun Req Resp Ctx Fault Refusal) :
    Option (World (Timetable Req Ctx) Req Resp Fault) :=
  (nextChange? run).map fun instant => (advanceTo run instant).outside

/-- Wait for an item, letting time jump at most `jumps` times. -/
def await
    (env : SimulatedSurroundings Req Resp Ctx Fault Refusal)
    (budget : Nat) :
    Nat →
    SimulatedRun Req Resp Ctx Fault Refusal →
    Awaited Resp Ctx Fault Refusal × SimulatedRun Req Resp Ctx Fault Refusal :=
  Run.await env wait? budget

/-- The run after a consumer has paused, if the clock can represent the end of the pause. -/
def pausedBy?
    (consumer : Consumer)
    (run : SimulatedRun Req Resp Ctx Fault Refusal) :
    Option (SimulatedRun Req Resp Ctx Fault Refusal) :=
  match consumer.pause with
  | none => some run
  | some pause =>
      ((clock run).sleepEnd? pause).map fun deadline => advanceTo run deadline.roundedUp

/-- Take items until the consumer or the flow comes to its end. -/
def consume
    (env : SimulatedSurroundings Req Resp Ctx Fault Refusal)
    (consumer : Consumer)
    (budget : Nat) :
    Nat →
    List (Receipt Resp Ctx Fault Refusal) →
    SimulatedRun Req Resp Ctx Fault Refusal →
    Conclusion × List (Receipt Resp Ctx Fault Refusal) × SimulatedRun Req Resp Ctx Fault Refusal
  | 0, receipts, run => (.unfinished, receipts.reverse, run)
  | takes + 1, receipts, run =>
      let received := receipts.length
      if consumer.limit.any fun limit => limit ≤ received then
        (.satisfied, receipts.reverse, run)
      else
        let run := if consumer.cancelAfter = some received then run.cancel env else run
        match await env budget budget run with
        | (.item item, run) =>
            let receipt : Receipt Resp Ctx Fault Refusal := {
              item := item
              time := clock run
              inFlight := run.flow.inFlightCount
              pending := run.flow.pendingCount
            }
            match pausedBy? consumer run with
            | none => (.brokenDown .clockOverflow, (receipt :: receipts).reverse, run)
            | some rested => consume env consumer budget takes (receipt :: receipts) rested
        | (.ended, run) => (.ended, receipts.reverse, run)
        | (.brokenDown cause, run) => (.brokenDown cause, receipts.reverse, run)
        | (.stalled, run) => (.stalled, receipts.reverse, run)
        | (.unfinished, run) => (.unfinished, receipts.reverse, run)

def collectOutcomes
    (env : SimulatedSurroundings Req Resp Ctx Fault Refusal)
    (budget : Nat) :
    Nat →
    List (Outcome Resp Ctx) →
    SimulatedRun Req Resp Ctx Fault Refusal →
    Conclusion
      × Except (FlowError Fault Refusal) (List (Outcome Resp Ctx))
      × SimulatedRun Req Resp Ctx Fault Refusal :=
  Run.collectOutcomes env wait? budget

/-- Many more stations, jumps and items than a demonstration has. -/
def ample : Nat := 1000000

/-- Every item of a flow that is judged by a function, and the run at its end. -/
def results
    (judge : Resp → Ctx → Except Refusal (Verdict Req Ctx))
    (run : SimulatedRun Req Resp Ctx Fault Refusal) :
    List (Item Resp Ctx Fault Refusal) × SimulatedRun Req Resp Ctx Fault Refusal :=
  let env := World.surroundings (Timetable.host judge)
  let (_, receipts, after) := consume env Consumer.patient ample ample [] run
  (receipts.map fun receipt => receipt.item, after)

end SimulatedRun

end Resubmit
