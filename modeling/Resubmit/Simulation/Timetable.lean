import Resubmit.Simulation.World

namespace Resubmit

/-!
# A host with a timetable

The feed offers listed items in order, each from a given instant on, and then ends.
Time stands still while a flow is polled and is moved forward in between.
-/

/-- An item and the instant from which on the feed offers it. -/
structure Arrival (Req Ctx : Type) where
  time : Instant
  item : WorkItem Req Ctx
  deriving Repr, DecidableEq

/-- The clock and the items that are still to come. -/
structure Timetable (Req Ctx : Type) where
  clock : Instant
  arrivals : List (Arrival Req Ctx)
  deriving Repr, DecidableEq

namespace Timetable

variable {Req Resp Ctx Fault Refusal : Type}

/-- A timetable at the beginning of time. -/
def start (arrivals : List (Arrival Req Ctx)) : Timetable Req Ctx where
  clock := .zero
  arrivals := arrivals

/-- A timetable whose items are all there from the beginning. -/
def ofItems (items : List (WorkItem Req Ctx)) : Timetable Req Ctx :=
  start (items.map fun item => ⟨.zero, item⟩)

/-- What the feed offers now. -/
def pull (table : Timetable Req Ctx) : Offer Req Ctx × Timetable Req Ctx :=
  match table.arrivals with
  | [] => (.ended, table)
  | arrival :: rest =>
      if table.clock < arrival.time then
        (.pending, table)
      else
        (.item arrival.item, { table with arrivals := rest })

/-- The host that goes by a timetable and judges by a function. -/
def host
    (judge : Resp → Ctx → Except Refusal (Verdict Req Ctx)) :
    Host (Timetable Req Ctx) Req Resp Ctx Refusal where
  now table := table.clock
  pull := pull
  classify table response context := (judge response context, table)
  timerFired table deadline := (Instant.timerOver table.clock deadline, table)
  notify table _ := table

/-- The instant from which on the next item is offered, if it is still to come. -/
def nextArrival? (table : Timetable Req Ctx) : Option Instant :=
  match table.arrivals with
  | [] => none
  | arrival :: _ => if table.clock < arrival.time then some arrival.time else none

end Timetable

end Resubmit
