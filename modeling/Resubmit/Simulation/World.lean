import Resubmit.Flow.Poll
import Resubmit.MockStage

namespace Resubmit

/-!
# A flow over a mock stage

A world joins a mock stage with a host that has the clock, the feed and the
classifier.  Submissions that may have something to report stand in a queue: new
ones from the start, sleeping ones again when they are woken.  A flow that asks for
an answer goes through the queue until one has it.
-/

/-- Everything around a flow but the stage, on a state `ρ`. -/
structure Host (ρ Req Resp Ctx Refusal : Type) where
  now : ρ → Instant
  pull : ρ → Offer Req Ctx × ρ
  classify : ρ → Resp → Ctx → Except Refusal (Verdict Req Ctx) × ρ
  timerFired : ρ → Instant → Bool × ρ
  notify : ρ → Notice Resp → ρ

/-- A submission that sleeps until a deadline. -/
structure Sleeper where
  deadline : Instant
  ticket : Nat
  deriving Repr, DecidableEq

/-- A mock stage, the submissions to look at, and the state of the host. -/
structure World (ρ Req Resp Fault : Type) where
  stage : MockStage Req Resp Fault
  /-- The submissions to look at, the first one first. -/
  queue : List Nat
  /-- The sleeping submissions, in the order in which they fell asleep. -/
  sleepers : List Sleeper
  host : ρ

namespace World

variable {ρ Req Resp Ctx Fault Refusal : Type}

/-- A world in which nothing has been submitted. -/
def start (stage : MockStage Req Resp Fault) (host : ρ) : World ρ Req Resp Fault where
  stage := stage
  queue := []
  sleepers := []
  host := host

/-- Note that a submission sleeps, unless that is known. -/
def noteSleeper (sleepers : List Sleeper) (sleeper : Sleeper) : List Sleeper :=
  if sleepers.any fun other => other.ticket == sleeper.ticket then
    sleepers
  else
    sleepers ++ [sleeper]

/--
Go through the queue until a submission has an answer.

A submission whose latency the clock cannot represent never has one.
-/
def lookThrough
    (now : Instant)
    (inFlight : List (Submission Req Ctx)) :
    List Nat →
    World ρ Req Resp Fault →
    Option (Completion Resp Fault inFlight) × World ρ Req Resp Fault
  | [], world => (none, { world with queue := [] })
  | ticket :: rest, world =>
      match inFlight.findFinIdx? (fun submission => submission.ticket == ticket) with
      | none => lookThrough now inFlight rest world
      | some index =>
          match world.stage.poll now ticket with
          | (.unknown, _) => lookThrough now inFlight rest world
          | (.clockOverflow, _) => lookThrough now inFlight rest world
          | (.pending deadline, stage) =>
              lookThrough now inFlight rest {
                world with
                stage := stage
                sleepers := noteSleeper world.sleepers ⟨deadline, ticket⟩
              }
          | (.ready answer, stage) =>
              (some ⟨index, answer⟩, {
                world with
                stage := stage
                queue := rest
                sleepers := world.sleepers.filter fun sleeper => sleeper.ticket != ticket
              })

/-- Drop submissions and forget all about them. -/
def abandon
    (world : World ρ Req Resp Fault)
    (submissions : List (Submission Req Ctx)) :
    World ρ Req Resp Fault :=
  let tickets := submissions.map fun submission => submission.ticket
  { world with
    stage := tickets.foldl (fun stage ticket => (stage.drop ticket).2) world.stage
    queue := world.queue.filter fun ticket => !tickets.contains ticket
    sleepers := world.sleepers.filter fun sleeper => !tickets.contains sleeper.ticket }

/-- The surroundings of a flow in a world. -/
def surroundings
    (host : Host ρ Req Resp Ctx Refusal) :
    Surroundings (World ρ Req Resp Fault) Req Resp Ctx Fault Refusal where
  now world := host.now world.host
  pull world :=
    let (offer, state) := host.pull world.host
    (offer, { world with host := state })
  submit world ticket request :=
    { world with
      stage := world.stage.submit (host.now world.host) ticket request
      queue := world.queue ++ [ticket] }
  collect world inFlight :=
    lookThrough (host.now world.host) inFlight world.queue world
  classify world response context :=
    let (verdict, state) := host.classify world.host response context
    (verdict, { world with host := state })
  timerFired world deadline :=
    let (fired, state) := host.timerFired world.host deadline
    (fired, { world with host := state })
  notify world notice :=
    { world with host := host.notify world.host notice }
  abandon := abandon

/-- Put a submission into the queue again, unless it stands there. -/
def wake (world : World ρ Req Resp Fault) (ticket : Nat) : World ρ Req Resp Fault :=
  if world.queue.contains ticket then
    world
  else
    { world with queue := world.queue ++ [ticket] }

/--
Wake the submissions whose sleep is over.

They are woken in the order of the ticks at which their sleeps end, and of one tick
in the order in which they fell asleep.
-/
def wakeOver (world : World ρ Req Resp Fault) (now : Instant) : World ρ Req Resp Fault :=
  let rested := world.sleepers.filter fun sleeper => Instant.timerOver now sleeper.deadline
  let still := world.sleepers.filter fun sleeper => !Instant.timerOver now sleeper.deadline
  let ordered := rested.mergeSort fun a b =>
    decide (Instant.tickAtOrAfter a.deadline ≤ Instant.tickAtOrAfter b.deadline)
  (ordered.map fun sleeper => sleeper.ticket).foldl wake { world with sleepers := still }

end World

end Resubmit
