import Resubmit.Flow.Event
import Resubmit.Policy.Delay

namespace Resubmit

/-!
# The rounds of a poll

A poll goes in rounds of four stations.  At the first one retries that are due
become takeable; at the second free slots are filled, with due retries before
fresh work; at the third one response is taken and judged; at the fourth, when
there was none, the retry timer is looked at.  `step` is the work of one station.
It either names the station to go to or stops with the result of the poll.
-/

/-- A flow together with its surroundings' state and its journal. -/
structure Run (σ Req Resp Ctx Fault Refusal : Type) where
  flow : Flow Req Ctx
  outside : σ
  journal : Array (Event Req Resp Ctx Fault Refusal)

/-- Where a poll stands. -/
inductive Station where
  | promote
  | fill
  | collect
  | timer
  deriving Repr, DecidableEq

/-- Why a run could not go on. -/
inductive Breakdown where
  /-- No delay can be drawn for a retry. -/
  | noDelay (cause : Policy.JitterError)
  /-- The clock cannot represent the end of a delay or of a pause. -/
  | clockOverflow
  deriving Repr, DecidableEq

/-- What a poll comes to. -/
inductive PollResult (Resp Ctx Fault Refusal : Type) where
  | item (item : Item Resp Ctx Fault Refusal)
  | ended
  | pending
  | brokenDown (cause : Breakdown)

/-- Where a station leads. -/
inductive Next (Resp Ctx Fault Refusal : Type) where
  | go (station : Station)
  | stop (result : PollResult Resp Ctx Fault Refusal)

variable {σ Req Resp Ctx Fault Refusal : Type}

namespace Run

/-- A run in which nothing has happened. -/
def start (flow : Flow Req Ctx) (outside : σ) : Run σ Req Resp Ctx Fault Refusal where
  flow := flow
  outside := outside
  journal := #[]

/-- Note an event. -/
def log
    (run : Run σ Req Resp Ctx Fault Refusal)
    (event : Event Req Resp Ctx Fault Refusal) :
    Run σ Req Resp Ctx Fault Refusal :=
  { run with journal := run.journal.push event }

/-- Give up all work and end the flow. -/
def shutDown
    (env : Surroundings σ Req Resp Ctx Fault Refusal)
    (run : Run σ Req Resp Ctx Fault Refusal) :
    Run σ Req Resp Ctx Fault Refusal :=
  { run with
    flow := run.flow.shutDown
    outside := env.abandon run.outside run.flow.inFlight }

/-- Call the hook, if there is one. -/
def notify
    (env : Surroundings σ Req Resp Ctx Fault Refusal)
    (notice : Notice Resp)
    (run : Run σ Req Resp Ctx Fault Refusal) :
    Run σ Req Resp Ctx Fault Refusal :=
  if run.flow.settings.observed then
    let noted := run.log (.notified (env.now run.outside) notice)
    { noted with outside := env.notify run.outside notice }
  else
    run

/-- Hand an attempt to the stage. -/
def submit
    (env : Surroundings σ Req Resp Ctx Fault Refusal)
    (attempt : Attempt Req Ctx)
    (place : Option Place)
    (run : Run σ Req Resp Ctx Fault Refusal) :
    Run σ Req Resp Ctx Fault Refusal :=
  let flow := run.flow
  let submission : Submission Req Ctx := {
    ticket := flow.nextTicket
    attempt := attempt
    place := place
  }
  let noted :=
    run.log (.submitted (env.now run.outside) submission (flow.inFlight.length + 1))
  { noted with
    flow := {
      flow with
      nextTicket := flow.nextTicket + 1
      inFlight := flow.inFlight ++ [submission]
    }
    outside := env.submit run.outside submission.ticket attempt.item.request }

/-! ## Giving out -/

/-- Stop with an item. -/
def yield
    (item : Item Resp Ctx Fault Refusal)
    (run : Run σ Req Resp Ctx Fault Refusal) :
    Next Resp Ctx Fault Refusal × Run σ Req Resp Ctx Fault Refusal :=
  (.stop (.item item), run.log (.yielded item))

/-- End the flow with a fault. -/
def abort
    (env : Surroundings σ Req Resp Ctx Fault Refusal)
    (error : FlowError Fault Refusal)
    (run : Run σ Req Resp Ctx Fault Refusal) :
    Next Resp Ctx Fault Refusal × Run σ Req Resp Ctx Fault Refusal :=
  let noted := run.log (.aborted run.flow.inFlightCount run.flow.pendingCount error)
  (noted.shutDown env).yield (.error error)

/-- Give out the last response of an element. -/
def emit
    (submission : Submission Req Ctx)
    (response : Resp)
    (exhausted : Bool)
    (run : Run σ Req Resp Ctx Fault Refusal) :
    Next Resp Ctx Fault Refusal × Run σ Req Resp Ctx Fault Refusal :=
  run.yield (.ok {
    response := response
    context := submission.attempt.item.context
    attempts := submission.attempt.number + 1
    exhausted := exhausted
  })

/-! ## The stations -/

/-- The first station: promote what is due. -/
def promote
    (env : Surroundings σ Req Resp Ctx Fault Refusal)
    (run : Run σ Req Resp Ctx Fault Refusal) :
    Next Resp Ctx Fault Refusal × Run σ Req Resp Ctx Fault Refusal :=
  let now := env.now run.outside
  let noted := run.log (.roundBegun now)
  (.go .fill, {
    noted with
    flow := { run.flow with retries := (run.flow.retries.promoteDue now).2 }
  })

/-- The second station: fill one free slot, if that is possible. -/
def fill
    (env : Surroundings σ Req Resp Ctx Fault Refusal)
    (run : Run σ Req Resp Ctx Fault Refusal) :
    Next Resp Ctx Fault Refusal × Run σ Req Resp Ctx Fault Refusal :=
  let flow := run.flow
  if flow.HasSlot then
    match flow.retries.popReady? with
    | some (entry, retries) =>
        let popped := { run with flow := { flow with retries := retries } }
        (.go .fill, popped.submit env entry.payload (some entry.place))
    | none =>
        if flow.Gated then
          (.go .collect, run)
        else
          let (offer, outside) := env.pull run.outside
          let asked := { run with outside := outside }.log
            (.feedAsked (env.now outside) offer)
          match offer with
          | .item item => (.go .fill, asked.submit env (Attempt.fresh item) none)
          | .ended => (.go .fill, { asked with flow := { flow with feedEnded := true } })
          | .pending => (.go .collect, asked)
  else
    (.go .collect, run)

/--
Schedule a follow-up that a response asks for, or tell why that cannot be done.

Its delay is counted from `since`, and the hook is told before it is scheduled.
-/
def schedule
    (env : Surroundings σ Req Resp Ctx Fault Refusal)
    (submission : Submission Req Ctx)
    (response : Resp)
    (since : Instant)
    (item : WorkItem Req Ctx)
    (run : Run σ Req Resp Ctx Fault Refusal) :
    Option Breakdown × Run σ Req Resp Ctx Fault Refusal :=
  let number := submission.attempt.number + 1
  match run.flow.settings.policy.delay number run.flow.random with
  | .error cause => (some (.noDelay cause), run)
  | .ok (delay, random) =>
      let drawn := { run with flow := { run.flow with random := random } }
      let told := drawn.notify env {
        attempt := submission.attempt.number
        response := response
        delay := some delay
      }
      let announced := told.log (.retryAnnounced number delay)
      let attempt := Attempt.followUp item number submission.ticket
      match announced.flow.retries.schedule? attempt delay since with
      | none => (some .clockOverflow, announced)
      | some (entry, retries) =>
          let noted := announced.log (.retryScheduled entry)
          (none, { noted with flow := { noted.flow with retries := retries } })

/-- Schedule the follow-ups that a response asks for, in order. -/
def scheduleAll
    (env : Surroundings σ Req Resp Ctx Fault Refusal)
    (submission : Submission Req Ctx)
    (response : Resp)
    (since : Instant) :
    List (WorkItem Req Ctx) →
    Run σ Req Resp Ctx Fault Refusal →
    Next Resp Ctx Fault Refusal × Run σ Req Resp Ctx Fault Refusal
  | [], run => (.go .promote, run)
  | item :: rest, run =>
      match run.schedule env submission response since item with
      | (some cause, after) => (.stop (.brokenDown cause), after)
      | (none, after) => scheduleAll env submission response since rest after

/-- What follows when a retry is asked for and no attempt is left. -/
def exhaust
    (env : Surroundings σ Req Resp Ctx Fault Refusal)
    (submission : Submission Req Ctx)
    (response : Resp)
    (run : Run σ Req Resp Ctx Fault Refusal) :
    Next Resp Ctx Fault Refusal × Run σ Req Resp Ctx Fault Refusal :=
  let attempts := submission.attempt.number + 1
  let told := run.notify env {
    attempt := submission.attempt.number
    response := response
    delay := none
  }
  let noted := told.log (.attemptsExhausted attempts)
  match noted.flow.settings.policy.exhaustion with
  | .emitLast => noted.emit submission response true
  | .fail => noted.abort env (.exhausted attempts)

/-- What follows from the judgement on the response to a submission. -/
def obey
    (env : Surroundings σ Req Resp Ctx Fault Refusal)
    (submission : Submission Req Ctx)
    (response : Resp)
    (run : Run σ Req Resp Ctx Fault Refusal) :
    Except Refusal (Verdict Req Ctx) →
    Next Resp Ctx Fault Refusal × Run σ Req Resp Ctx Fault Refusal
  | .error refusal => run.abort env (.classifier refusal)
  | .ok .done => run.emit submission response false
  | .ok (.retryWith []) => (.go .promote, run)
  | .ok (.retryWith (first :: others)) =>
      if run.flow.settings.policy.maxAttempts ≤ submission.attempt.number then
        run.exhaust env submission response
      else
        run.scheduleAll env submission response (env.now run.outside) (first :: others)

/-- What follows from the answer to a submission. -/
def settle
    (env : Surroundings σ Req Resp Ctx Fault Refusal)
    (submission : Submission Req Ctx)
    (answer : Except Fault Resp)
    (run : Run σ Req Resp Ctx Fault Refusal) :
    Next Resp Ctx Fault Refusal × Run σ Req Resp Ctx Fault Refusal :=
  match answer with
  | .error fault => run.abort env (.stage fault)
  | .ok response =>
      let (verdict, outside) :=
        env.classify run.outside response submission.attempt.item.context
      let judged := { run with outside := outside }.log
        (.judged (env.now outside) submission response verdict)
      judged.obey env submission response verdict

/-- The third station: take one answer, if there is any. -/
def collect
    (env : Surroundings σ Req Resp Ctx Fault Refusal)
    (run : Run σ Req Resp Ctx Fault Refusal) :
    Next Resp Ctx Fault Refusal × Run σ Req Resp Ctx Fault Refusal :=
  match env.collect run.outside run.flow.inFlight with
  | (none, outside) => (.go .timer, { run with outside := outside })
  | (some completion, outside) =>
      let submission := run.flow.inFlight.get completion.index
      let taken := { run with
        outside := outside
        flow := { run.flow with inFlight := run.flow.inFlight.eraseIdx completion.index } }
      let noted := taken.log (.answered (env.now outside) submission completion.answer)
      noted.settle env submission completion.answer

/-- The fourth station: look at the retry timer, then see whether anything is left to do. -/
def lookAtTimer
    (env : Surroundings σ Req Resp Ctx Fault Refusal)
    (run : Run σ Req Resp Ctx Fault Refusal) :
    Next Resp Ctx Fault Refusal × Run σ Req Resp Ctx Fault Refusal :=
  let (fired, outside) : Bool × σ :=
    match run.flow.retries.nextDeadline? with
    | none => (false, run.outside)
    | some deadline => env.timerFired run.outside deadline
  let now := env.now outside
  let (promoted, retries) := run.flow.retries.pollTimer fired now
  let looked := { run with
    outside := outside
    flow := { run.flow with retries := retries } }
  if promoted then
    (.go .promote, looked.log (.timerFired now))
  else if looked.flow.Settled then
    (.stop .ended, { looked with flow := { looked.flow with terminated := true } }.log .ended)
  else
    (.stop .pending, looked)

/-- The work of one station. -/
def step
    (env : Surroundings σ Req Resp Ctx Fault Refusal)
    (station : Station)
    (run : Run σ Req Resp Ctx Fault Refusal) :
    Next Resp Ctx Fault Refusal × Run σ Req Resp Ctx Fault Refusal :=
  match station with
  | .promote => run.promote env
  | .fill => run.fill env
  | .collect => run.collect env
  | .timer => run.lookAtTimer env

end Run

end Resubmit
