import Resubmit.Flow.Poll
import Resubmit.Flow.Text

namespace Resubmit

/-!
# A flow driven by hand

On a workbench every step is taken by an operator: items are pushed into the feed,
submissions are answered one by one, time is moved and the flow is polled.  An
answer puts its submission into a queue, unless it stands there already, and a poll
looks only at submissions in the queue.  A poll may read a clock that lags behind
the one of the timers.
-/

/-- The world around a flow on a workbench. -/
structure Bench (Req Resp Ctx Fault : Type) where
  clock : Instant
  /-- How many nanoseconds the clock that the flow reads is behind. -/
  lag : Nat
  /-- The items that the feed holds, the first one first. -/
  feed : List (WorkItem Req Ctx)
  /-- Whether the feed ends after its last item. -/
  closed : Bool
  /-- Every request submitted so far, at the place of its ticket. -/
  requests : Array Req
  /-- The answers that were given and not yet taken, with their tickets. -/
  answers : List (Nat × Except Fault Resp)
  /-- The tickets that the operator has answered. -/
  used : List Nat
  /-- The submissions to look at, the first one first. -/
  queue : List Nat

namespace Bench

variable {Req Resp Ctx Fault Refusal : Type}

/-- A workbench on which nothing has happened. -/
def start : Bench Req Resp Ctx Fault where
  clock := .zero
  lag := 0
  feed := []
  closed := false
  requests := #[]
  answers := []
  used := []
  queue := []

def now (bench : Bench Req Resp Ctx Fault) : Instant where
  nanos := bench.clock.nanos - bench.lag

def pull (bench : Bench Req Resp Ctx Fault) : Offer Req Ctx × Bench Req Resp Ctx Fault :=
  match bench.feed with
  | [] => (if bench.closed then .ended else .pending, bench)
  | item :: rest => (.item item, { bench with feed := rest })

def submit
    (bench : Bench Req Resp Ctx Fault)
    (ticket : Nat)
    (request : Req) :
    Bench Req Resp Ctx Fault :=
  { bench with
    requests := bench.requests.push request
    queue := bench.queue ++ [ticket] }

/-- Go through the queue until a submission has an answer. -/
def lookThrough
    (inFlight : List (Submission Req Ctx)) :
    List Nat →
    Bench Req Resp Ctx Fault →
    Option (Completion Resp Fault inFlight) × Bench Req Resp Ctx Fault
  | [], bench => (none, { bench with queue := [] })
  | ticket :: rest, bench =>
      match
        inFlight.findFinIdx? (fun submission => submission.ticket == ticket),
        bench.answers.lookup ticket
      with
      | some index, some answer =>
          (some ⟨index, answer⟩, {
            bench with
            queue := rest
            answers := bench.answers.filter fun entry => entry.1 != ticket
          })
      | _, _ => lookThrough inFlight rest bench

/-- Forget submissions. -/
def abandon
    (bench : Bench Req Resp Ctx Fault)
    (submissions : List (Submission Req Ctx)) :
    Bench Req Resp Ctx Fault :=
  let tickets := submissions.map fun submission => submission.ticket
  { bench with
    answers := bench.answers.filter fun entry => !tickets.contains entry.1
    queue := bench.queue.filter fun ticket => !tickets.contains ticket }

/-- The surroundings of a flow on a workbench, judging by a function. -/
def surroundings
    (judge : Resp → Ctx → Except Refusal (Verdict Req Ctx)) :
    Surroundings (Bench Req Resp Ctx Fault) Req Resp Ctx Fault Refusal where
  now := now
  pull := pull
  submit := submit
  collect bench inFlight := lookThrough inFlight bench.queue bench
  classify bench response context := (judge response context, bench)
  timerFired bench deadline := (Instant.timerOver bench.clock deadline, bench)
  notify bench _ := bench
  abandon := abandon

end Bench

/-- What an operator does. -/
inductive Operation (Req Resp Ctx Fault : Type) where
  /-- Put an item into the feed. -/
  | push (item : WorkItem Req Ctx)
  /-- Let the feed end after its last item. -/
  | close
  /-- Poll the flow, which reads a clock so many nanoseconds behind. -/
  | poll (lag : Nat)
  /-- Poll the flow until it gives no item. -/
  | drain
  /-- Answer a submission; the answer may depend on the request. -/
  | answer (ticket : Nat) (respond : Req → Except Fault Resp)
  /-- Move time on by so many nanoseconds. -/
  | advance (nanos : Nat)
  | cancel
  /-- Do away with the flow. -/
  | drop
  /-- Show the flow. -/
  | inspect

/-- What a poll on a workbench shows. -/
inductive Showing (Resp Ctx Fault Refusal : Type) where
  /-- There is no flow any more. -/
  | dropped
  | result (result : PollResult Resp Ctx Fault Refusal)
  /-- The budget was used up. -/
  | unfinished

/-- What becomes of an answer. -/
inductive Delivery where
  | sent
  /-- The flow has given the submission up. -/
  | gone
  | alreadyAnswered
  | unknown
  deriving Repr, DecidableEq

/-- What an operation shows. -/
inductive Reaction (Resp Ctx Fault Refusal : Type) where
  | nothing
  | success (value : Bool)
  | showing (showing : Showing Resp Ctx Fault Refusal)
  | showings (showings : List (Showing Resp Ctx Fault Refusal))
  | delivery (delivery : Delivery)
  | text (text : Option String)
  /-- The clock cannot represent the time to which it should be moved. -/
  | clockOverflow

/-- A workbench with its flow. -/
structure Workbench (Req Resp Ctx Fault Refusal : Type) where
  run : Run (Bench Req Resp Ctx Fault) Req Resp Ctx Fault Refusal
  /-- Whether the flow has been done away with. -/
  dropped : Bool
  /-- Whether the flow or the clock has broken down, after which nothing is done any more. -/
  brokenDown : Bool

namespace Workbench

variable {Req Resp Ctx Fault Refusal : Type}

/-- A workbench with a flow that has not begun. -/
def start (flow : Flow Req Ctx) : Workbench Req Resp Ctx Fault Refusal where
  run := Run.start flow Bench.start
  dropped := false
  brokenDown := false

def mapBench
    (bench : Workbench Req Resp Ctx Fault Refusal)
    (f : Bench Req Resp Ctx Fault → Bench Req Resp Ctx Fault) :
    Workbench Req Resp Ctx Fault Refusal :=
  { bench with run := { bench.run with outside := f bench.run.outside } }

/-- Poll the flow by a clock that is behind. -/
def poll
    (env : Surroundings (Bench Req Resp Ctx Fault) Req Resp Ctx Fault Refusal)
    (budget : Nat)
    (lag : Nat)
    (bench : Workbench Req Resp Ctx Fault Refusal) :
    Showing Resp Ctx Fault Refusal × Workbench Req Resp Ctx Fault Refusal :=
  if bench.dropped then
    (.dropped, bench)
  else
    let lagging := bench.mapBench fun outside => { outside with lag := lag }
    let (result, run) := lagging.run.poll env budget
    let polled :=
      { bench with run := run }.mapBench fun outside => { outside with lag := 0 }
    match result with
    | none => (.unfinished, polled)
    | some (.brokenDown cause) => (.result (.brokenDown cause), { polled with brokenDown := true })
    | some other => (.result other, polled)

/-- Whether a poll gave out an item, so that a drain goes on. -/
def Showing.isItem : Showing Resp Ctx Fault Refusal → Bool
  | .result (.item _) => true
  | _ => false

/-- Poll the flow until it gives no item, at most `polls` times. -/
def drain
    (env : Surroundings (Bench Req Resp Ctx Fault) Req Resp Ctx Fault Refusal)
    (budget : Nat) :
    Nat →
    Workbench Req Resp Ctx Fault Refusal →
    List (Showing Resp Ctx Fault Refusal) × Workbench Req Resp Ctx Fault Refusal
  | 0, bench => ([.unfinished], bench)
  | polls + 1, bench =>
      let (showing, polled) := bench.poll env budget 0
      if Showing.isItem showing then
        let (later, drained) := drain env budget polls polled
        (showing :: later, drained)
      else
        ([showing], polled)

/-- Give the operator's answer to a submission. -/
def answer
    (ticket : Nat)
    (respond : Req → Except Fault Resp)
    (bench : Workbench Req Resp Ctx Fault Refusal) :
    Delivery × Workbench Req Resp Ctx Fault Refusal :=
  let outside := bench.run.outside
  match outside.requests[ticket]? with
  | none => (.unknown, bench)
  | some request =>
      if outside.used.contains ticket then
        (.alreadyAnswered, bench)
      else
        let used := ticket :: outside.used
        let awaited := !bench.dropped && bench.run.flow.inFlight.any fun submission =>
          submission.ticket == ticket
        if awaited then
          (.sent, bench.mapBench fun outside => {
            outside with
            used := used
            answers := outside.answers ++ [(ticket, respond request)]
            queue :=
              if outside.queue.contains ticket then outside.queue
              else outside.queue ++ [ticket]
          })
        else
          (.gone, bench.mapBench fun outside => { outside with used := used })

/-- Carry out an operation. -/
def perform
    (env : Surroundings (Bench Req Resp Ctx Fault) Req Resp Ctx Fault Refusal)
    (budget : Nat)
    (bench : Workbench Req Resp Ctx Fault Refusal) :
    Operation Req Resp Ctx Fault →
    Reaction Resp Ctx Fault Refusal × Workbench Req Resp Ctx Fault Refusal
  | .push item =>
      if bench.dropped || bench.run.outside.closed then
        (.success false, bench)
      else
        (.success true, bench.mapBench fun outside =>
          { outside with feed := outside.feed ++ [item] })
  | .close =>
      (.success (!bench.run.outside.closed), bench.mapBench fun outside =>
        { outside with closed := true })
  | .poll lag =>
      let (showing, polled) := bench.poll env budget lag
      (.showing showing, polled)
  | .drain =>
      let (showings, drained) := bench.drain env budget budget
      (.showings showings, drained)
  | .answer ticket respond =>
      let (delivery, answered) := bench.answer ticket respond
      (.delivery delivery, answered)
  | .advance nanos =>
      match bench.run.outside.clock.later? nanos with
      | none => (.clockOverflow, { bench with brokenDown := true })
      | some later => (.nothing, bench.mapBench fun outside => { outside with clock := later })
  | .cancel =>
      if bench.dropped then
        (.nothing, bench)
      else
        (.nothing, { bench with run := bench.run.cancel env })
  | .drop =>
      if bench.dropped then
        (.success false, bench)
      else
        let released := { bench.run with outside := bench.run.release env }
        (.success true, { bench with run := released, dropped := true })
  | .inspect =>
      (.text (if bench.dropped then none else some bench.run.flow.inspect), bench)

/-- A reaction and the workbench as it was before and after. -/
structure Step (Req Resp Ctx Fault Refusal : Type) where
  reaction : Reaction Resp Ctx Fault Refusal
  before : Workbench Req Resp Ctx Fault Refusal
  after : Workbench Req Resp Ctx Fault Refusal

def Step.events
    (step : Step Req Resp Ctx Fault Refusal) :
    List (Event Req Resp Ctx Fault Refusal) :=
  step.after.run.journal.toList.drop step.before.run.journal.size

/-- Carry out operations in order, up to a breakdown. -/
def performAll
    (env : Surroundings (Bench Req Resp Ctx Fault) Req Resp Ctx Fault Refusal)
    (budget : Nat)
    (bench : Workbench Req Resp Ctx Fault Refusal) :
    List (Operation Req Resp Ctx Fault) →
    List (Step Req Resp Ctx Fault Refusal)
  | [] => []
  | operation :: rest =>
      if bench.brokenDown then
        []
      else
        let (reaction, after) := bench.perform env budget operation
        ⟨reaction, bench, after⟩ :: performAll env budget after rest

end Workbench

end Resubmit
