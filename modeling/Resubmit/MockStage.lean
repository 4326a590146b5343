import Resubmit.Instant
import Resubmit.Text.Inspection

namespace Resubmit

/-!
# A scripted stage

A mock stage answers each request as a function says, after a latency that another
function gives.  It records every submission and counts how many are in flight.
The latency begins when a submission is first looked at, and is over by a timer.
-/

/-- A fault that a mock stage was told to answer with. -/
structure StageFault where
  reason : String
  deriving Repr, DecidableEq, BEq

namespace StageFault

/-- The message for users. -/
def message (fault : StageFault) : String :=
  "stage fault: " ++ fault.reason

/-- The form for inspection. -/
def inspect (fault : StageFault) : String :=
  "StageFault(" ++ Text.quoted fault.reason ++ ")"

end StageFault

/-- A recorded submission. -/
structure Submitted (Req : Type) where
  time : Instant
  request : Req
  deriving Repr, DecidableEq

/-- A submission that has been neither answered nor dropped. -/
structure Open (Req : Type) where
  ticket : Nat
  request : Req
  /-- The end of the latency, once the submission has been looked at. -/
  deadline : Option Instant
  deriving Repr, DecidableEq

/-- What looking at a submission gives. -/
inductive StageReply (Resp Fault : Type) where
  /-- The submission is not open. -/
  | unknown
  /-- The submission sleeps until the deadline. -/
  | pending (deadline : Instant)
  /-- The clock cannot represent the end of the latency. -/
  | clockOverflow
  | ready (answer : Except Fault Resp)

/-- A scripted stage with what it has recorded. -/
structure MockStage (Req Resp Fault : Type) where
  respond : Req → Except Fault Resp
  latency : Req → Duration
  /-- Every submission, in order. -/
  submissions : Array (Submitted Req)
  /-- The open submissions, the oldest first. -/
  opened : List (Open Req)
  inFlight : Nat
  /-- The greatest number that was in flight at once. -/
  peak : Nat

namespace MockStage

variable {Req Resp Fault : Type}

/-- A stage that answers as a function says, to which nothing has been submitted. -/
def answering
    (respond : Req → Except Fault Resp)
    (latency : Req → Duration) :
    MockStage Req Resp Fault where
  respond := respond
  latency := latency
  submissions := #[]
  opened := []
  inFlight := 0
  peak := 0

/-- Take in a request under a ticket. -/
def submit
    (stage : MockStage Req Resp Fault)
    (now : Instant)
    (ticket : Nat)
    (request : Req) :
    MockStage Req Resp Fault :=
  let inFlight := stage.inFlight + 1
  { stage with
    submissions := stage.submissions.push ⟨now, request⟩
    opened := stage.opened ++ [⟨ticket, request, none⟩]
    inFlight := inFlight
    peak := max stage.peak inFlight }

/-- Take a submission off the open ones. -/
def release (stage : MockStage Req Resp Fault) (ticket : Nat) : MockStage Req Resp Fault :=
  { stage with
    opened := stage.opened.eraseP fun entry => entry.ticket == ticket
    inFlight := stage.inFlight - 1 }

/-- Let a submission sleep until a deadline. -/
def sleep
    (stage : MockStage Req Resp Fault)
    (ticket : Nat)
    (deadline : Instant) :
    MockStage Req Resp Fault :=
  { stage with
    opened := stage.opened.map fun entry =>
      if entry.ticket = ticket then { entry with deadline := some deadline } else entry }

/-- The open submission of a ticket. -/
def find? (stage : MockStage Req Resp Fault) (ticket : Nat) : Option (Open Req) :=
  stage.opened.find? fun entry => entry.ticket == ticket

/-- Answer an open submission. -/
def answer
    (stage : MockStage Req Resp Fault)
    (entry : Open Req) :
    StageReply Resp Fault × MockStage Req Resp Fault :=
  (.ready (stage.respond entry.request), stage.release entry.ticket)

/-- Look at a submission, which answers it if it has no latency or its latency is over. -/
def poll
    (stage : MockStage Req Resp Fault)
    (now : Instant)
    (ticket : Nat) :
    StageReply Resp Fault × MockStage Req Resp Fault :=
  match stage.find? ticket with
  | none => (.unknown, stage)
  | some entry =>
      let latency := stage.latency entry.request
      if latency.isZero then
        stage.answer entry
      else
        match entry.deadline.or (now.sleepEnd? latency) with
        | none => (.clockOverflow, stage)
        | some deadline =>
            if Instant.timerOver now deadline then
              stage.answer entry
            else
              (.pending deadline, stage.sleep ticket deadline)

/-- Drop a submission; tells whether it was open. -/
def drop
    (stage : MockStage Req Resp Fault)
    (ticket : Nat) :
    Bool × MockStage Req Resp Fault :=
  match stage.find? ticket with
  | none => (false, stage)
  | some _ => (true, stage.release ticket)

/-- The form for inspection. -/
def inspect (stage : MockStage Req Resp Fault) : String :=
  Text.openRecord "MockStage" [
    ("in_flight", toString stage.inFlight),
    ("peak_in_flight", toString stage.peak)
  ]

end MockStage

end Resubmit
