import Resubmit.Flow.Surroundings
import Resubmit.Json

namespace Resubmit

/-!
# The journal of a flow

Everything a flow does is an event, and the journal of a run lists the events in
order.  What an observer is shown, be it log lines or the calls of the hook, is
read off the journal.
-/

/-- What a flow gives out: an outcome or, as its last item, a fault. -/
abbrev Item (Resp Ctx Fault Refusal : Type) : Type :=
  Except (FlowError Fault Refusal) (Outcome Resp Ctx)

/-- Something that a flow has done. -/
inductive Event (Req Resp Ctx Fault Refusal : Type) where
  /-- A round of a poll began, and retries due now were promoted. -/
  | roundBegun (now : Instant)
  /-- The feed was asked for an item. -/
  | feedAsked (now : Instant) (offer : Offer Req Ctx)
  /-- An attempt was handed to the stage; the count includes it. -/
  | submitted (now : Instant) (submission : Submission Req Ctx) (inFlight : Nat)
  | answered (now : Instant) (submission : Submission Req Ctx) (answer : Except Fault Resp)
  /-- The classifier judged the response to a submission. -/
  | judged
      (now : Instant)
      (submission : Submission Req Ctx)
      (response : Resp)
      (verdict : Except Refusal (Verdict Req Ctx))
  | notified (now : Instant) (notice : Notice Resp)
  /-- A retry is about to be scheduled. -/
  | retryAnnounced (attempt : UInt32) (delay : Duration)
  | retryScheduled (entry : Waiting (Attempt Req Ctx))
  | attemptsExhausted (attempts : UInt32)
  | timerFired (now : Instant)
  | yielded (item : Item Resp Ctx Fault Refusal)
  /-- The flow ended because nothing was left to do. -/
  | ended
  /-- The flow ended with a fault; the counts are of the work it gave up. -/
  | aborted (inFlight pending : Nat) (error : FlowError Fault Refusal)
  /-- The flow was cancelled; the counts are of the work it gave up. -/
  | cancelled (inFlight pending : Nat)

/-- How much attention a log line deserves. -/
inductive Level where
  | trace
  | debug
  | warn
  | error
  deriving Repr, DecidableEq

def Level.name : Level → String
  | .trace => "TRACE"
  | .debug => "DEBUG"
  | .warn => "WARN"
  | .error => "ERROR"

/-- A log line: a level, a message, and values with names. -/
structure LogLine where
  level : Level
  message : String
  fields : List (String × Json)

/-- The log line about a flow that has been built. -/
def Settings.logLine (settings : Settings) : LogLine where
  level := .debug
  message := "retry flow built"
  fields := [
    ("max_attempts", .int settings.policy.maxAttempts.toNat),
    ("parallelism", .int settings.parallelism),
    ("retry_capacity", .int settings.retryCapacity)
  ]

namespace Event

/-- The counts of the work that a flow gives up, as values of a log line. -/
def givenUp (inFlight pending : Nat) : List (String × Json) :=
  [("in_flight", .int inFlight), ("pending_retries", .int pending)]

/-- The log line about an event, if it has one. -/
def logLine? : Event Req Resp Ctx Fault Refusal → Option LogLine
  | .submitted _ submission inFlight =>
      some {
        level := .trace
        message := "submitting"
        fields := [
          ("attempt", .int submission.attempt.number.toNat),
          ("in_flight", .int inFlight)
        ]
      }
  | .judged _ submission _ (.ok (.retryWith [])) =>
      some {
        level := .trace
        message := "branch dropped by classifier"
        fields := [("attempt", .int submission.attempt.number.toNat)]
      }
  | .attemptsExhausted attempts =>
      some {
        level := .warn
        message := "retry attempts exhausted"
        fields := [("attempts", .int attempts.toNat)]
      }
  | .retryAnnounced attempt delay =>
      some {
        level := .debug
        message := "retry scheduled"
        fields := [("attempt", .int attempt.toNat), ("delay", .text delay.text)]
      }
  | .aborted inFlight pending error =>
      some {
        level := .error
        message := "retry flow aborted"
        fields := givenUp inFlight pending ++ [("kind", .text error.kind)]
      }
  | .cancelled inFlight pending =>
      some {
        level := .debug
        message := "retry flow cancelled"
        fields := givenUp inFlight pending
      }
  | _ => none

/-- The call of the hook, if the event is one, and when it was. -/
def notice? : Event Req Resp Ctx Fault Refusal → Option (Instant × Notice Resp)
  | .notified now notice => some (now, notice)
  | _ => none

/-- The item taken from the feed, if the event is that. -/
def pulled? : Event Req Resp Ctx Fault Refusal → Option (WorkItem Req Ctx)
  | .feedAsked _ (.item item) => some item
  | _ => none

def submission? : Event Req Resp Ctx Fault Refusal → Option (Submission Req Ctx)
  | .submitted _ submission _ => some submission
  | _ => none

def item? : Event Req Resp Ctx Fault Refusal → Option (Item Resp Ctx Fault Refusal)
  | .yielded item => some item
  | _ => none

end Event

end Resubmit
