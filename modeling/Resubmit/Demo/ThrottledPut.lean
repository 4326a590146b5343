import Resubmit.Simulation.Consumer

namespace Resubmit.ThrottledPut

/-!
# Demonstration: writes that are throttled

A write endpoint turns some calls away for a while.  Three examples resubmit them:
one tells of every retry, one ends at an answer that it does not know, and one
fails when the attempts run out.
-/

/-- The answer of the endpoint. -/
inductive Status where
  | ok
  | throttled
  | teapot
  deriving Repr, DecidableEq

def Status.name : Status → String
  | .ok => "Ok"
  | .throttled => "Throttled"
  | .teapot => "Teapot"

/-- A write, and how often it will still be turned away. -/
structure Request where
  key : UInt32
  throttled : UInt32
  deriving Repr, DecidableEq

/-- What became of a write, and how often it will still be turned away. -/
structure Response where
  key : UInt32
  status : Status
  throttled : UInt32
  deriving Repr, DecidableEq

/-- The key at which the endpoint answers strangely. -/
def strangeKey : UInt32 := 418

def put (request : Request) : Response :=
  if request.throttled = 0 then
    { key := request.key
      status := if request.key = strangeKey then .teapot else .ok
      throttled := 0 }
  else
    { key := request.key
      status := .throttled
      throttled := request.throttled - 1 }

def latency : Duration :=
  Duration.ofMillis 2

/-- The items of keys, each with the number of times it is turned away. -/
def workItems (keys : List (UInt32 × UInt32)) : List (WorkItem Request UInt32) :=
  keys.map fun (key, throttled) => ⟨⟨key, throttled⟩, key⟩

def again (response : Response) (key : UInt32) : Verdict Request UInt32 :=
  .retry ⟨key, response.throttled⟩ key

/-- Retry what was turned away and accept every other answer. -/
def judge (response : Response) (key : UInt32) : Except String (Verdict Request UInt32) :=
  match response.status with
  | .throttled => .ok (again response key)
  | _ => .ok .done

/-- Retry what was turned away and refuse an answer that is not known. -/
def judgeStrictly (response : Response) (key : UInt32) : Except String (Verdict Request UInt32) :=
  match response.status with
  | .ok => .ok .done
  | .throttled => .ok (again response key)
  | .teapot => .error ("key " ++ toString key.toNat ++ " answered with a teapot")

/-! ## The examples -/

/-- A run of a flow over the endpoint. -/
abbrev PutRun : Type :=
  SimulatedRun Request Response UInt32 Empty String

abbrev PutItem : Type :=
  Item Response UInt32 Empty String

def errorText (e : FlowError Empty String) : String :=
  e.message Empty.elim id

/-- The items of keys that go through a flow, and the run that gave them. -/
def results
    (builder : Builder)
    (entropy : ChaCha12)
    (judge : Response → UInt32 → Except String (Verdict Request UInt32))
    (keys : List (UInt32 × UInt32)) :
    Except ConfigError (List PutItem × PutRun) :=
  (builder.build entropy).map fun flow =>
    let stage := MockStage.answering (fun request => .ok (put request)) fun _ => latency
    let world := World.start stage (Timetable.ofItems (workItems keys))
    SimulatedRun.results judge (Run.start flow world)

def underHeading
    (heading : String)
    (outcome : Except ConfigError (List PutItem × PutRun))
    (lines : List PutItem → PutRun → List String) :
    List String :=
  ["", "=== " ++ heading ++ " ==="] ++
    match outcome with
    | .error e => ["invalid configuration: " ++ e.message]
    | .ok (items, run) => lines items run

def noticeLine (notice : Notice Response) : String :=
  let key := toString notice.response.key.toNat
  match notice.delay with
  | some delay =>
      "  key " ++ key ++ " throttled on attempt " ++ toString (notice.attempt + 1).toNat
        ++ ", retrying in " ++ delay.text
  | none => "  key " ++ key ++ " gave up"

def itemLine (item : PutItem) : String :=
  match item with
  | .error e => "flow failed: " ++ errorText e
  | .ok outcome =>
      let key := toString outcome.context.toNat
      let attempts := toString outcome.attempts.toNat
      if outcome.exhausted then
        "key " ++ key ++ ": still " ++ outcome.response.status.name
          ++ " after " ++ attempts ++ " attempts"
      else
        "key " ++ key ++ ": " ++ outcome.response.status.name
          ++ " after " ++ attempts ++ " attempt(s)"

/-- The first example: retry throttled writes and tell of each retry. -/
def retryThrottled (entropy : ChaCha12) : List String :=
  let builder : Builder := {
    Builder.standard with
    policy := {
      maxAttempts := 5
      base := Duration.ofMillis 20
      max := Duration.ofMillis 500
      jitter := 0.25
      exhaustion := .emitLast
    }
    parallelism := 4
    observed := true
  }
  let outcome := results builder entropy judge [(1, 0), (2, 2), (3, 1), (4, 7)]
  underHeading "Example 1: Retry Throttled Writes" outcome fun items run =>
    let notices := run.journal.toList.filterMap Event.notice?
    notices.map (fun (_, notice) => noticeLine notice)
      ++ items.map itemLine
      ++ ["hook fired " ++ toString notices.length ++ " times"]

def strictLine (item : PutItem) : String :=
  match item with
  | .ok outcome =>
      "key " ++ toString outcome.context.toNat ++ ": " ++ outcome.response.status.name
  | .error (.classifier reason) => "aborted: " ++ reason
  | .error e => "aborted: " ++ errorText e

/-- The second example: an answer that is not known ends the flow. -/
def fatalClassification (entropy : ChaCha12) : List String :=
  let policy := { Policy.exponential (Duration.ofMillis 20) with maxAttempts := 3 }
  let outcome :=
    results (Builder.ofPolicy policy 1) entropy judgeStrictly [(1, 0), (418, 0), (2, 0)]
  underHeading "Example 2: Fatal Classification" outcome fun items _ =>
    items.map strictLine

def lastLine (last : Option PutItem) : String :=
  match last with
  | some (.error (.exhausted attempts)) =>
      "flow failed as configured: " ++ errorText (.exhausted attempts)
  | _ => "unexpected"

/-- The third example: the flow fails when the attempts run out. -/
def failOnExhaustion (entropy : ChaCha12) : List String :=
  let policy : Policy := {
    maxAttempts := 2
    base := Duration.ofMillis 10
    max := Duration.ofMillis 100
    jitter := 0.0
    exhaustion := .fail
  }
  let outcome := results (Builder.ofPolicy policy 1) entropy judge [(7, 10)]
  underHeading "Example 3: Fail On Exhaustion" outcome fun items _ =>
    [lastLine items.getLast?]

/-! ## The program -/

/-- The lines that the program prints; the jitter comes from `entropy`. -/
def program (entropy : ChaCha12) : List String :=
  [
    "======================================",
    "     Retry Failed Requests Example    ",
    "======================================"
  ]
    ++ retryThrottled entropy
    ++ fatalClassification entropy
    ++ failOnExhaustion entropy
    ++ [
    "",
    "======================================",
    "           Examples Complete           ",
    "======================================"
  ]

end Resubmit.ThrottledPut
