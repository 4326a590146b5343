import Resubmit.Simulation.Consumer

namespace Resubmit.BatchGet

/-!
# Demonstration: a batch of keys

A table serves only so many keys per call and names the rest.  The classifier asks
for that rest again, so each call gets further into the batch.
-/

/-- The keys to look up. -/
structure Request where
  keys : List String
  deriving Repr, DecidableEq

/-- The keys that were served and those that were not. -/
structure Response where
  served : List String
  unprocessed : List String
  deriving Repr, DecidableEq

def value (key : String) : Nat :=
  key.utf8ByteSize * 100

/-- The served keys in ascending order, each once, with their values. -/
def Response.items (response : Response) : List (String × Nat) :=
  let sorted := response.served.mergeSort fun a b => decide (a ≤ b)
  sorted.eraseReps.map fun key => (key, value key)

def latency : Duration :=
  Duration.ofMillis 5

/-- Serve the first keys of a request, at most `perCall` of them. -/
def serve (perCall : Nat) (request : Request) : Response where
  served := request.keys.take perCall
  unprocessed := request.keys.drop perCall

/-- Ask again for what was not processed. -/
def judge (response : Response) (context : Ctx) : Verdict Request Ctx :=
  if response.unprocessed.isEmpty then
    .done
  else
    .retry ⟨response.unprocessed⟩ context

def workItems (batches : List (String × List String)) : List (WorkItem Request String) :=
  batches.map fun (table, keys) => ⟨⟨keys⟩, table⟩

/-! ## The program -/

def batches : List (String × List String) := [
  ("users", ["ada", "grace", "linus", "barbara", "ken"]),
  ("orders", ["o-1", "o-2", "o-3"]),
  ("carts", ["c-1"])
]

def policy : Policy where
  maxAttempts := 8
  base := Duration.ofMillis 10
  max := Duration.ofMillis 5000
  jitter := 0.2
  exhaustion := .emitLast

/-- A text moved to the right by blanks to a width. -/
def aligned (width : Nat) (text : String) : String :=
  String.ofList (List.replicate (width - text.length) ' ') ++ text

def keysText (response : Response) : String :=
  "[" ++ ", ".intercalate (response.items.map fun (key, _) => Text.quoted key) ++ "]"

def outcomeLine (outcome : Outcome Response String) : String :=
  aligned 8 outcome.context
    ++ ": last call returned " ++ keysText outcome.response
    ++ " after " ++ toString outcome.attempts.toNat ++ " attempt(s)"
    ++ if outcome.exhausted then " (exhausted)" else ""

def itemLine (item : Item Response String Empty Empty) : String :=
  match item with
  | .ok outcome => outcomeLine outcome
  | .error e => "flow failed: " ++ e.message Empty.elim Empty.elim

def banner : List String := [
  "======================================",
  "          Batch Get Example           ",
  "======================================"
]

/-- The lines that the program prints; the jitter comes from `entropy`. -/
def program (entropy : ChaCha12) : List String :=
  match (Builder.ofPolicy policy 2).build entropy with
  | .error e => banner ++ ["invalid configuration: " ++ e.message]
  | .ok flow =>
      let stage := MockStage.answering (fun request => .ok (serve 2 request)) fun _ => latency
      let world := World.start stage (Timetable.ofItems (workItems batches))
      let (items, _) := SimulatedRun.results
        (fun response context => .ok (judge response context))
        (Run.start flow world)
      banner ++ items.map itemLine

end Resubmit.BatchGet
