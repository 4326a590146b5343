import Resubmit.Text.Inspection

namespace Resubmit

/-!
# Elements of a flow

Work items go from a feed into a flow, and outcomes come out.  In between an item is
on its way as a chain of attempts: attempt `0` is the item as it came from the feed,
and each later one was asked for by the response to an earlier submission.
-/

/-- A request with a context that goes along unchanged. -/
structure WorkItem (Req Ctx : Type) where
  request : Req
  context : Ctx
  deriving Repr, DecidableEq, BEq

/-- What a flow gives out for an element: its last response. -/
structure Outcome (Resp Ctx : Type) where
  response : Resp
  context : Ctx
  /-- How many submissions were made, the first one included. -/
  attempts : UInt32
  /-- Whether a retry was still asked for when the attempts had run out. -/
  exhausted : Bool
  deriving Repr, DecidableEq, BEq

namespace Outcome

def parts (outcome : Outcome Resp Ctx) : Resp × Ctx :=
  (outcome.response, outcome.context)

end Outcome

/-- A work item about to be submitted, and how it came to be. -/
structure Attempt (Req Ctx : Type) where
  item : WorkItem Req Ctx
  /-- Zero for an item from the feed, one more for each resubmission. -/
  number : UInt32
  /-- The ticket of the submission whose response asked for this attempt. -/
  parent : Option Nat
  deriving Repr, DecidableEq

namespace Attempt

/-- The first attempt of an item from the feed. -/
def fresh (item : WorkItem Req Ctx) : Attempt Req Ctx where
  item := item
  number := 0
  parent := none

/-- A later attempt that the response to a submission asked for. -/
def followUp
    (item : WorkItem Req Ctx)
    (number : UInt32)
    (parent : Nat) :
    Attempt Req Ctx where
  item := item
  number := number
  parent := some parent

end Attempt

/-- The judgement of a classifier on one response. -/
inductive Verdict (Req Ctx : Type) where
  /-- The response is final. -/
  | done
  /-- These items are to be submitted after a delay; without any the branch ends silently. -/
  | retryWith (followUps : List (WorkItem Req Ctx))
  deriving Repr, DecidableEq, BEq

namespace Verdict

def retry (request : Req) (context : Ctx) : Verdict Req Ctx :=
  .retryWith [⟨request, context⟩]

/-- End the branch without an outcome. -/
def dropBranch : Verdict Req Ctx :=
  .retryWith []

def isDone : Verdict Req Ctx → Bool
  | .done => true
  | .retryWith _ => false

/-- The items to be submitted again. -/
def followUps? : Verdict Req Ctx → Option (List (WorkItem Req Ctx))
  | .done => none
  | .retryWith followUps => some followUps

end Verdict

/-- A fault that ends a flow. -/
inductive FlowError (Fault Refusal : Type) where
  /-- The stage could not carry out a submission. -/
  | stage (fault : Fault)
  /-- The classifier could not judge a response. -/
  | classifier (refusal : Refusal)
  /-- An element ran out of attempts in a flow that fails then. -/
  | exhausted (attempts : UInt32)
  deriving Repr, DecidableEq, BEq

namespace FlowError

def kind : FlowError Fault Refusal → String
  | .stage _ => "stage"
  | .classifier _ => "classifier"
  | .exhausted _ => "exhausted"

def isStage : FlowError Fault Refusal → Bool
  | .stage _ => true
  | _ => false

def isClassifier : FlowError Fault Refusal → Bool
  | .classifier _ => true
  | _ => false

def isExhausted : FlowError Fault Refusal → Bool
  | .exhausted _ => true
  | _ => false

/-- The fault of the stage, if it failed. -/
def fault? : FlowError Fault Refusal → Option Fault
  | .stage fault => some fault
  | _ => none

/-- The message for users, given those of the inner faults. -/
def message
    (faultMessage : Fault → String)
    (refusalMessage : Refusal → String) :
    FlowError Fault Refusal → String
  | .stage fault => "stage failed: " ++ faultMessage fault
  | .classifier refusal => "classifier failed: " ++ refusalMessage refusal
  | .exhausted attempts =>
      "retry exhausted after " ++ toString attempts.toNat ++ " attempts"

/-- The message of the inner fault, if there is one. -/
def cause?
    (faultMessage : Fault → String)
    (refusalMessage : Refusal → String) :
    FlowError Fault Refusal → Option String
  | .stage fault => some (faultMessage fault)
  | .classifier refusal => some (refusalMessage refusal)
  | .exhausted _ => none

/-- The form for inspection, given those of the inner faults. -/
def inspect
    (inspectFault : Fault → String)
    (inspectRefusal : Refusal → String) :
    FlowError Fault Refusal → String
  | .stage fault => "Stage(" ++ inspectFault fault ++ ")"
  | .classifier refusal => "Classifier(" ++ inspectRefusal refusal ++ ")"
  | .exhausted attempts =>
      Text.record "Exhausted" [("attempts", toString attempts.toNat)]

end FlowError

end Resubmit
