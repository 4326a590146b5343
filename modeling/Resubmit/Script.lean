import Resubmit.Json
import Resubmit.MockStage
import Resubmit.Work

namespace Resubmit

/-!
# Scripted requests

A script says how a request is to be answered and what is to become of the answer.
It is its own response, so one value leads a whole tree of attempts.
-/

/-- What is to become of an answer. -/
inductive Sequel (α : Type) where
  | done
  | drop
  /-- A classifier that can fail refuses the answer. -/
  | refuse (reason : String)
  | retry (items : List α)

/-- A request that says how it is to be answered. -/
inductive Script where
  | mk
      (value : Json)
      (context : Option Json)
      (latency : Duration)
      (fault : Option String)
      (repeats : Int)
      (sequel : Sequel Script)

namespace Script

def value : Script → Json
  | .mk value .. => value

/-- The context of its own, if it has one. -/
def context? : Script → Option Json
  | .mk _ context .. => context

def latency : Script → Duration
  | .mk _ _ latency .. => latency

def fault? : Script → Option String
  | .mk _ _ _ fault .. => fault

/-- How often it is asked for again, for ever if negative. -/
def repeats : Script → Int
  | .mk _ _ _ _ repeats _ => repeats

def sequel : Script → Sequel Script
  | .mk _ _ _ _ _ sequel => sequel

def repeated : Script → Script
  | .mk value context latency fault repeats sequel =>
      .mk value context latency fault (if repeats < 0 then repeats else repeats - 1) sequel

/-- The answer of the stage. -/
def respond (script : Script) : Except StageFault Script :=
  match script.fault? with
  | some reason => .error ⟨reason⟩
  | none => .ok script

/-- The work item of a script; its own context goes before a given one. -/
def workItem (script : Script) (inherited : Json) : WorkItem Script Json where
  request := script
  context := script.context?.getD inherited

/--
The judgement on a response.

Only a classifier that can fail refuses; another one takes the response as final.
-/
def judge
    (canFail : Bool)
    (response : Script)
    (context : Json) :
    Except String (Verdict Script Json) :=
  if response.repeats ≠ 0 then
    .ok (.retry response.repeated context)
  else
    match response.sequel with
    | .done => .ok .done
    | .drop => .ok .dropBranch
    | .refuse reason => if canFail then .error reason else .ok .done
    | .retry items => .ok (.retryWith (items.map fun item => item.workItem context))

end Script

end Resubmit
