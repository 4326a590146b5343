import Resubmit.Proofs.Session

namespace Resubmit

/-!
# Scenarios and prompt surroundings

In a scenario the answers of the stage and the verdicts of the classifier do not depend on
when they are given.  Of all surroundings in which a flow can meet a scenario the simplest
are those in which nothing takes time: there every run can be computed.
-/

/-- What a flow meets when nothing depends on when it happens. -/
structure Scenario (Req Resp Ctx Fault Refusal : Type) where
  /-- What the feed offers before it ends, in order. -/
  items : List (WorkItem Req Ctx)
  /-- What the stage answers to a request. -/
  respond : Req → Except Fault Resp
  /-- What the classifier says about a response and a context. -/
  judge : Resp → Ctx → Except Refusal (Verdict Req Ctx)

variable {Req Resp Ctx Fault Refusal : Type}

/--
Surroundings in which nothing takes time.

What is outside is what the feed still has to offer.  The stage answers the oldest
submission at once, and a timer goes off as soon as it is looked at.
-/
def Surroundings.prompt
    (scenario : Scenario Req Resp Ctx Fault Refusal) :
    Surroundings (List (WorkItem Req Ctx)) Req Resp Ctx Fault Refusal where
  now _ := .zero
  pull
    | [] => (.ended, [])
    | item :: rest => (.item item, rest)
  submit offered _ _ := offered
  collect offered
    | [] => (none, offered)
    | submission :: others =>
        let answer := scenario.respond submission.attempt.item.request
        (some ⟨⟨0, others.length.zero_lt_succ⟩, answer⟩, offered)
  classify offered response context := (scenario.judge response context, offered)
  timerFired offered _ := (true, offered)
  notify offered _ := offered
  abandon offered _ := offered

/-- Options without delays, with a hook, for two submissions at a time. -/
def Settings.undelayed (maxAttempts : UInt32) (exhaustion : Exhaustion) : Settings where
  policy := {
    Policy.exponential .zero with
    maxAttempts := maxAttempts
    exhaustion := exhaustion
  }
  parallelism := 2
  retryCapacity := 1
  observed := true
  policy_sound :=
    have sound : (Policy.exponential .zero).fault? = none := by decide +kernel
    sound
  parallelism_pos := Nat.zero_lt_two
  retryCapacity_pos := Nat.one_pos

/-- The options of a builder that asks for given settings and a seed. -/
def Settings.builder (settings : Settings) (seed : UInt64) : Builder where
  policy := settings.policy
  parallelism := settings.parallelism
  retryCapacity := some settings.retryCapacity
  seed := some seed
  observed := settings.observed

theorem Settings.build_builder (settings : Settings) (seed : UInt64) (entropy : ChaCha12) :
    (settings.builder seed).build entropy =
      .ok (Flow.start settings (ChaCha12.ofSeed seed) : Flow Req Ctx) := by
  have accepted : (settings.builder seed).settings = .ok settings := by
    unfold Builder.settings
    split
    · rename_i fault broken
      exact nomatch broken.symm.trans settings.policy_sound
    · exact
        (dif_neg (Nat.ne_of_gt settings.parallelism_pos)).trans
          (dif_neg (Nat.ne_of_gt settings.retryCapacity_pos))
  rw [Builder.build, accepted]
  rfl

/-- The run with which a flow begins in prompt surroundings. -/
def Run.prompt
    (settings : Settings)
    (scenario : Scenario Req Resp Ctx Fault Refusal) :
    Run (List (WorkItem Req Ctx)) Req Resp Ctx Fault Refusal :=
  Run.start (Flow.start settings (ChaCha12.ofSeed 0)) scenario.items

/-- The replies to so many polls in prompt surroundings, and the run after them. -/
def Run.promptly
    (settings : Settings)
    (scenario : Scenario Req Resp Ctx Fault Refusal)
    (count : Nat) :
    List (Reply Resp Ctx Fault Refusal) ×
      Run (List (WorkItem Req Ctx)) Req Resp Ctx Fault Refusal :=
  (Run.prompt settings scenario).polls (Surroundings.prompt scenario) 100 count

theorem Session.promptly
    (settings : Settings)
    (scenario : Scenario Req Resp Ctx Fault Refusal)
    (count : Nat) :
    Session (Surroundings.prompt scenario)
      (Run.prompt settings scenario)
      (Run.promptly settings scenario count).1
      (Run.promptly settings scenario count).2 :=
  Session.start.polls 100 count

theorem Session.uncancelled_promptly
    (settings : Settings)
    (scenario : Scenario Req Resp Ctx Fault Refusal)
    (count : Nat) :
    .cancelled ∉ (Run.promptly settings scenario count).1 :=
  Session.cancelled_not_mem_polls 100 count

/-- Zero is final, and any other number asks for the one below it and for zero. -/
def Verdict.countdown (response : Nat) (_ : Unit) : Verdict Nat Unit :=
  if response = 0 then
    .done
  else
    .retryWith [⟨response - 1, ()⟩, ⟨0, ()⟩]

/-- Numbers are counted down, and the stage cannot answer to one of them. -/
def Scenario.countdown (broken : Nat) (items : List Nat) : Scenario Nat Nat Unit Unit Unit where
  items := items.map fun request => ⟨request, ()⟩
  respond request := if request = broken then .error () else .ok request
  judge response context := .ok (Verdict.countdown response context)

end Resubmit
