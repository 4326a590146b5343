import Mathlib.Algebra.Order.Group.Multiset
import Mathlib.Data.List.Perm.Basic
import Mathlib.Tactic.Abel
import Resubmit.Proofs.FailStop

namespace Resubmit

/-!
# Rulings and the work they make

Once a submission is answered, it is ruled on: either the stage failed, or the response
was judged.  A ruling has one of four consequences: an outcome, nothing, follow-ups, or
the end of the flow.  What the journal says of this is read off it event by event.
-/

variable {σ Req Resp Ctx Fault Refusal : Type}

/-- A response with what the classifier said about it. -/
structure Judgement (Req Resp Ctx Refusal : Type) where
  submission : Submission Req Ctx
  response : Resp
  verdict : Except Refusal (Verdict Req Ctx)

/-- What became of a submission: the stage failed, or its response was judged. -/
inductive Ruling (Req Resp Ctx Fault Refusal : Type) where
  | failed (submission : Submission Req Ctx) (fault : Fault)
  | judged (judgement : Judgement Req Resp Ctx Refusal)

/-- What follows from a ruling. -/
inductive Consequence (Req Resp Ctx Fault Refusal : Type) where
  /-- An outcome is given out. -/
  | emits (outcome : Outcome Resp Ctx)
  /-- The branch ends silently. -/
  | drops
  /-- These attempts are scheduled. -/
  | branches (attempts : List (Attempt Req Ctx))
  /-- The flow ends. -/
  | fails (error : FlowError Fault Refusal)

/-- A ruling, or something that comes of it. -/
inductive Effect (Req Resp Ctx Fault Refusal : Type) where
  | ruled (ruling : Ruling Req Resp Ctx Fault Refusal)
  | emitted (outcome : Outcome Resp Ctx)
  | scheduled (attempt : Attempt Req Ctx)
  | failed (error : FlowError Fault Refusal)

namespace Judgement

/-- The attempts that a judgement adds to the work, if there are attempts left. -/
def followUps
    (maxAttempts : UInt32)
    (judgement : Judgement Req Resp Ctx Refusal) :
    List (Attempt Req Ctx) :=
  match judgement.verdict with
  | .ok (.retryWith items) =>
      if judgement.submission.attempt.number < maxAttempts then
        items.map fun item =>
          Attempt.followUp item
            (judgement.submission.attempt.number + 1) judgement.submission.ticket
      else
        []
  | _ => []

/-- Whether a retry is asked for and no attempt is left. -/
def exhausted
    (maxAttempts : UInt32)
    (judgement : Judgement Req Resp Ctx Refusal) :
    Bool :=
  match judgement.verdict with
  | .ok (.retryWith (_ :: _)) =>
      decide (maxAttempts ≤ judgement.submission.attempt.number)
  | _ => false

/-- What follows from a judgement under a policy. -/
def consequence
    (policy : Policy)
    (judgement : Judgement Req Resp Ctx Refusal) :
    Consequence Req Resp Ctx Fault Refusal :=
  match judgement.verdict with
  | .error refusal => .fails (.classifier refusal)
  | .ok .done => .emits (judgement.submission.outcome judgement.response false)
  | .ok (.retryWith []) => .drops
  | .ok (.retryWith (_ :: _)) =>
      if judgement.submission.attempt.number < policy.maxAttempts then
        .branches (judgement.followUps policy.maxAttempts)
      else
        match policy.exhaustion with
        | .emitLast => .emits (judgement.submission.outcome judgement.response true)
        | .fail => .fails (.exhausted (judgement.submission.attempt.number + 1))

end Judgement

namespace Ruling

/-- The submission that was ruled on. -/
def submission : Ruling Req Resp Ctx Fault Refusal → Submission Req Ctx
  | .failed submission _ => submission
  | .judged judgement => judgement.submission

/-- The answer that was ruled on. -/
def answer : Ruling Req Resp Ctx Fault Refusal → Except Fault Resp
  | .failed _ fault => .error fault
  | .judged judgement => .ok judgement.response

/-- The judgement, if the response was judged. -/
def judgement? :
    Ruling Req Resp Ctx Fault Refusal →
    Option (Judgement Req Resp Ctx Refusal)
  | .failed _ _ => none
  | .judged judgement => some judgement

/-- The attempts that a ruling adds to the work. -/
def followUps
    (maxAttempts : UInt32) :
    Ruling Req Resp Ctx Fault Refusal →
    List (Attempt Req Ctx)
  | .failed _ _ => []
  | .judged judgement => judgement.followUps maxAttempts

/-- What follows from a ruling under a policy. -/
def consequence
    (policy : Policy) :
    Ruling Req Resp Ctx Fault Refusal →
    Consequence Req Resp Ctx Fault Refusal
  | .failed _ fault => .fails (.stage fault)
  | .judged judgement => judgement.consequence policy

end Ruling

namespace Consequence

/-- What a consequence gives out or schedules. -/
def effects :
    Consequence Req Resp Ctx Fault Refusal →
    List (Effect Req Resp Ctx Fault Refusal)
  | .emits outcome => [.emitted outcome]
  | .drops => []
  | .branches attempts => attempts.map .scheduled
  | .fails error => [.failed error]

/-- The item that a consequence gives out: an outcome, or the error that ends the flow. -/
def item? : Consequence Req Resp Ctx Fault Refusal → Option (Item Resp Ctx Fault Refusal)
  | .emits outcome => some (.ok outcome)
  | .fails error => some (.error error)
  | _ => none

/-- The outcome that a consequence gives out. -/
def outcome? : Consequence Req Resp Ctx Fault Refusal → Option (Outcome Resp Ctx)
  | .emits outcome => some outcome
  | _ => none

/-- The error that a consequence ends the flow with. -/
def error? :
    Consequence Req Resp Ctx Fault Refusal →
    Option (FlowError Fault Refusal)
  | .fails error => some error
  | _ => none

theorem item?_eq_error_iff
    {consequence : Consequence Req Resp Ctx Fault Refusal}
    {error : FlowError Fault Refusal} :
    consequence.item? = some (.error error) ↔ consequence.error? = some error := by
  cases consequence <;> simp [item?, error?]

theorem item?_bind_toOption (consequence : Consequence Req Resp Ctx Fault Refusal) :
    consequence.item?.bind Except.toOption = consequence.outcome? := by
  cases consequence <;> rfl

end Consequence

namespace Event

/-- The answer to a submission, if the event is that. -/
def answer? :
    Event Req Resp Ctx Fault Refusal →
    Option (Submission Req Ctx × Except Fault Resp)
  | .answered _ submission answer => some (submission, answer)
  | _ => none

/-- The ruling on an answer, if the event is that. -/
def ruling? :
    Event Req Resp Ctx Fault Refusal →
    Option (Ruling Req Resp Ctx Fault Refusal)
  | .answered _ submission (.error fault) => some (.failed submission fault)
  | .judged _ submission response verdict =>
      some (.judged ⟨submission, response, verdict⟩)
  | _ => none

/-- The entry of the queue, if the event is that a retry was scheduled. -/
def scheduled? :
    Event Req Resp Ctx Fault Refusal →
    Option (Waiting (Attempt Req Ctx))
  | .retryScheduled entry => some entry
  | _ => none

/-- The ruling or what comes of it, if the event is one of these. -/
def effect? :
    Event Req Resp Ctx Fault Refusal →
    Option (Effect Req Resp Ctx Fault Refusal)
  | .answered _ submission (.error fault) => some (.ruled (.failed submission fault))
  | .judged _ submission response verdict =>
      some (.ruled (.judged ⟨submission, response, verdict⟩))
  | .yielded (.ok outcome) => some (.emitted outcome)
  | .yielded (.error error) => some (.failed error)
  | .retryScheduled entry => some (.scheduled entry.payload)
  | _ => none

/-- The work that enters the flow with the event. -/
def enters (maxAttempts : UInt32) :
    Event Req Resp Ctx Fault Refusal →
    List (Attempt Req Ctx)
  | .feedAsked _ (.item item) => [Attempt.fresh item]
  | .judged _ submission response verdict =>
      Judgement.followUps maxAttempts ⟨submission, response, verdict⟩
  | _ => []

end Event

namespace Journal

/-- The items pulled from the feed, in order. -/
def pulled (events : List (Event Req Resp Ctx Fault Refusal)) : List (WorkItem Req Ctx) :=
  events.filterMap Event.pulled?

/-- The submissions made, in order. -/
def submissions (events : List (Event Req Resp Ctx Fault Refusal)) :
    List (Submission Req Ctx) :=
  events.filterMap Event.submission?

/-- The submissions answered, with the answers, in order. -/
def answers (events : List (Event Req Resp Ctx Fault Refusal)) :
    List (Submission Req Ctx × Except Fault Resp) :=
  events.filterMap Event.answer?

/-- The rulings, in order. -/
def rulings (events : List (Event Req Resp Ctx Fault Refusal)) :
    List (Ruling Req Resp Ctx Fault Refusal) :=
  events.filterMap Event.ruling?

/-- The judgements, in order. -/
def judgements (events : List (Event Req Resp Ctx Fault Refusal)) :
    List (Judgement Req Resp Ctx Refusal) :=
  (rulings events).filterMap Ruling.judgement?

/-- The retries scheduled, in order. -/
def scheduled (events : List (Event Req Resp Ctx Fault Refusal)) :
    List (Waiting (Attempt Req Ctx)) :=
  events.filterMap Event.scheduled?

/-- The rulings with what came of each, in order. -/
def effects (events : List (Event Req Resp Ctx Fault Refusal)) :
    List (Effect Req Resp Ctx Fault Refusal) :=
  events.filterMap Event.effect?

/-- The calls of the hook, in order. -/
def notices (events : List (Event Req Resp Ctx Fault Refusal)) : List (Notice Resp) :=
  events.filterMap fun event => event.notice?.map Prod.snd

/--
The work that has entered the flow: the items from the feed, and the follow-ups of
every judgement that had attempts left.
-/
def entered
    (maxAttempts : UInt32)
    (events : List (Event Req Resp Ctx Fault Refusal)) :
    List (Attempt Req Ctx) :=
  events.flatMap (Event.enters maxAttempts)

end Journal

/-! ## Work in the queue and in flight -/

namespace RetryQueue

/-- What a queue holds, in whatever order. -/
def entries (queue : RetryQueue α) : Multiset (Waiting α) :=
  queue.scheduled + queue.ready

theorem insert_perm (entry : Waiting α) (waiting : List (Waiting α)) :
    (insert entry waiting).Perm (entry :: waiting) := by
  induction waiting with
  | nil => exact .refl _
  | cons other rest inductionHypothesis =>
      unfold insert
      split
      · exact .refl _
      · exact (inductionHypothesis.cons other).trans (.swap entry other rest)

@[simp] theorem entries_promoteDue (queue : RetryQueue α) (now : Instant) :
    (queue.promoteDue now).2.entries = queue.entries := by
  have whole :
      queue.scheduled.takeWhile (isDue now) ++ queue.scheduled.dropWhile (isDue now) =
        queue.scheduled :=
    List.takeWhile_append_dropWhile
  calc (queue.promoteDue now).2.entries
    _ = ↑(queue.scheduled.dropWhile (isDue now)) +
          ↑(queue.ready ++ queue.scheduled.takeWhile (isDue now)) := rfl
    _ = ↑(queue.scheduled.takeWhile (isDue now) ++
            queue.scheduled.dropWhile (isDue now)) + ↑queue.ready := by
        rw [← Multiset.coe_add, ← Multiset.coe_add]
        abel
    _ = queue.entries := by
        rw [whole, entries]

@[simp] theorem entries_rearmed (queue : RetryQueue α) :
    queue.rearmed.entries = queue.entries :=
  rfl

@[simp] theorem entries_pollTimer (queue : RetryQueue α) (fired : Bool) (now : Instant) :
    (queue.pollTimer fired now).2.entries = queue.entries := by
  unfold pollTimer
  split
  · rfl
  · split
    · rw [entries_promoteDue]
      rfl
    · rfl

@[simp] theorem entries_clear (queue : RetryQueue α) : queue.clear.entries = 0 :=
  rfl

theorem entries_of_popReady?
    {queue rest : RetryQueue α}
    {entry : Waiting α}
    (popped : queue.popReady? = some (entry, rest)) :
    queue.entries = entry ::ₘ rest.entries := by
  unfold popReady? at popped
  split at popped
  · cases popped
  · rename_i ready
    cases popped
    simp [entries, ready]

theorem entries_of_schedule?
    {queue after : RetryQueue α}
    {payload : α}
    {delay : Duration}
    {now : Instant}
    {entry : Waiting α}
    (scheduled : queue.schedule? payload delay now = some (entry, after)) :
    after.entries = entry ::ₘ queue.entries ∧ entry.payload = payload := by
  unfold schedule? at scheduled
  cases ends : now.after? delay with
  | none => simp [ends] at scheduled
  | some readyAt =>
      simp only [ends, Option.bind_eq_bind, Option.bind_some, Option.pure_def,
        Option.some.injEq, Prod.mk.injEq] at scheduled
      obtain ⟨rfl, rfl⟩ := scheduled
      have inserted :=
        Multiset.coe_eq_coe.mpr
          (insert_perm ⟨⟨readyAt, queue.nextSeq⟩, payload⟩ queue.scheduled)
      constructor
      · simp only [entries, inserted]
        rfl
      · rfl

end RetryQueue

theorem Flow.Takes.inFlight_eq
    {env : Surroundings σ Req Resp Ctx Fault Refusal}
    {flow rest : Flow Req Ctx}
    {submission : Submission Req Ctx}
    {answer : Except Fault Resp}
    {later : σ}
    (taken : flow.Takes env submission answer later rest) :
    (flow.inFlight : Multiset (Submission Req Ctx)) = submission ::ₘ ↑rest.inFlight := by
  cases taken with
  | intro outside later completion collected =>
      have perm := List.getElem_cons_eraseIdx_perm completion.index.isLt
      exact (Multiset.coe_eq_coe.mpr perm).symm

end Resubmit
