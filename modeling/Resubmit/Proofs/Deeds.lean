import Resubmit.Flow.Poll

namespace Resubmit

/-!
# The deeds of a flow

A station of a poll does one of a few things to the flow and its journal.  They are
listed here once, each with the conditions under which it is done.  The stations
are then shown to do nothing else, so whatever every deed keeps is kept by every run.

Scheduling the follow-ups of a response is a deed for each of them.  Those that are
still to be scheduled are owed in between.
-/

variable {σ Req Resp Ctx Fault Refusal : Type}

/-- The outcome that a response to a submission makes. -/
def Submission.outcome
    (submission : Submission Req Ctx)
    (response : Resp)
    (exhausted : Bool) :
    Outcome Resp Ctx where
  response := response
  context := submission.attempt.item.context
  attempts := submission.attempt.number + 1
  exhausted := exhausted

/-- The queue with its timer armed for the first waiting entry, if there is one. -/
def RetryQueue.rearmed (queue : RetryQueue α) : RetryQueue α :=
  { queue with timer := queue.nextDeadline? }

namespace Flow

/-- The submission that an attempt becomes when it is handed to the stage next. -/
def submissionOf
    (flow : Flow Req Ctx)
    (attempt : Attempt Req Ctx)
    (place : Option Place) :
    Submission Req Ctx where
  ticket := flow.nextTicket
  attempt := attempt
  place := place

/-- The flow after an attempt has been handed to the stage. -/
def launch
    (flow : Flow Req Ctx)
    (attempt : Attempt Req Ctx)
    (place : Option Place) :
    Flow Req Ctx :=
  { flow with
    nextTicket := flow.nextTicket + 1
    inFlight := flow.inFlight ++ [flow.submissionOf attempt place] }

/-- The call of the hook as an event, if there is a hook. -/
def told
    (flow : Flow Req Ctx)
    (now : Instant)
    (notice : Notice Resp) :
    List (Event Req Resp Ctx Fault Refusal) :=
  if flow.settings.observed then [.notified now notice] else []

/--
The stage has answered a submission in flight.

`later` is the state outside after the answer was taken, and `rest` is the flow
without the submission.
-/
inductive Takes
    (env : Surroundings σ Req Resp Ctx Fault Refusal)
    (flow : Flow Req Ctx) :
    Submission Req Ctx →
    Except Fault Resp →
    σ →
    Flow Req Ctx →
    Prop where
  | intro
      (outside later : σ)
      (completion : Completion Resp Fault flow.inFlight)
      (collected : env.collect outside flow.inFlight = (some completion, later)) :
      Takes env flow
        (flow.inFlight.get completion.index)
        completion.answer
        later
        { flow with inFlight := flow.inFlight.eraseIdx completion.index }

namespace Takes

variable {env : Surroundings σ Req Resp Ctx Fault Refusal}
variable {flow rest : Flow Req Ctx}
variable {submission : Submission Req Ctx}
variable {answer : Except Fault Resp}
variable {later : σ}

/-- Only the submission is taken out of the flow. -/
theorem rest_eq (taken : flow.Takes env submission answer later rest) :
    rest = { flow with inFlight := rest.inFlight } := by
  cases taken
  rfl

theorem settings (taken : flow.Takes env submission answer later rest) :
    rest.settings = flow.settings := by
  rw [taken.rest_eq]

theorem terminated (taken : flow.Takes env submission answer later rest) :
    rest.terminated = flow.terminated := by
  rw [taken.rest_eq]

theorem feedEnded (taken : flow.Takes env submission answer later rest) :
    rest.feedEnded = flow.feedEnded := by
  rw [taken.rest_eq]

theorem nextTicket (taken : flow.Takes env submission answer later rest) :
    rest.nextTicket = flow.nextTicket := by
  rw [taken.rest_eq]

theorem retries (taken : flow.Takes env submission answer later rest) :
    rest.retries = flow.retries := by
  rw [taken.rest_eq]

end Takes

end Flow

/-- A follow-up that a response has asked for and that is still to be scheduled. -/
structure Debt (Req Resp Ctx : Type) where
  submission : Submission Req Ctx
  response : Resp
  /-- When the response was judged. -/
  since : Instant
  item : WorkItem Req Ctx

/-- What a judgement owes that asks for follow-ups. -/
def Submission.debts
    (submission : Submission Req Ctx)
    (response : Resp)
    (since : Instant)
    (items : List (WorkItem Req Ctx)) :
    List (Debt Req Resp Ctx) :=
  items.map fun item => ⟨submission, response, since, item⟩

namespace Debt

/-- The attempt that is owed. -/
def attempt (debt : Debt Req Resp Ctx) : Attempt Req Ctx :=
  Attempt.followUp debt.item
    (debt.submission.attempt.number + 1) debt.submission.ticket

/-- What the hook is told about the follow-up. -/
def notice (debt : Debt Req Resp Ctx) (delay : Duration) : Notice Resp where
  attempt := debt.submission.attempt.number
  response := debt.response
  delay := some delay

end Debt

/-- A flow, its journal so far, and the follow-ups that it owes. -/
structure Scene (Req Resp Ctx Fault Refusal : Type) where
  flow : Flow Req Ctx
  events : List (Event Req Resp Ctx Fault Refusal)
  owed : List (Debt Req Resp Ctx)

namespace Run

/-- The events of the journal in order. -/
def events (run : Run σ Req Resp Ctx Fault Refusal) :
    List (Event Req Resp Ctx Fault Refusal) :=
  run.journal.toList

/-- A run without what is outside of the flow. -/
def scene
    (run : Run σ Req Resp Ctx Fault Refusal)
    (owed : List (Debt Req Resp Ctx)) :
    Scene Req Resp Ctx Fault Refusal where
  flow := run.flow
  events := run.events
  owed := owed

end Run

/--
What a flow may do at a station, and where that leads.

Nothing is named as the next place while follow-ups are still to be scheduled.
-/
inductive Deed (env : Surroundings σ Req Resp Ctx Fault Refusal) :
    Station →
    Scene Req Resp Ctx Fault Refusal →
    Option (Next Resp Ctx Fault Refusal) →
    Scene Req Resp Ctx Fault Refusal →
    Prop where
  /-- Retries that are due become takeable. -/
  | promote
      {flow : Flow Req Ctx}
      {events : List (Event Req Resp Ctx Fault Refusal)}
      (outside : σ) :
      Deed env .promote
        ⟨flow, events, []⟩
        (some (.go .fill))
        ⟨{ flow with retries := (flow.retries.promoteDue (env.now outside)).2 },
          events ++ [.roundBegun (env.now outside)], []⟩
  /-- A due retry is handed to the stage. -/
  | resubmit
      {flow : Flow Req Ctx}
      {events : List (Event Req Resp Ctx Fault Refusal)}
      {entry : Waiting (Attempt Req Ctx)}
      {retries : RetryQueue (Attempt Req Ctx)}
      (outside : σ)
      (slot : flow.HasSlot)
      (popped : flow.retries.popReady? = some (entry, retries)) :
      Deed env .fill
        ⟨flow, events, []⟩
        (some (.go .fill))
        ⟨({ flow with retries := retries } : Flow Req Ctx).launch
            entry.payload (some entry.place),
          events ++ [
            .submitted (env.now outside)
              (flow.submissionOf entry.payload (some entry.place))
              (flow.inFlight.length + 1)], []⟩
  /-- There is no slot to fill, or nothing to fill it with but the feed is left alone. -/
  | leaveFeed
      {flow : Flow Req Ctx}
      {events : List (Event Req Resp Ctx Fault Refusal)}
      (reason : ¬ flow.HasSlot ∨ (flow.retries.ready = [] ∧ flow.Gated)) :
      Deed env .fill ⟨flow, events, []⟩ (some (.go .collect)) ⟨flow, events, []⟩
  /-- An item from the feed is handed to the stage. -/
  | pull
      {flow : Flow Req Ctx}
      {events : List (Event Req Resp Ctx Fault Refusal)}
      {outside later : σ}
      {item : WorkItem Req Ctx}
      (slot : flow.HasSlot)
      (noneReady : flow.retries.ready = [])
      (ungated : ¬ flow.Gated)
      (offered : env.pull outside = (.item item, later)) :
      Deed env .fill
        ⟨flow, events, []⟩
        (some (.go .fill))
        ⟨flow.launch (Attempt.fresh item) none,
          events ++ [
            .feedAsked (env.now later) (.item item),
            .submitted (env.now later)
              (flow.submissionOf (Attempt.fresh item) none)
              (flow.inFlight.length + 1)], []⟩
  /-- The feed has ended. -/
  | feedEnds
      {flow : Flow Req Ctx}
      {events : List (Event Req Resp Ctx Fault Refusal)}
      {outside later : σ}
      (slot : flow.HasSlot)
      (noneReady : flow.retries.ready = [])
      (ungated : ¬ flow.Gated)
      (offered : env.pull outside = (.ended, later)) :
      Deed env .fill
        ⟨flow, events, []⟩
        (some (.go .fill))
        ⟨{ flow with feedEnded := true },
          events ++ [.feedAsked (env.now later) .ended], []⟩
  /-- The feed has nothing to offer yet. -/
  | feedWaits
      {flow : Flow Req Ctx}
      {events : List (Event Req Resp Ctx Fault Refusal)}
      {outside later : σ}
      (slot : flow.HasSlot)
      (noneReady : flow.retries.ready = [])
      (ungated : ¬ flow.Gated)
      (offered : env.pull outside = (.pending, later)) :
      Deed env .fill
        ⟨flow, events, []⟩
        (some (.go .collect))
        ⟨flow, events ++ [.feedAsked (env.now later) .pending], []⟩
  /-- No submission has been answered. -/
  | noAnswer
      {flow : Flow Req Ctx}
      {events : List (Event Req Resp Ctx Fault Refusal)}
      {outside later : σ}
      (unanswered : env.collect outside flow.inFlight = (none, later)) :
      Deed env .collect ⟨flow, events, []⟩ (some (.go .timer)) ⟨flow, events, []⟩
  /-- The stage has failed, which ends the flow. -/
  | stageFault
      {flow rest : Flow Req Ctx}
      {events : List (Event Req Resp Ctx Fault Refusal)}
      {submission : Submission Req Ctx}
      {fault : Fault}
      {later : σ}
      (taken : flow.Takes env submission (.error fault) later rest) :
      Deed env .collect
        ⟨flow, events, []⟩
        (some (.stop (.item (.error (.stage fault)))))
        ⟨rest.shutDown,
          events ++ [
            .answered (env.now later) submission (.error fault),
            .aborted rest.inFlightCount rest.pendingCount (.stage fault),
            .yielded (.error (.stage fault))], []⟩
  /-- The classifier has failed, which ends the flow. -/
  | refusal
      {flow rest : Flow Req Ctx}
      {events : List (Event Req Resp Ctx Fault Refusal)}
      {submission : Submission Req Ctx}
      {response : Resp}
      {refusal : Refusal}
      {later judged : σ}
      (taken : flow.Takes env submission (.ok response) later rest)
      (classified :
        env.classify later response submission.attempt.item.context =
          (.error refusal, judged)) :
      Deed env .collect
        ⟨flow, events, []⟩
        (some (.stop (.item (.error (.classifier refusal)))))
        ⟨rest.shutDown,
          events ++ [
            .answered (env.now later) submission (.ok response),
            .judged (env.now judged) submission response (.error refusal),
            .aborted rest.inFlightCount rest.pendingCount (.classifier refusal),
            .yielded (.error (.classifier refusal))], []⟩
  /-- A response is final and is given out. -/
  | done
      {flow rest : Flow Req Ctx}
      {events : List (Event Req Resp Ctx Fault Refusal)}
      {submission : Submission Req Ctx}
      {response : Resp}
      {later judged : σ}
      (taken : flow.Takes env submission (.ok response) later rest)
      (classified :
        env.classify later response submission.attempt.item.context =
          (.ok .done, judged)) :
      Deed env .collect
        ⟨flow, events, []⟩
        (some (.stop (.item (.ok (submission.outcome response false)))))
        ⟨rest,
          events ++ [
            .answered (env.now later) submission (.ok response),
            .judged (env.now judged) submission response (.ok .done),
            .yielded (.ok (submission.outcome response false))], []⟩
  /-- The branch ends without an outcome. -/
  | dropBranch
      {flow rest : Flow Req Ctx}
      {events : List (Event Req Resp Ctx Fault Refusal)}
      {submission : Submission Req Ctx}
      {response : Resp}
      {later judged : σ}
      (taken : flow.Takes env submission (.ok response) later rest)
      (classified :
        env.classify later response submission.attempt.item.context =
          (.ok (.retryWith []), judged)) :
      Deed env .collect
        ⟨flow, events, []⟩
        (some (.go .promote))
        ⟨rest,
          events ++ [
            .answered (env.now later) submission (.ok response),
            .judged (env.now judged) submission response (.ok (.retryWith []))], []⟩
  /-- The attempts have run out, and the last response is given out. -/
  | exhaust
      {flow rest : Flow Req Ctx}
      {events : List (Event Req Resp Ctx Fault Refusal)}
      {submission : Submission Req Ctx}
      {response : Resp}
      {first : WorkItem Req Ctx}
      {others : List (WorkItem Req Ctx)}
      {later judged : σ}
      (taken : flow.Takes env submission (.ok response) later rest)
      (classified :
        env.classify later response submission.attempt.item.context =
          (.ok (.retryWith (first :: others)), judged))
      (spent : flow.settings.policy.maxAttempts ≤ submission.attempt.number)
      (emitsLast : flow.settings.policy.exhaustion = .emitLast) :
      Deed env .collect
        ⟨flow, events, []⟩
        (some (.stop (.item (.ok (submission.outcome response true)))))
        ⟨rest,
          events ++ ([
            .answered (env.now later) submission (.ok response),
            .judged (env.now judged) submission response
              (.ok (.retryWith (first :: others)))]
            ++ flow.told (env.now judged) ⟨submission.attempt.number, response, none⟩
            ++ [
              .attemptsExhausted (submission.attempt.number + 1),
              .yielded (.ok (submission.outcome response true))]), []⟩
  /-- The attempts have run out, which ends the flow. -/
  | exhaustionFault
      {flow rest : Flow Req Ctx}
      {events : List (Event Req Resp Ctx Fault Refusal)}
      {submission : Submission Req Ctx}
      {response : Resp}
      {first : WorkItem Req Ctx}
      {others : List (WorkItem Req Ctx)}
      {later judged : σ}
      (taken : flow.Takes env submission (.ok response) later rest)
      (classified :
        env.classify later response submission.attempt.item.context =
          (.ok (.retryWith (first :: others)), judged))
      (spent : flow.settings.policy.maxAttempts ≤ submission.attempt.number)
      (fails : flow.settings.policy.exhaustion = .fail) :
      Deed env .collect
        ⟨flow, events, []⟩
        (some (.stop (.item (.error (.exhausted (submission.attempt.number + 1))))))
        ⟨rest.shutDown,
          events ++ ([
            .answered (env.now later) submission (.ok response),
            .judged (env.now judged) submission response
              (.ok (.retryWith (first :: others)))]
            ++ flow.told (env.now judged) ⟨submission.attempt.number, response, none⟩
            ++ [
              .attemptsExhausted (submission.attempt.number + 1),
              .aborted rest.inFlightCount rest.pendingCount
                (.exhausted (submission.attempt.number + 1)),
              .yielded (.error (.exhausted (submission.attempt.number + 1)))]), []⟩
  /-- A response asks for follow-ups, which are owed from now on. -/
  | branch
      {flow rest : Flow Req Ctx}
      {events : List (Event Req Resp Ctx Fault Refusal)}
      {submission : Submission Req Ctx}
      {response : Resp}
      {first : WorkItem Req Ctx}
      {others : List (WorkItem Req Ctx)}
      {later judged : σ}
      (taken : flow.Takes env submission (.ok response) later rest)
      (classified :
        env.classify later response submission.attempt.item.context =
          (.ok (.retryWith (first :: others)), judged))
      (within : submission.attempt.number < flow.settings.policy.maxAttempts) :
      Deed env .collect
        ⟨flow, events, []⟩
        none
        ⟨rest,
          events ++ [
            .answered (env.now later) submission (.ok response),
            .judged (env.now judged) submission response
              (.ok (.retryWith (first :: others)))],
          submission.debts response (env.now judged) (first :: others)⟩
  /-- The first follow-up that is owed is scheduled. -/
  | schedule
      {flow : Flow Req Ctx}
      {events : List (Event Req Resp Ctx Fault Refusal)}
      {debt : Debt Req Resp Ctx}
      {owed : List (Debt Req Resp Ctx)}
      {delay : Duration}
      {random : ChaCha12}
      {entry : Waiting (Attempt Req Ctx)}
      {retries : RetryQueue (Attempt Req Ctx)}
      (outside : σ)
      (drawn :
        flow.settings.policy.delay (debt.submission.attempt.number + 1) flow.random =
          .ok (delay, random))
      (scheduled :
        flow.retries.schedule? debt.attempt delay debt.since = some (entry, retries)) :
      Deed env .collect
        ⟨flow, events, debt :: owed⟩
        none
        ⟨{ flow with random := random, retries := retries },
          events ++ (flow.told (env.now outside) (debt.notice delay) ++ [
            .retryAnnounced (debt.submission.attempt.number + 1) delay,
            .retryScheduled entry]), owed⟩
  /-- No delay can be drawn for a follow-up that is owed. -/
  | noDelay
      {flow : Flow Req Ctx}
      {events : List (Event Req Resp Ctx Fault Refusal)}
      {debt : Debt Req Resp Ctx}
      {owed : List (Debt Req Resp Ctx)}
      {cause : Policy.JitterError}
      (drawn :
        flow.settings.policy.delay (debt.submission.attempt.number + 1) flow.random =
          .error cause) :
      Deed env .collect
        ⟨flow, events, debt :: owed⟩
        (some (.stop (.brokenDown (.noDelay cause))))
        ⟨flow, events, debt :: owed⟩
  /-- The clock cannot represent the instant for which a follow-up has to wait. -/
  | clockOverflow
      {flow : Flow Req Ctx}
      {events : List (Event Req Resp Ctx Fault Refusal)}
      {debt : Debt Req Resp Ctx}
      {owed : List (Debt Req Resp Ctx)}
      {delay : Duration}
      {random : ChaCha12}
      (outside : σ)
      (drawn :
        flow.settings.policy.delay (debt.submission.attempt.number + 1) flow.random =
          .ok (delay, random))
      (overflow : flow.retries.schedule? debt.attempt delay debt.since = none) :
      Deed env .collect
        ⟨flow, events, debt :: owed⟩
        (some (.stop (.brokenDown .clockOverflow)))
        ⟨{ flow with random := random },
          events ++ (flow.told (env.now outside) (debt.notice delay) ++ [
            .retryAnnounced (debt.submission.attempt.number + 1) delay]), debt :: owed⟩
  /-- Every follow-up has been scheduled. -/
  | allScheduled
      {flow : Flow Req Ctx}
      {events : List (Event Req Resp Ctx Fault Refusal)} :
      Deed env .collect ⟨flow, events, []⟩ (some (.go .promote)) ⟨flow, events, []⟩
  /-- The retry timer goes off. -/
  | timerFires
      {flow : Flow Req Ctx}
      {events : List (Event Req Resp Ctx Fault Refusal)}
      {deadline : Instant}
      {outside later : σ}
      (armed : flow.retries.nextDeadline? = some deadline)
      (fired : env.timerFired outside deadline = (true, later)) :
      Deed env .timer
        ⟨flow, events, []⟩
        (some (.go .promote))
        ⟨{ flow with retries := (flow.retries.pollTimer true (env.now later)).2 },
          events ++ [.timerFired (env.now later)], []⟩
  /-- Nothing is left to do. -/
  | finish
      {flow : Flow Req Ctx}
      {events : List (Event Req Resp Ctx Fault Refusal)}
      (settled : flow.Settled) :
      Deed env .timer
        ⟨flow, events, []⟩
        (some (.stop .ended))
        ⟨{ flow with retries := flow.retries.rearmed, terminated := true },
          events ++ [.ended], []⟩
  /-- Something is left to wait for. -/
  | wait
      {flow : Flow Req Ctx}
      {events : List (Event Req Resp Ctx Fault Refusal)}
      (unsettled : ¬ flow.Settled)
      (quiet :
        ∀ deadline,
          flow.retries.nextDeadline? = some deadline →
          ∃ outside later, env.timerFired outside deadline = (false, later)) :
      Deed env .timer
        ⟨flow, events, []⟩
        (some (.stop .pending))
        ⟨{ flow with retries := flow.retries.rearmed }, events, []⟩

/-- The deeds of one visit to a station, up to the one that leads on. -/
inductive Trail
    (env : Surroundings σ Req Resp Ctx Fault Refusal)
    (station : Station) :
    Scene Req Resp Ctx Fault Refusal →
    Next Resp Ctx Fault Refusal →
    Scene Req Resp Ctx Fault Refusal →
    Prop where
  | last
      {before after : Scene Req Resp Ctx Fault Refusal}
      {next : Next Resp Ctx Fault Refusal}
      (deed : Deed env station before (some next) after) :
      Trail env station before next after
  | more
      {before between after : Scene Req Resp Ctx Fault Refusal}
      {next : Next Resp Ctx Fault Refusal}
      (deed : Deed env station before none between)
      (rest : Trail env station between next after) :
      Trail env station before next after

end Resubmit
