import Mathlib.Logic.Relation
import Resubmit.Proofs.Trails

namespace Resubmit

/-!
# The moves of a run

Deeds leave out what is outside of the flow.  Where that matters, the work of a station is cut
into moves: each is one call to the outside together with its event, or it is a matter of the
flow alone.  What every move keeps is kept by every station.
-/

variable {σ Req Resp Ctx Fault Refusal : Type}

/-- Whether the event tells of no call, but of something that the flow did by itself. -/
def Event.own : Event Req Resp Ctx Fault Refusal → Bool
  | .roundBegun _ => true
  | .retryAnnounced .. => true
  | .retryScheduled _ => true
  | .attemptsExhausted _ => true
  | .timerFired _ => true
  | .yielded _ => true
  | .ended => true
  | _ => false

/-- The flows have the same options and the same submissions. -/
structure Flow.SameSubmissions (flow other : Flow Req Ctx) : Prop where
  settings : other.settings = flow.settings
  inFlight : other.inFlight = flow.inFlight
  nextTicket : other.nextTicket = flow.nextTicket

/-- What a run may do at once. -/
inductive Move
    (env : Surroundings σ Req Resp Ctx Fault Refusal)
    (run : Run σ Req Resp Ctx Fault Refusal) :
    Run σ Req Resp Ctx Fault Refusal →
    Prop where
  /-- The flow changes something but its submissions. -/
  | arrange
      (flow : Flow Req Ctx)
      (same : run.flow.SameSubmissions flow) :
      Move env run { run with flow := flow }
  /-- The flow notes something that it did by itself. -/
  | note
      (event : Event Req Resp Ctx Fault Refusal)
      (own : event.own = true) :
      Move env run (run.log event)
  /-- The feed is asked. -/
  | ask
      {offer : Offer Req Ctx}
      {later : σ}
      (offered : env.pull run.outside = (offer, later)) :
      Move env run ({ run with outside := later }.log (.feedAsked (env.now later) offer))
  /-- An attempt is handed to the stage. -/
  | submit
      (slot : run.flow.HasSlot)
      (attempt : Attempt Req Ctx)
      (place : Option Place) :
      Move env run (run.submit env attempt place)
  /-- The stage has no answer. -/
  | miss
      {later : σ}
      (unanswered : env.collect run.outside run.flow.inFlight = (none, later)) :
      Move env run { run with outside := later }
  /-- The stage has answered a submission. -/
  | answer
      {completion : Completion Resp Fault run.flow.inFlight}
      {later : σ}
      (collected : env.collect run.outside run.flow.inFlight = (some completion, later)) :
      Move env run
        ({ run with
            outside := later
            flow := {
              run.flow with
              inFlight := run.flow.inFlight.eraseIdx completion.index } }.log
          (.answered (env.now later) (run.flow.inFlight.get completion.index) completion.answer))
  /-- The classifier judges a response. -/
  | judge
      {submission : Submission Req Ctx}
      {response : Resp}
      {verdict : Except Refusal (Verdict Req Ctx)}
      {later : σ}
      (classified :
        env.classify run.outside response submission.attempt.item.context = (verdict, later)) :
      Move env run
        ({ run with outside := later }.log
          (.judged (env.now later) submission response verdict))
  /-- The hook is told. -/
  | tell
      (notice : Notice Resp) :
      Move env run (run.notify env notice)
  /-- The timer is looked at. -/
  | look
      {deadline : Instant}
      {fired : Bool}
      {later : σ}
      (looked : env.timerFired run.outside deadline = (fired, later)) :
      Move env run { run with outside := later }
  /-- All work is given up because of a fault. -/
  | abort
      (error : FlowError Fault Refusal) :
      Move env run
        ((run.log (.aborted run.flow.inFlightCount run.flow.pendingCount error)).shutDown env)
  /-- All work is given up because the caller wants it so. -/
  | cancel :
      Move env run (run.cancel env)

/-- One move after the other. -/
abbrev Moves (env : Surroundings σ Req Resp Ctx Fault Refusal) :
    Run σ Req Resp Ctx Fault Refusal →
    Run σ Req Resp Ctx Fault Refusal →
    Prop :=
  Relation.ReflTransGen (Move env)

/-- What every move keeps is kept by moves. -/
theorem Moves.keeps
    {env : Surroundings σ Req Resp Ctx Fault Refusal}
    {run after : Run σ Req Resp Ctx Fault Refusal}
    (moves : Moves env run after)
    {Inv : Run σ Req Resp Ctx Fault Refusal → Prop}
    (kept : ∀ {run after}, Inv run → Move env run after → Inv after)
    (holds : Inv run) :
    Inv after := by
  induction moves with
  | refl => exact holds
  | tail _ move inductionHypothesis => exact kept inductionHypothesis move

namespace Run

variable {env : Surroundings σ Req Resp Ctx Fault Refusal}
variable {run after : Run σ Req Resp Ctx Fault Refusal}
variable {next : Next Resp Ctx Fault Refusal}
variable {submission : Submission Req Ctx}
variable {response : Resp}

theorem yield_moves
    {item : Item Resp Ctx Fault Refusal}
    (yielded : run.yield item = (next, after)) :
    Moves env run after := by
  cases yielded
  exact .single (.note _ rfl)

theorem abort_moves
    {error : FlowError Fault Refusal}
    (aborted : run.abort env error = (next, after)) :
    Moves env run after :=
  .head (.abort error) (yield_moves aborted)

theorem fill_moves (stepped : run.fill env = (next, after)) : Moves env run after := by
  unfold fill at stepped
  by_cases slot : run.flow.HasSlot
  · simp only [slot, ↓reduceIte] at stepped
    cases popped : run.flow.retries.popReady? with
    | some taken =>
        obtain ⟨entry, retries⟩ := taken
        simp only [popped] at stepped
        cases stepped
        let popped : Run σ Req Resp Ctx Fault Refusal :=
          { run with flow := { run.flow with retries := retries } }
        have arranged : Move env run popped := .arrange _ ⟨rfl, rfl, rfl⟩
        have free : popped.flow.HasSlot := slot
        exact .tail (.single arranged) (.submit free _ _)
    | none =>
        simp only [popped] at stepped
        by_cases gated : run.flow.Gated
        · simp only [gated, ↓reduceIte] at stepped
          cases stepped
          exact .refl
        · simp only [gated, ↓reduceIte] at stepped
          rcases offered : env.pull run.outside with ⟨offer, later⟩
          let asked : Run σ Req Resp Ctx Fault Refusal :=
            { run with outside := later }.log (.feedAsked (env.now later) offer)
          have heard : Moves env run asked := .single (.ask offered)
          simp only [offered] at stepped
          cases offer with
          | item item =>
              cases stepped
              have free : asked.flow.HasSlot := slot
              exact heard.tail (.submit free _ _)
          | ended =>
              cases stepped
              exact heard.tail (.arrange _ ⟨rfl, rfl, rfl⟩)
          | pending =>
              cases stepped
              exact heard
  · simp only [slot, ↓reduceIte] at stepped
    cases stepped
    exact .refl

theorem schedule_moves
    {since : Instant}
    {item : WorkItem Req Ctx}
    {broken : Option Breakdown}
    (scheduled : run.schedule env submission response since item = (broken, after)) :
    Moves env run after := by
  unfold schedule at scheduled
  simp only at scheduled
  split at scheduled
  · cases scheduled
    exact .refl
  · rename_i delay random _
    let drawn : Run σ Req Resp Ctx Fault Refusal :=
      { run with flow := { run.flow with random := random } }
    let told := drawn.notify env ⟨submission.attempt.number, response, some delay⟩
    have arranged : Moves env run drawn := .single (.arrange _ ⟨rfl, rfl, rfl⟩)
    have tells : Moves env run told := arranged.tail (.tell _)
    have announced :
        Moves env run (told.log (.retryAnnounced (submission.attempt.number + 1) delay)) :=
      tells.tail (.note _ rfl)
    split at scheduled
    · cases scheduled
      exact announced
    · cases scheduled
      exact (announced.tail (.note _ rfl)).tail (.arrange _ ⟨rfl, rfl, rfl⟩)

theorem scheduleAll_moves
    {since : Instant}
    {items : List (WorkItem Req Ctx)}
    (stepped : run.scheduleAll env submission response since items = (next, after)) :
    Moves env run after := by
  induction items generalizing run with
  | nil =>
      cases stepped
      exact .refl
  | cons item rest inductionHypothesis =>
      rcases scheduled : run.schedule env submission response since item with ⟨broken, middle⟩
      simp only [scheduleAll, scheduled] at stepped
      cases broken with
      | some cause =>
          cases stepped
          exact schedule_moves scheduled
      | none => exact (schedule_moves scheduled).trans (inductionHypothesis stepped)

theorem exhaust_moves
    (stepped : run.exhaust env submission response = (next, after)) :
    Moves env run after := by
  have noted :
      Moves env run
        ((run.notify env ⟨submission.attempt.number, response, none⟩).log
          (.attemptsExhausted (submission.attempt.number + 1))) :=
    .tail (.single (.tell _)) (.note _ rfl)
  unfold exhaust at stepped
  simp only at stepped
  split at stepped
  · exact noted.trans (yield_moves stepped)
  · exact noted.trans (abort_moves stepped)

theorem obey_moves
    {verdict : Except Refusal (Verdict Req Ctx)}
    (stepped : run.obey env submission response verdict = (next, after)) :
    Moves env run after := by
  unfold obey at stepped
  rcases verdict with refusal | _ | (_ | ⟨first, others⟩)
  · exact abort_moves stepped
  · exact yield_moves stepped
  · cases stepped
    exact .refl
  · by_cases spent : run.flow.settings.policy.maxAttempts ≤ submission.attempt.number
    · simp only [spent, ↓reduceIte] at stepped
      exact exhaust_moves stepped
    · simp only [spent, ↓reduceIte] at stepped
      exact scheduleAll_moves stepped

theorem settle_moves
    {answer : Except Fault Resp}
    (stepped : run.settle env submission answer = (next, after)) :
    Moves env run after := by
  unfold settle at stepped
  cases answer with
  | error fault => exact abort_moves stepped
  | ok response =>
      rcases classified :
          env.classify run.outside response submission.attempt.item.context with
        ⟨verdict, later⟩
      simp only [classified] at stepped
      exact .head (.judge classified) (obey_moves stepped)

theorem collect_moves (stepped : run.collect env = (next, after)) : Moves env run after := by
  unfold collect at stepped
  rcases collected : env.collect run.outside run.flow.inFlight with ⟨found, later⟩
  cases found with
  | none =>
      simp only [collected] at stepped
      cases stepped
      exact .single (.miss collected)
  | some completion =>
      simp only [collected] at stepped
      exact .head (.answer collected) (settle_moves stepped)

theorem lookAtTimer_moves (stepped : run.lookAtTimer env = (next, after)) :
    Moves env run after := by
  unfold lookAtTimer at stepped
  cases armed : run.flow.retries.nextDeadline? with
  | none =>
      simp only [armed, RetryQueue.pollTimer, Bool.false_eq_true, ↓reduceIte] at stepped
      split at stepped
      · cases stepped
        exact .tail (.single (.note .ended rfl)) (.arrange _ ⟨rfl, rfl, rfl⟩)
      · cases stepped
        exact .single (.arrange _ ⟨rfl, rfl, rfl⟩)
  | some deadline =>
      rcases looked : env.timerFired run.outside deadline with ⟨fired, later⟩
      have saw : Moves env run { run with outside := later } := .single (.look looked)
      simp only [armed, looked, RetryQueue.pollTimer] at stepped
      cases fired with
      | true =>
          cases stepped
          have noted := saw.tail (.note (.timerFired (env.now later)) rfl)
          exact noted.tail (.arrange _ ⟨rfl, rfl, rfl⟩)
      | false =>
          simp only [Bool.false_eq_true, ↓reduceIte] at stepped
          split at stepped
          · cases stepped
            have noted := saw.tail (.note .ended rfl)
            exact noted.tail (.arrange _ ⟨rfl, rfl, rfl⟩)
          · cases stepped
            exact saw.tail (.arrange _ ⟨rfl, rfl, rfl⟩)

/-- The work of a station is made of moves. -/
theorem step_moves
    {station : Station}
    (stepped : run.step env station = (next, after)) :
    Moves env run after := by
  cases station with
  | promote =>
      cases stepped
      exact .tail (.single (.note _ rfl)) (.arrange _ ⟨rfl, rfl, rfl⟩)
  | fill => exact fill_moves stepped
  | collect => exact collect_moves stepped
  | timer => exact lookAtTimer_moves stepped

end Run

end Resubmit
