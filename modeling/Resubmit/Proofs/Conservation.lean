import Resubmit.Proofs.Rulings

namespace Resubmit

/-!
# Conservation of work

Work enters a flow from the feed and as follow-ups.  From then on it waits, may be taken,
is in flight, or has been ruled on, and it is at one of these places exactly.  Only a flow
that gives up its work loses any.
-/

variable {σ Req Resp Ctx Fault Refusal : Type}

/-! ## Balances -/

/-- The submission that is made with the event, if there is one. -/
def Event.launches (event : Event Req Resp Ctx Fault Refusal) : List (Submission Req Ctx) :=
  event.submission?.toList

/-- The submission that is ruled on with the event, if there is one. -/
def Event.settles (event : Event Req Resp Ctx Fault Refusal) : List (Submission Req Ctx) :=
  (event.ruling?.map Ruling.submission).toList

/-- The attempt that is ruled on with the event, if there is one. -/
def Event.finishes (event : Event Req Resp Ctx Fault Refusal) : List (Attempt Req Ctx) :=
  event.settles.map Submission.attempt

namespace Flow

/-- The work that a flow has: in flight, waiting, or takeable. -/
def work (flow : Flow Req Ctx) : Multiset (Attempt Req Ctx) :=
  ↑(flow.inFlight.map Submission.attempt) + flow.retries.entries.map Waiting.payload

theorem work_launch
    (flow : Flow Req Ctx)
    (attempt : Attempt Req Ctx)
    (place : Option Place) :
    (flow.launch attempt place).work = flow.work + {attempt} := by
  rw [work, work, add_right_comm, ← Multiset.coe_singleton, Multiset.coe_add]
  simp [launch, submissionOf]

theorem work_of_popReady?
    {flow : Flow Req Ctx}
    {entry : Waiting (Attempt Req Ctx)}
    {retries : RetryQueue (Attempt Req Ctx)}
    (popped : flow.retries.popReady? = some (entry, retries)) :
    flow.work =
      ({ flow with retries := retries } : Flow Req Ctx).work + {entry.payload} := by
  rw [work, work, RetryQueue.entries_of_popReady? popped, Multiset.map_cons,
    ← Multiset.singleton_add]
  abel

theorem work_of_schedule?
    {flow : Flow Req Ctx}
    {attempt : Attempt Req Ctx}
    {delay : Duration}
    {since : Instant}
    {entry : Waiting (Attempt Req Ctx)}
    {retries : RetryQueue (Attempt Req Ctx)}
    (random : ChaCha12)
    (scheduled : flow.retries.schedule? attempt delay since = some (entry, retries)) :
    ({ flow with random := random, retries := retries } : Flow Req Ctx).work =
      flow.work + {attempt} := by
  obtain ⟨added, payload⟩ := RetryQueue.entries_of_schedule? scheduled
  rw [work, work, added, Multiset.map_cons, payload, ← Multiset.singleton_add]
  abel

theorem work_shutDown (flow : Flow Req Ctx) : flow.shutDown.work = 0 :=
  rfl

theorem Takes.work_eq
    {env : Surroundings σ Req Resp Ctx Fault Refusal}
    {flow rest : Flow Req Ctx}
    {submission : Submission Req Ctx}
    {answer : Except Fault Resp}
    {later : σ}
    (taken : flow.Takes env submission answer later rest) :
    flow.work = rest.work + {submission.attempt} := by
  have perm := Multiset.coe_eq_coe.mp taken.inFlight_eq
  rw [work, work, taken.retries, Multiset.coe_eq_coe.mpr (perm.map Submission.attempt),
    List.map_cons, ← Multiset.cons_coe, ← Multiset.singleton_add]
  abel

/-- The submissions in flight. -/
def flight (flow : Flow Req Ctx) : Multiset (Submission Req Ctx) :=
  flow.inFlight

theorem flight_launch
    (flow : Flow Req Ctx)
    (attempt : Attempt Req Ctx)
    (place : Option Place) :
    (flow.launch attempt place).flight =
      flow.flight + {flow.submissionOf attempt place} := by
  rw [flight, flight, ← Multiset.coe_singleton, Multiset.coe_add]
  rfl

theorem flight_shutDown (flow : Flow Req Ctx) : flow.shutDown.flight = 0 :=
  rfl

theorem Takes.flight_eq
    {env : Surroundings σ Req Resp Ctx Fault Refusal}
    {flow rest : Flow Req Ctx}
    {submission : Submission Req Ctx}
    {answer : Except Fault Resp}
    {later : σ}
    (taken : flow.Takes env submission answer later rest) :
    flow.flight = rest.flight + {submission} := by
  rw [flight, taken.inFlight_eq, ← Multiset.singleton_add, add_comm]
  rfl

end Flow

namespace Scene

/-- The work that is left to do: that of the flow, and what is owed. -/
def live (scene : Scene Req Resp Ctx Fault Refusal) : Multiset (Attempt Req Ctx) :=
  scene.flow.work + ↑(scene.owed.map Debt.attempt)

/--
What was gained is held, was spent, or was lost.

Nothing is lost as long as no work is given up.
-/
def Balanced
    (held : Scene Req Resp Ctx Fault Refusal → Multiset β)
    (gain spend : Event Req Resp Ctx Fault Refusal → List β)
    (scene : Scene Req Resp Ctx Fault Refusal) :
    Prop :=
  ∃ lost : Multiset β,
    (scene.events.flatMap gain : Multiset β) =
      held scene + lost + ↑(scene.events.flatMap spend) ∧
    (¬ Journal.GaveUp scene.events → lost = 0)

/-- New events keep a balance when they are balanced themselves. -/
theorem Balanced.after
    {held : Scene Req Resp Ctx Fault Refusal → Multiset β}
    {gain spend : Event Req Resp Ctx Fault Refusal → List β}
    {before after : Scene Req Resp Ctx Fault Refusal}
    {new : List (Event Req Resp Ctx Fault Refusal)}
    (lost : Multiset β)
    (balanced : before.Balanced held gain spend)
    (grown : after.events = before.events ++ new)
    (settled :
      held before + ↑(new.flatMap gain) = held after + lost + ↑(new.flatMap spend))
    (kept : ¬ Journal.GaveUp new → lost = 0) :
    after.Balanced held gain spend := by
  obtain ⟨earlier, total, whole⟩ := balanced
  refine ⟨earlier + lost, ?_, ?_⟩
  · rw [grown, List.flatMap_append, List.flatMap_append, ← Multiset.coe_add,
      ← Multiset.coe_add, total]
    calc held before + earlier + ↑(before.events.flatMap spend) + ↑(new.flatMap gain)
      _ = held before + ↑(new.flatMap gain) + earlier + ↑(before.events.flatMap spend) := by
          abel
      _ = held after + (earlier + lost) +
            (↑(before.events.flatMap spend) + ↑(new.flatMap spend)) := by
          rw [settled]
          abel
  · intro keptAll
    rw [grown, Journal.GaveUp, List.any_append, Bool.or_eq_true, not_or] at keptAll
    rw [whole keptAll.1, kept keptAll.2, add_zero]

end Scene

section Deeds

variable {env : Surroundings σ Req Resp Ctx Fault Refusal}
variable {station : Station}
variable {before after : Scene Req Resp Ctx Fault Refusal}
variable {next : Option (Next Resp Ctx Fault Refusal)}

/-- A deed only moves work, ends it with a ruling, or gives it up. -/
theorem Deed.work_balance
    (deed : Deed env station before next after) :
    ∃ new lost,
      after.events = before.events ++ new ∧
      before.live +
          ↑(new.flatMap (Event.enters before.flow.settings.policy.maxAttempts)) =
        after.live + lost + ↑(new.flatMap Event.finishes) ∧
      (¬ Journal.GaveUp new → lost = 0) := by
  have toldEnters :=
    Flow.flatMap_told
      (Event.enters before.flow.settings.policy.maxAttempts :
        Event Req Resp Ctx Fault Refusal → List (Attempt Req Ctx))
      fun _ _ => rfl
  have toldFinishes :=
    Flow.flatMap_told
      (Event.finishes : Event Req Resp Ctx Fault Refusal → List (Attempt Req Ctx))
      fun _ _ => rfl
  cases deed with
  | resubmit _ _ popped =>
      refine ⟨_, 0, rfl, ?_, fun _ => rfl⟩
      simp [Scene.live, Event.enters, Event.finishes, Event.settles, Event.ruling?,
        Flow.work_launch, Flow.work_of_popReady? popped]
  | pull =>
      refine ⟨_, 0, rfl, ?_, fun _ => rfl⟩
      simp [Scene.live, Event.enters, Event.finishes, Event.settles, Event.ruling?,
        Flow.work_launch]
  | @stageFault _ rest _ _ _ _ taken =>
      refine ⟨_, rest.work, rfl, ?_, ?_⟩
      · simp [Scene.live, Event.enters, Event.finishes, Event.settles, Event.ruling?,
          Ruling.submission, Flow.work_shutDown, taken.work_eq]
      · simp [Journal.GaveUp, Event.givesUp]
  | @refusal _ rest _ _ _ _ _ _ taken =>
      refine ⟨_, rest.work, rfl, ?_, ?_⟩
      · simp [Scene.live, Event.enters, Event.finishes, Event.settles, Event.ruling?,
          Ruling.submission, Judgement.followUps, Flow.work_shutDown, taken.work_eq]
      · simp [Journal.GaveUp, Event.givesUp]
  | done taken | dropBranch taken =>
      refine ⟨_, 0, rfl, ?_, fun _ => rfl⟩
      simp [Scene.live, Event.enters, Event.finishes, Event.settles, Event.ruling?,
        Ruling.submission, Judgement.followUps, taken.work_eq]
  | exhaust taken _ spent =>
      refine ⟨_, 0, rfl, ?_, fun _ => rfl⟩
      simp [Scene.live, Event.enters, Event.finishes, Event.settles, Event.ruling?,
        Ruling.submission, Judgement.followUps, UInt32.not_lt.mpr spent, taken.work_eq,
        toldEnters, toldFinishes]
  | @exhaustionFault _ rest _ _ _ _ _ _ _ taken _ spent =>
      refine ⟨_, rest.work, rfl, ?_, ?_⟩
      · simp [Scene.live, Event.enters, Event.finishes, Event.settles, Event.ruling?,
          Ruling.submission, Judgement.followUps, UInt32.not_lt.mpr spent,
          Flow.work_shutDown, taken.work_eq, toldEnters, toldFinishes]
      · simp [Journal.GaveUp, Event.givesUp]
  | branch taken _ within =>
      -- The follow-ups have entered the work, and they are owed.
      refine ⟨_, 0, rfl, ?_, fun _ => rfl⟩
      simp [Scene.live, Event.enters, Event.finishes, Event.settles, Event.ruling?,
        Ruling.submission, Judgement.followUps, within, Submission.debts, Debt.attempt,
        taken.work_eq, Function.comp_def]
      abel
  | schedule _ _ scheduled =>
      refine ⟨_, 0, rfl, ?_, fun _ => rfl⟩
      simp only [Scene.live, Flow.work_of_schedule? _ scheduled, List.map_cons,
        ← Multiset.cons_coe, ← Multiset.singleton_add, List.flatMap_append, toldEnters,
        toldFinishes]
      simp [Event.enters, Event.finishes, Event.settles, Event.ruling?, add_assoc]
  | leaveFeed | noAnswer | noDelay | allScheduled =>
      exact ⟨[], 0, by simp, by simp, fun _ => rfl⟩
  | wait =>
      exact ⟨[], 0, by simp, by simp [Scene.live, Flow.work], fun _ => rfl⟩
  | _ =>
      refine ⟨_, 0, rfl, ?_, fun _ => rfl⟩
      simp [Scene.live, Flow.work, Event.enters, Event.finishes, Event.settles,
        Event.ruling?, toldEnters, toldFinishes]

/-- A deed makes submissions, rules on them, or gives them up. -/
theorem Deed.flight_balance
    (deed : Deed env station before next after) :
    ∃ new lost,
      after.events = before.events ++ new ∧
      before.flow.flight + ↑(new.flatMap Event.launches) =
        after.flow.flight + lost + ↑(new.flatMap Event.settles) ∧
      (¬ Journal.GaveUp new → lost = 0) := by
  have toldLaunches :=
    Flow.flatMap_told
      (Event.launches : Event Req Resp Ctx Fault Refusal → List (Submission Req Ctx))
      fun _ _ => rfl
  have toldSettles :=
    Flow.flatMap_told
      (Event.settles : Event Req Resp Ctx Fault Refusal → List (Submission Req Ctx))
      fun _ _ => rfl
  cases deed with
  | @resubmit flow _ entry retries =>
      have launched :=
        Flow.flight_launch { flow with retries := retries }
          entry.payload (some entry.place)
      refine ⟨_, 0, rfl, ?_, fun _ => rfl⟩
      rw [launched]
      simp [Event.launches, Event.submission?, Event.settles, Event.ruling?]
      rfl
  | pull =>
      refine ⟨_, 0, rfl, ?_, fun _ => rfl⟩
      simp [Event.launches, Event.submission?, Event.settles, Event.ruling?,
        Flow.flight_launch]
  | @stageFault _ rest _ _ _ _ taken =>
      refine ⟨_, rest.flight, rfl, ?_, ?_⟩
      · simp [Event.launches, Event.submission?, Event.settles, Event.ruling?,
          Ruling.submission, Flow.flight_shutDown, taken.flight_eq]
      · simp [Journal.GaveUp, Event.givesUp]
  | @refusal _ rest _ _ _ _ _ _ taken =>
      refine ⟨_, rest.flight, rfl, ?_, ?_⟩
      · simp [Event.launches, Event.submission?, Event.settles, Event.ruling?,
          Ruling.submission, Flow.flight_shutDown, taken.flight_eq]
      · simp [Journal.GaveUp, Event.givesUp]
  | done taken | dropBranch taken | branch taken =>
      refine ⟨_, 0, rfl, ?_, fun _ => rfl⟩
      simp [Event.launches, Event.submission?, Event.settles, Event.ruling?,
        Ruling.submission, taken.flight_eq]
  | exhaust taken =>
      refine ⟨_, 0, rfl, ?_, fun _ => rfl⟩
      simp [Event.launches, Event.submission?, Event.settles, Event.ruling?,
        Ruling.submission, taken.flight_eq, toldLaunches, toldSettles]
  | @exhaustionFault _ rest _ _ _ _ _ _ _ taken =>
      refine ⟨_, rest.flight, rfl, ?_, ?_⟩
      · simp [Event.launches, Event.submission?, Event.settles, Event.ruling?,
          Ruling.submission, Flow.flight_shutDown, taken.flight_eq, toldLaunches,
          toldSettles]
      · simp [Journal.GaveUp, Event.givesUp]
  | leaveFeed | noAnswer | noDelay | allScheduled =>
      exact ⟨[], 0, by simp, by simp, fun _ => rfl⟩
  | wait => exact ⟨[], 0, by simp, by simp [Flow.flight], fun _ => rfl⟩
  | _ =>
      refine ⟨_, 0, rfl, ?_, fun _ => rfl⟩
      simp [Flow.flight, Event.launches, Event.submission?, Event.settles, Event.ruling?,
        toldLaunches, toldSettles]

end Deeds

end Resubmit
