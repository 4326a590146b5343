import Resubmit.Proofs.Session
import Resubmit.Proofs.Spread

namespace Resubmit

/-!
# A source that is not asked

Under a policy that does not spread its delays the source of random words is carried along and
never asked.  So the whole run is the same with any other source.  The functions of the stations
are followed one by one.
-/

variable {σ Req Resp Ctx Fault Refusal : Type}

/-- A flow with another source of random words. -/
def Flow.reseeded (flow : Flow Req Ctx) (random : ChaCha12) : Flow Req Ctx :=
  { flow with random := random }

namespace Run

/-- A run of a flow with another source of random words. -/
def reseeded
    (random : ChaCha12)
    (run : Run σ Req Resp Ctx Fault Refusal) :
    Run σ Req Resp Ctx Fault Refusal :=
  { run with flow := run.flow.reseeded random }

variable (env : Surroundings σ Req Resp Ctx Fault Refusal)
variable (run : Run σ Req Resp Ctx Fault Refusal)
variable (random : ChaCha12)

@[simp] theorem settings_reseeded : (run.reseeded random).flow.settings = run.flow.settings :=
  rfl

@[simp] theorem retries_reseeded : (run.reseeded random).flow.retries = run.flow.retries :=
  rfl

@[simp] theorem outside_reseeded : (run.reseeded random).outside = run.outside :=
  rfl

@[simp] theorem hasSlot_reseeded : (run.reseeded random).flow.HasSlot ↔ run.flow.HasSlot :=
  Iff.rfl

@[simp] theorem gated_reseeded : (run.reseeded random).flow.Gated ↔ run.flow.Gated :=
  Iff.rfl

theorem notify_reseeded (notice : Notice Resp) :
    (run.reseeded random).notify env notice = (run.notify env notice).reseeded random := by
  unfold notify
  rw [settings_reseeded]
  split <;> rfl

theorem schedule_reseeded
    (exact : ¬ run.flow.settings.policy.Spreads)
    (submission : Submission Req Ctx)
    (response : Resp)
    (since : Instant)
    (item : WorkItem Req Ctx) :
    (run.reseeded random).schedule env submission response since item =
      (run.schedule env submission response since item).map id (reseeded random) := by
  have drawn (source : ChaCha12) :=
    Policy.delay_of_not_spreads run.flow.settings.policy_sound exact
      (submission.attempt.number + 1) source
  have told :=
    notify_reseeded env run random
      ⟨submission.attempt.number, response,
        some (run.flow.settings.policy.backoff (submission.attempt.number + 1))⟩
  rw [schedule_of_delay run (drawn run.flow.random) rfl,
    schedule_of_delay (run.reseeded random) (drawn random) told, retries_reseeded]
  cases
      run.flow.retries.schedule?
        (Attempt.followUp item (submission.attempt.number + 1) submission.ticket)
        (run.flow.settings.policy.backoff (submission.attempt.number + 1)) since with
  | none => rfl
  | some waiting => rfl

theorem promote_reseeded :
    (run.reseeded random).promote env = (run.promote env).map id (reseeded random) :=
  rfl

theorem fill_reseeded :
    (run.reseeded random).fill env = (run.fill env).map id (reseeded random) := by
  unfold fill
  by_cases slot : run.flow.HasSlot
  · simp only [hasSlot_reseeded, slot, ↓reduceIte, retries_reseeded]
    cases run.flow.retries.popReady? with
    | some taken => rfl
    | none =>
        by_cases gated : run.flow.Gated
        · simp only [gated_reseeded, gated, ↓reduceIte]
          rfl
        · simp only [gated_reseeded, gated, ↓reduceIte, outside_reseeded]
          rcases offered : env.pull run.outside with ⟨offer, later⟩
          simp only [offered]
          cases offer <;> rfl
  · simp only [hasSlot_reseeded, slot, ↓reduceIte]
    rfl

theorem scheduleAll_reseeded
    (exact : ¬ run.flow.settings.policy.Spreads)
    (submission : Submission Req Ctx)
    (response : Resp)
    (since : Instant)
    (items : List (WorkItem Req Ctx)) :
    (run.reseeded random).scheduleAll env submission response since items =
      (run.scheduleAll env submission response since items).map id (reseeded random) := by
  induction items generalizing run with
  | nil => rfl
  | cons item rest inductionHypothesis =>
      have first := schedule_reseeded env run random exact submission response since item
      rcases scheduled : run.schedule env submission response since item with ⟨_ | cause, after⟩
      · rw [scheduled] at first
        have deed := schedule_deed ⟨submission, response, since, item⟩ [] scheduled
        have same : after.flow.settings = run.flow.settings := deed.settings_eq
        simp only [scheduleAll, first, scheduled, Prod.map_apply, id_eq]
        apply inductionHypothesis
        rw [same]
        exact exact
      · rw [scheduled] at first
        simp only [scheduleAll, first, scheduled, Prod.map_apply, id_eq]

theorem exhaust_reseeded (submission : Submission Req Ctx) (response : Resp) :
    (run.reseeded random).exhaust env submission response =
      (run.exhaust env submission response).map id (reseeded random) := by
  unfold exhaust
  simp only [notify_reseeded, flow_log, settings_reseeded, flow_notify]
  cases run.flow.settings.policy.exhaustion with
  | emitLast => rfl
  | fail => rfl

theorem obey_reseeded
    (exact : ¬ run.flow.settings.policy.Spreads)
    (submission : Submission Req Ctx)
    (response : Resp)
    (verdict : Except Refusal (Verdict Req Ctx)) :
    (run.reseeded random).obey env submission response verdict =
      (run.obey env submission response verdict).map id (reseeded random) := by
  rcases verdict with refusal | _ | _ | ⟨first, others⟩
  · rfl
  · rfl
  · rfl
  · by_cases spent : run.flow.settings.policy.maxAttempts ≤ submission.attempt.number
    · simp only [obey, settings_reseeded, spent, ↓reduceIte]
      exact exhaust_reseeded env run random submission response
    · simp only [obey, settings_reseeded, spent, ↓reduceIte]
      exact scheduleAll_reseeded env run random exact submission response _ _

theorem settle_reseeded
    (exact : ¬ run.flow.settings.policy.Spreads)
    (submission : Submission Req Ctx)
    (answer : Except Fault Resp) :
    (run.reseeded random).settle env submission answer =
      (run.settle env submission answer).map id (reseeded random) := by
  cases answer with
  | error fault => rfl
  | ok response =>
      rcases classified :
          env.classify run.outside response submission.attempt.item.context with
        ⟨verdict, outside⟩
      simp only [settle, outside_reseeded, classified]
      let judged : Run σ Req Resp Ctx Fault Refusal :=
        log { run with outside := outside }
          (.judged (env.now outside) submission response verdict)
      exact obey_reseeded env judged random exact submission response verdict

theorem collect_reseeded (exact : ¬ run.flow.settings.policy.Spreads) :
    (run.reseeded random).collect env = (run.collect env).map id (reseeded random) := by
  rcases collected : env.collect run.outside run.flow.inFlight with ⟨found, later⟩
  have collected' :
      env.collect (run.reseeded random).outside (run.reseeded random).flow.inFlight =
        (found, later) :=
    collected
  cases found with
  | none =>
      simp only [collect, collected, collected']
      rfl
  | some completion =>
      simp only [collect, collected, collected']
      let submission := run.flow.inFlight.get completion.index
      let rest : Flow Req Ctx :=
        { run.flow with inFlight := run.flow.inFlight.eraseIdx completion.index }
      let noted : Run σ Req Resp Ctx Fault Refusal :=
        log { run with outside := later, flow := rest }
          (.answered (env.now later) submission completion.answer)
      exact settle_reseeded env noted random exact submission completion.answer

theorem lookAtTimer_reseeded :
    (run.reseeded random).lookAtTimer env = (run.lookAtTimer env).map id (reseeded random) := by
  cases armed : run.flow.retries.nextDeadline? with
  | none =>
      simp only [lookAtTimer, retries_reseeded, outside_reseeded, armed, RetryQueue.pollTimer,
        Bool.false_eq_true, ↓reduceIte, apply_ite (Prod.map id (reseeded random))]
      exact if_congr Iff.rfl rfl rfl
  | some deadline =>
      rcases looked : env.timerFired run.outside deadline with ⟨fired, later⟩
      cases fired with
      | true =>
          simp only [lookAtTimer, retries_reseeded, outside_reseeded, armed, looked,
            RetryQueue.pollTimer, ↓reduceIte]
          rfl
      | false =>
          simp only [lookAtTimer, retries_reseeded, outside_reseeded, armed, looked,
            RetryQueue.pollTimer, Bool.false_eq_true, ↓reduceIte,
            apply_ite (Prod.map id (reseeded random))]
          exact if_congr Iff.rfl rfl rfl

theorem step_reseeded
    (exact : ¬ run.flow.settings.policy.Spreads)
    (station : Station) :
    (run.reseeded random).step env station = (run.step env station).map id (reseeded random) := by
  cases station with
  | promote => exact promote_reseeded env run random
  | fill => exact fill_reseeded env run random
  | collect => exact collect_reseeded env run random exact
  | timer => exact lookAtTimer_reseeded env run random

theorem walk_reseeded
    (exact : ¬ run.flow.settings.policy.Spreads)
    (budget : Nat)
    (station : Station) :
    (run.reseeded random).walk env budget station =
      (run.walk env budget station).map id (reseeded random) := by
  induction budget generalizing station run with
  | zero => rfl
  | succ budget inductionHypothesis =>
      have first := step_reseeded env run random exact station
      rcases stepped : run.step env station with ⟨next | result, after⟩
      · obtain ⟨owed, trail, _⟩ := step_trail stepped
        have same : after.flow.settings = run.flow.settings := trail.settings_eq
        rw [stepped] at first
        simp only [walk, first, stepped, Prod.map_apply, id_eq]
        apply inductionHypothesis
        rw [same]
        exact exact
      · rw [stepped] at first
        simp only [walk, first, stepped, Prod.map_apply, id_eq]

theorem poll_reseeded
    (exact : ¬ run.flow.settings.policy.Spreads)
    (budget : Nat) :
    (run.reseeded random).poll env budget = (run.poll env budget).map id (reseeded random) := by
  cases terminated : run.flow.terminated with
  | true =>
      have ended : (run.reseeded random).flow.terminated = true := terminated
      rw [poll_of_terminated ended, poll_of_terminated terminated]
      rfl
  | false =>
      have walked := walk_reseeded env run random exact budget .promote
      have running : (run.reseeded random).flow.terminated = false := terminated
      simpa only [poll, terminated, running, Bool.false_eq_true, ↓reduceIte] using walked

end Run

theorem Reached.reseeded
    {env : Surroundings σ Req Resp Ctx Fault Refusal}
    {start run : Run σ Req Resp Ctx Fault Refusal}
    {position : Position}
    (reached : Reached env start position run)
    (exact : ¬ start.flow.settings.policy.Spreads)
    (random : ChaCha12) :
    Reached env (start.reseeded random) position (run.reseeded random) := by
  induction reached with
  | start => exact .start
  | begin _ running inductionHypothesis => exact inductionHypothesis.begin running
  | step reached stepped sound inductionHypothesis =>
      have same := reached.settings_eq
      refine inductionHypothesis.step ?_ sound
      rw [Run.step_reseeded _ _ random (by rwa [same]), stepped]
      rfl
  | elapse outside _ inductionHypothesis => exact inductionHypothesis.elapse outside
  | cancel _ inductionHypothesis => exact inductionHypothesis.cancel

end Resubmit
