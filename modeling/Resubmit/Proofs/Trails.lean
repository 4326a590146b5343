import Resubmit.Proofs.Deeds

namespace Resubmit

/-!
# Stations do deeds

What `Run.step` does at a station is one deed, or a few when follow-ups are scheduled.
The proofs follow the functions of the stations one by one, and nothing after this
module has to open them again.
-/

variable {σ Req Resp Ctx Fault Refusal : Type}

/-- Whether a poll cannot be carried on. -/
def PollResult.breaksDown : PollResult Resp Ctx Fault Refusal → Bool
  | .brokenDown _ => true
  | _ => false

/-- Whether the run cannot go on from here. -/
def Next.breaksDown : Next Resp Ctx Fault Refusal → Bool
  | .go _ => false
  | .stop result => result.breaksDown

namespace Run

variable {env : Surroundings σ Req Resp Ctx Fault Refusal}
variable {run after : Run σ Req Resp Ctx Fault Refusal}
variable {next : Next Resp Ctx Fault Refusal}

@[simp] theorem events_log
    (run : Run σ Req Resp Ctx Fault Refusal)
    (event : Event Req Resp Ctx Fault Refusal) :
    (run.log event).events = run.events ++ [event] := by
  simp [events, log]

@[simp] theorem flow_log
    (run : Run σ Req Resp Ctx Fault Refusal)
    (event : Event Req Resp Ctx Fault Refusal) :
    (run.log event).flow = run.flow :=
  rfl

@[simp] theorem flow_notify
    (notice : Notice Resp)
    (run : Run σ Req Resp Ctx Fault Refusal) :
    (run.notify env notice).flow = run.flow := by
  unfold notify
  split <;> rfl

@[simp] theorem events_notify
    (notice : Notice Resp)
    (run : Run σ Req Resp Ctx Fault Refusal) :
    (run.notify env notice).events =
      run.events ++ run.flow.told (env.now run.outside) notice := by
  unfold notify Flow.told
  split <;> simp [events, log]

/-- Handing an attempt to the stage launches it and is noted. -/
theorem scene_submit
    (attempt : Attempt Req Ctx)
    (place : Option Place)
    (owed : List (Debt Req Resp Ctx))
    (run : Run σ Req Resp Ctx Fault Refusal) :
    (run.submit env attempt place).scene owed =
      ⟨run.flow.launch attempt place,
        run.events ++ [
          .submitted (env.now run.outside)
            (run.flow.submissionOf attempt place)
            (run.flow.inFlight.length + 1)],
        owed⟩ := by
  simp [scene, submit, events, log, Flow.launch, Flow.submissionOf]

/-- Scheduling reports the delay that was drawn, and puts the attempt into the queue. -/
theorem schedule_of_delay
    (run : Run σ Req Resp Ctx Fault Refusal)
    {submission : Submission Req Ctx}
    {response : Resp}
    {delay : Duration}
    {rest : ChaCha12}
    {told : Run σ Req Resp Ctx Fault Refusal}
    (drawn :
      run.flow.settings.policy.delay (submission.attempt.number + 1) run.flow.random =
        .ok (delay, rest))
    (notified :
      notify env ⟨submission.attempt.number, response, some delay⟩
          { run with flow := { run.flow with random := rest } } =
        told)
    (since : Instant)
    (item : WorkItem Req Ctx) :
    let number := submission.attempt.number + 1
    let announced := told.log (.retryAnnounced number delay)
    run.schedule env submission response since item =
      match
        run.flow.retries.schedule?
          (Attempt.followUp item number submission.ticket) delay since
      with
      | none => (some .clockOverflow, announced)
      | some (entry, retries) =>
          (none, {
            announced.log (.retryScheduled entry) with
            flow := { announced.flow with retries := retries } }) := by
  subst notified
  cases scheduled :
      run.flow.retries.schedule?
        (Attempt.followUp item (submission.attempt.number + 1) submission.ticket) delay since with
  | none => simp only [schedule, drawn, flow_log, flow_notify, scheduled]
  | some waiting => simp only [schedule, drawn, flow_log, flow_notify, scheduled]

/-- Scheduling a follow-up that is owed is a deed. -/
theorem schedule_deed
    {broken : Option Breakdown}
    (debt : Debt Req Resp Ctx)
    (owed : List (Debt Req Resp Ctx))
    (scheduled :
      run.schedule env debt.submission debt.response debt.since debt.item =
        (broken, after)) :
    match broken with
    | none =>
        Deed env .collect (run.scene (debt :: owed)) none (after.scene owed)
    | some cause =>
        Deed env .collect
          (run.scene (debt :: owed))
          (some (.stop (.brokenDown cause)))
          (after.scene (debt :: owed)) := by
  cases drawn :
      run.flow.settings.policy.delay
        (debt.submission.attempt.number + 1) run.flow.random with
  | error cause =>
      simp only [schedule, drawn] at scheduled
      obtain ⟨rfl, rfl⟩ := Prod.mk.inj scheduled
      exact .noDelay drawn
  | ok pair =>
      obtain ⟨delay, random⟩ := pair
      cases placed :
          run.flow.retries.schedule?
            (Attempt.followUp debt.item
              (debt.submission.attempt.number + 1) debt.submission.ticket)
            delay debt.since with
      | none =>
          simp only [schedule, drawn, flow_log, flow_notify, placed] at scheduled
          obtain ⟨rfl, rfl⟩ := Prod.mk.inj scheduled
          have deed :
              Deed env .collect
                (run.scene (debt :: owed))
                (some (.stop (.brokenDown .clockOverflow)))
                ⟨{ run.flow with random := random },
                  run.events ++ (run.flow.told (env.now run.outside) (debt.notice delay)
                    ++ [.retryAnnounced (debt.submission.attempt.number + 1) delay]),
                  debt :: owed⟩ :=
            .clockOverflow run.outside drawn placed
          cases observed : run.flow.settings.observed <;>
            simpa [scene, events, log, notify, Flow.told, Debt.notice, observed] using deed
      | some waiting =>
          obtain ⟨entry, retries⟩ := waiting
          simp only [schedule, drawn, flow_log, flow_notify, placed] at scheduled
          obtain ⟨rfl, rfl⟩ := Prod.mk.inj scheduled
          have deed :
              Deed env .collect
                (run.scene (debt :: owed))
                none
                ⟨{ run.flow with random := random, retries := retries },
                  run.events ++ (run.flow.told (env.now run.outside) (debt.notice delay)
                    ++ [
                      .retryAnnounced (debt.submission.attempt.number + 1) delay,
                      .retryScheduled entry]),
                  owed⟩ :=
            .schedule run.outside drawn placed
          cases observed : run.flow.settings.observed <;>
            simpa [scene, events, log, notify, Flow.told, Debt.notice, observed] using deed

/-- Scheduling all that is owed is a deed for each follow-up. -/
theorem scheduleAll_trail
    {submission : Submission Req Ctx}
    {response : Resp}
    {since : Instant}
    {items : List (WorkItem Req Ctx)}
    (stepped :
      run.scheduleAll env submission response since items = (next, after)) :
    ∃ owed,
      Trail env .collect
          (run.scene (submission.debts response since items))
          next (after.scene owed) ∧
        (next.breaksDown = false → owed = []) := by
  induction items generalizing run with
  | nil =>
      cases stepped
      exact ⟨[], .last .allScheduled, fun _ => rfl⟩
  | cons item rest inductionHypothesis =>
      rcases scheduled : run.schedule env submission response since item with
        ⟨broken, middle⟩
      let debt : Debt Req Resp Ctx := ⟨submission, response, since, item⟩
      have deed :=
        schedule_deed debt (submission.debts response since rest) scheduled
      cases broken with
      | some cause =>
          simp only [scheduleAll, scheduled] at stepped
          obtain ⟨rfl, rfl⟩ := Prod.mk.inj stepped
          exact ⟨_, .last deed, fun sound => nomatch sound⟩
      | none =>
          simp only [scheduleAll, scheduled] at stepped
          obtain ⟨owed, trail, settled⟩ := inductionHypothesis stepped
          exact ⟨owed, .more deed trail, settled⟩

/-! ## The stations -/

/-- Filling a slot is one deed. -/
theorem fill_deed (stepped : run.fill env = (next, after)) :
    Deed env .fill (run.scene []) (some next) (after.scene []) := by
  unfold fill at stepped
  by_cases slot : run.flow.HasSlot
  · simp only [slot, ↓reduceIte] at stepped
    cases popped : run.flow.retries.popReady? with
    | some taken =>
        obtain ⟨entry, retries⟩ := taken
        simp only [popped] at stepped
        obtain ⟨rfl, rfl⟩ := Prod.mk.inj stepped
        rw [scene_submit]
        exact .resubmit run.outside slot popped
    | none =>
        have noneReady : run.flow.retries.ready = [] := by
          unfold RetryQueue.popReady? at popped
          split at popped
          · assumption
          · cases popped
        simp only [popped] at stepped
        by_cases gated : run.flow.Gated
        · simp only [gated, ↓reduceIte] at stepped
          obtain ⟨rfl, rfl⟩ := Prod.mk.inj stepped
          exact .leaveFeed (.inr ⟨noneReady, gated⟩)
        · simp only [gated, ↓reduceIte] at stepped
          rcases offered : env.pull run.outside with ⟨offer, later⟩
          simp only [offered] at stepped
          cases offer with
          | item item =>
              obtain ⟨rfl, rfl⟩ := Prod.mk.inj stepped
              have deed :
                  Deed env .fill
                    (run.scene [])
                    (some (.go .fill))
                    ⟨run.flow.launch (Attempt.fresh item) none,
                      run.events ++ [
                        .feedAsked (env.now later) (.item item),
                        .submitted (env.now later)
                          (run.flow.submissionOf (Attempt.fresh item) none)
                          (run.flow.inFlight.length + 1)],
                      []⟩ :=
                .pull slot noneReady gated offered
              simpa [scene_submit, events, log] using deed
          | pending =>
              obtain ⟨rfl, rfl⟩ := Prod.mk.inj stepped
              have deed :
                  Deed env .fill
                    (run.scene [])
                    (some (.go .collect))
                    ⟨run.flow, run.events ++ [.feedAsked (env.now later) .pending], []⟩ :=
                .feedWaits slot noneReady gated offered
              simpa [scene, events, log] using deed
          | ended =>
              obtain ⟨rfl, rfl⟩ := Prod.mk.inj stepped
              have deed :
                  Deed env .fill
                    (run.scene [])
                    (some (.go .fill))
                    ⟨{ run.flow with feedEnded := true },
                      run.events ++ [.feedAsked (env.now later) .ended], []⟩ :=
                .feedEnds slot noneReady gated offered
              simpa [scene, events, log] using deed
  · simp only [slot, ↓reduceIte] at stepped
    obtain ⟨rfl, rfl⟩ := Prod.mk.inj stepped
    exact .leaveFeed (.inl slot)

/-- When the timer has not gone off, the flow ends or waits. -/
theorem rearmed_deed
    (looked : Run σ Req Resp Ctx Fault Refusal)
    (rearmed : looked.flow = { run.flow with retries := run.flow.retries.rearmed })
    (noted : looked.events = run.events)
    (quiet :
      ∀ deadline,
        run.flow.retries.nextDeadline? = some deadline →
        ∃ outside later, env.timerFired outside deadline = (false, later))
    (stepped :
      (if looked.flow.Settled then
        (.stop .ended,
          { looked with flow := { looked.flow with terminated := true } }.log .ended)
      else
        (.stop .pending, looked)) = (next, after)) :
    Deed env .timer (run.scene []) (some next) (after.scene []) := by
  have same : looked.flow.Settled ↔ run.flow.Settled := by
    rw [rearmed]
    exact Iff.rfl
  by_cases settled : run.flow.Settled
  · rw [if_pos (same.mpr settled)] at stepped
    obtain ⟨rfl, rfl⟩ := Prod.mk.inj stepped
    have deed :
        Deed env .timer
          (run.scene [])
          (some (.stop .ended))
          ⟨{ run.flow with retries := run.flow.retries.rearmed, terminated := true },
            run.events ++ [.ended], []⟩ :=
      .finish settled
    rw [← noted] at deed
    simpa [scene, events, log, rearmed] using deed
  · rw [if_neg (settled ∘ same.mp)] at stepped
    obtain ⟨rfl, rfl⟩ := Prod.mk.inj stepped
    have deed :
        Deed env .timer
          (run.scene [])
          (some (.stop .pending))
          ⟨{ run.flow with retries := run.flow.retries.rearmed }, run.events, []⟩ :=
      .wait settled quiet
    simpa [scene, rearmed, noted] using deed

/-- Looking at the timer is one deed. -/
theorem lookAtTimer_deed (stepped : run.lookAtTimer env = (next, after)) :
    Deed env .timer (run.scene []) (some next) (after.scene []) := by
  unfold lookAtTimer at stepped
  cases armed : run.flow.retries.nextDeadline? with
  | none =>
      simp only [armed, RetryQueue.pollTimer, Bool.false_eq_true, ↓reduceIte] at stepped
      let retries := { run.flow.retries with timer := none }
      refine rearmed_deed
        { run with flow := { run.flow with retries := retries } }
        ?_ rfl ?_ stepped
      · simp only [retries, RetryQueue.rearmed, armed]
      · intro deadline due
        rw [armed] at due
        cases due
  | some deadline =>
      rcases looked : env.timerFired run.outside deadline with ⟨fired, later⟩
      cases fired with
      | true =>
          simp only [armed, looked, RetryQueue.pollTimer, ↓reduceIte] at stepped
          obtain ⟨rfl, rfl⟩ := Prod.mk.inj stepped
          have deed :
              Deed env .timer
                (run.scene [])
                (some (.go .promote))
                ⟨{ run.flow with
                    retries := (run.flow.retries.pollTimer true (env.now later)).2 },
                  run.events ++ [.timerFired (env.now later)], []⟩ :=
            .timerFires armed looked
          simpa [scene, events, log, RetryQueue.pollTimer, armed] using deed
      | false =>
          simp only [armed, looked, RetryQueue.pollTimer, Bool.false_eq_true,
            ↓reduceIte] at stepped
          let retries := { run.flow.retries with timer := some deadline }
          refine rearmed_deed
            { run with outside := later, flow := { run.flow with retries := retries } }
            ?_ rfl ?_ stepped
          · simp only [retries, RetryQueue.rearmed, armed]
          · intro other due
            rw [armed] at due
            cases due
            exact ⟨run.outside, later, looked⟩

/-- Ending with a fault shuts the flow down, notes it and gives the fault out. -/
theorem abort_eq
    {error : FlowError Fault Refusal}
    (aborted : run.abort env error = (next, after)) :
    next = .stop (.item (.error error)) ∧
      after.scene [] =
        ⟨run.flow.shutDown,
          run.events ++ [
            .aborted run.flow.inFlightCount run.flow.pendingCount error,
            .yielded (.error error)],
          []⟩ := by
  obtain ⟨rfl, rfl⟩ := Prod.mk.inj aborted
  exact ⟨rfl, by simp [scene, events, log, shutDown]⟩

/-- Giving out an outcome is noted. -/
theorem emit_eq
    {submission : Submission Req Ctx}
    {response : Resp}
    {exhausted : Bool}
    (emitted : run.emit submission response exhausted = (next, after)) :
    next = .stop (.item (.ok (submission.outcome response exhausted))) ∧
      after.scene [] =
        ⟨run.flow,
          run.events ++ [.yielded (.ok (submission.outcome response exhausted))],
          []⟩ := by
  obtain ⟨rfl, rfl⟩ := Prod.mk.inj emitted
  exact ⟨rfl, by simp [scene, events, log, Submission.outcome]⟩

section Answers

/-!
`noted` is the run after the answer has been taken, and `judged` the run after the
classifier has been asked about it.
-/

variable {noted judged : Run σ Req Resp Ctx Fault Refusal}
variable {submission : Submission Req Ctx}
variable {response : Resp}

/-- When the attempts have run out, one deed follows. -/
theorem exhaust_deed
    {first : WorkItem Req Ctx}
    {others : List (WorkItem Req Ctx)}
    (taken :
      run.flow.Takes env submission (.ok response) noted.outside noted.flow)
    (classified :
      env.classify noted.outside response submission.attempt.item.context =
        (.ok (.retryWith (first :: others)), judged.outside))
    (kept : judged.flow = noted.flow)
    (journal :
      judged.events = run.events ++ [
        .answered (env.now noted.outside) submission (.ok response),
        .judged (env.now judged.outside) submission response
          (.ok (.retryWith (first :: others)))])
    (spent : run.flow.settings.policy.maxAttempts ≤ submission.attempt.number)
    (stepped : judged.exhaust env submission response = (next, after)) :
    Deed env .collect (run.scene []) (some next) (after.scene []) := by
  have settings := taken.settings
  unfold exhaust at stepped
  cases choice : run.flow.settings.policy.exhaustion with
  | emitLast =>
      simp only [flow_log, flow_notify, kept, settings, choice] at stepped
      obtain ⟨rfl, shown⟩ := emit_eq stepped
      rw [shown]
      have deed : Deed env .collect (run.scene []) _ _ :=
        .exhaust taken classified spent choice
      simpa [scene, journal, kept, settings, Flow.told] using deed
  | fail =>
      simp only [flow_log, flow_notify, kept, settings, choice] at stepped
      obtain ⟨rfl, shown⟩ := abort_eq stepped
      rw [shown]
      have deed : Deed env .collect (run.scene []) _ _ :=
        .exhaustionFault taken classified spent choice
      simpa [scene, journal, kept, settings, Flow.told] using deed

/-- What follows from a judgement is a trail. -/
theorem obey_trail
    {verdict : Except Refusal (Verdict Req Ctx)}
    (taken :
      run.flow.Takes env submission (.ok response) noted.outside noted.flow)
    (classified :
      env.classify noted.outside response submission.attempt.item.context =
        (verdict, judged.outside))
    (kept : judged.flow = noted.flow)
    (journal :
      judged.events = run.events ++ [
        .answered (env.now noted.outside) submission (.ok response),
        .judged (env.now judged.outside) submission response verdict])
    (stepped : judged.obey env submission response verdict = (next, after)) :
    ∃ owed,
      Trail env .collect (run.scene []) next (after.scene owed) ∧
        (next.breaksDown = false → owed = []) := by
  have settings := taken.settings
  unfold obey at stepped
  rcases verdict with refusal | verdict
  · obtain ⟨rfl, shown⟩ := abort_eq stepped
    refine ⟨[], .last ?_, fun _ => rfl⟩
    rw [shown]
    have deed : Deed env .collect (run.scene []) _ _ :=
      .refusal taken classified
    simpa [scene, journal, kept] using deed
  rcases verdict with _ | (_ | ⟨first, others⟩)
  · obtain ⟨rfl, shown⟩ := emit_eq stepped
    refine ⟨[], .last ?_, fun _ => rfl⟩
    rw [shown]
    have deed : Deed env .collect (run.scene []) _ _ :=
      .done taken classified
    simpa [scene, journal, kept] using deed
  · obtain ⟨rfl, rfl⟩ := Prod.mk.inj stepped
    refine ⟨[], .last ?_, fun _ => rfl⟩
    have deed : Deed env .collect (run.scene []) _ _ :=
      .dropBranch taken classified
    simpa [scene, journal, kept] using deed
  · by_cases spent :
        run.flow.settings.policy.maxAttempts ≤ submission.attempt.number
    · simp only [kept, settings, spent, ↓reduceIte] at stepped
      have deed := exhaust_deed taken classified kept journal spent stepped
      exact ⟨[], .last deed, fun _ => rfl⟩
    · simp only [kept, settings, spent, ↓reduceIte] at stepped
      obtain ⟨owed, trail, settled⟩ := scheduleAll_trail stepped
      have deed : Deed env .collect (run.scene []) _ _ :=
        .branch taken classified (UInt32.not_le.mp spent)
      refine ⟨owed, .more ?_ trail, settled⟩
      simpa [scene, journal, kept] using deed

/-- What follows from an answer is a trail. -/
theorem settle_trail
    {answer : Except Fault Resp}
    (taken : run.flow.Takes env submission answer noted.outside noted.flow)
    (journal :
      noted.events =
        run.events ++ [.answered (env.now noted.outside) submission answer])
    (stepped : noted.settle env submission answer = (next, after)) :
    ∃ owed,
      Trail env .collect (run.scene []) next (after.scene owed) ∧
        (next.breaksDown = false → owed = []) := by
  unfold settle at stepped
  cases answer with
  | error fault =>
      obtain ⟨rfl, shown⟩ := abort_eq stepped
      refine ⟨[], .last ?_, fun _ => rfl⟩
      rw [shown]
      have deed : Deed env .collect (run.scene []) _ _ :=
        .stageFault taken
      simpa [scene, journal] using deed
  | ok response =>
      rcases classified :
          env.classify noted.outside response submission.attempt.item.context with
        ⟨verdict, outside⟩
      simp only [classified] at stepped
      refine obey_trail taken ?_ ?_ ?_ stepped
      · exact classified
      · rfl
      · rw [events_log]
        change noted.events ++ _ = _
        simp [journal, log]

end Answers

/-- Taking an answer is a trail. -/
theorem collect_trail (stepped : run.collect env = (next, after)) :
    ∃ owed,
      Trail env .collect (run.scene []) next (after.scene owed) ∧
        (next.breaksDown = false → owed = []) := by
  unfold collect at stepped
  rcases collected : env.collect run.outside run.flow.inFlight with ⟨found, later⟩
  cases found with
  | none =>
      simp only [collected] at stepped
      obtain ⟨rfl, rfl⟩ := Prod.mk.inj stepped
      exact ⟨[], .last (.noAnswer collected), fun _ => rfl⟩
  | some completion =>
      simp only [collected] at stepped
      refine settle_trail (.intro run.outside later completion collected) ?_ stepped
      simp [events, log]

/-- The work of a station is a trail, and nothing is owed after it unless it breaks down. -/
theorem step_trail
    {station : Station}
    (stepped : run.step env station = (next, after)) :
    ∃ owed,
      Trail env station (run.scene []) next (after.scene owed) ∧
        (next.breaksDown = false → owed = []) := by
  cases station with
  | promote =>
      obtain ⟨rfl, rfl⟩ := Prod.mk.inj stepped
      have deed : Deed env .promote (run.scene []) _ _ := .promote run.outside
      refine ⟨[], .last ?_, fun _ => rfl⟩
      simpa [scene, events, log] using deed
  | fill => exact ⟨[], .last (fill_deed stepped), fun _ => rfl⟩
  | collect => exact collect_trail stepped
  | timer => exact ⟨[], .last (lookAtTimer_deed stepped), fun _ => rfl⟩

end Run

end Resubmit
