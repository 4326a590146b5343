import Resubmit.Proofs.WellFormed
import Resubmit.Workbench

namespace Resubmit

/-!
# Standstill

A poll that has nothing to give out says so only after it has done all it can: nothing that
is due waits for a slot that is free, and something is left that will call for the next
poll.  The feed is not asked while it is left alone, so it cannot be relied on for that.
-/

variable {σ Req Resp Ctx Fault Refusal : Type}

/--
Asked about submissions of which one is completed, the stage hands one out.

What it means for a submission to be completed is left open.
-/
def Surroundings.HandsOut
    (env : Surroundings σ Req Resp Ctx Fault Refusal)
    (completed : σ → Submission Req Ctx → Prop) :
    Prop :=
  ∀ (asked later : σ) (inFlight : List (Submission Req Ctx)),
    env.collect asked inFlight = (none, later) →
    ∀ submission ∈ inFlight, ¬ completed asked submission

/-- The instant that was read when a round began, if the event is that. -/
def Event.reading? : Event Req Resp Ctx Fault Refusal → Option Instant
  | .roundBegun now => some now
  | _ => none

namespace Journal

/--
The last instant that the flow read.

It reads the clock in two more places, and each of them leads to another round.
-/
def lastReading? (events : List (Event Req Resp Ctx Fault Refusal)) : Option Instant :=
  (events.filterMap Event.reading?).getLast?

/-- Whether the feed was asked and had nothing to offer yet. -/
def FeedWaited (events : List (Event Req Resp Ctx Fault Refusal)) : Prop :=
  ∃ now, .feedAsked now .pending ∈ events

end Journal

/-- Where things stand after a poll that has nothing to give out yet; `call` is what it did. -/
structure Standstill
    (env : Surroundings σ Req Resp Ctx Fault Refusal)
    (completed : σ → Submission Req Ctx → Prop)
    (settings : Settings)
    (call : List (Event Req Resp Ctx Fault Refusal))
    (run : Run σ Req Resp Ctx Fault Refusal) :
    Prop where
  /-- Something will call for the next poll. -/
  wakeable :
    run.flow.inFlight ≠ [] ∨ run.flow.retries.scheduled ≠ [] ∨ Journal.FeedWaited call
  /-- The timer is set for the earliest instant for which a retry waits. -/
  armed :
    run.flow.retries.scheduled ≠ [] →
    ∃ deadline,
      run.flow.retries.timer = some deadline ∧
      IsLeast
        {instant | ∃ entry ∈ run.flow.retries.scheduled, entry.place.readyAt = instant}
        deadline
  /--
  When the stage was asked last, it had no answer to what is still in flight.  Since then
  the flow has done no more than look at its timer, if that is set, and it had not gone off.
  -/
  classified :
    ∃ asked looked,
      env.collect asked run.flow.inFlight = (none, looked) ∧
      (∀ submission ∈ run.flow.inFlight, ¬ completed asked submission) ∧
      ((run.flow.retries.timer = none ∧ run.outside = looked) ∨
        ∃ deadline,
          run.flow.retries.timer = some deadline ∧
            env.timerFired looked deadline = (false, run.outside))
  /-- No waiting retry was due when the clock was read last. -/
  undue :
    ∃ now,
      Journal.lastReading? call = some now ∧
      ∀ entry ∈ run.flow.retries.scheduled, now < entry.place.readyAt
  /-- What may be taken is left only for want of a slot. -/
  taken : run.flow.retries.ready ≠ [] → run.flow.inFlightCount = settings.parallelism
  /-- A slot is left only for want of work, or because enough retries wait. -/
  filled :
    run.flow.inFlightCount < settings.parallelism →
    run.flow.feedEnded = true ∨
      Journal.FeedWaited call ∨
      (0 < settings.retryCapacity ∧
        settings.retryCapacity ≤ run.flow.retries.scheduled.length)

/-! ## Where stations lead -/

theorem Flow.hasSlot_of_inFlight_eq_nil
    {flow : Flow Req Ctx}
    (noneFlying : flow.inFlight = []) :
    flow.HasSlot := by
  rw [HasSlot, noneFlying]
  exact flow.settings.parallelism_pos

namespace Run

variable {env : Surroundings σ Req Resp Ctx Fault Refusal}
variable {run after : Run σ Req Resp Ctx Fault Refusal}
variable {station : Station}

theorem promote_of_scheduleAll
    {submission : Submission Req Ctx}
    {response : Resp}
    {since : Instant}
    {items : List (WorkItem Req Ctx)}
    (stepped :
      run.scheduleAll env submission response since items = (.go station, after)) :
    station = .promote := by
  induction items generalizing run with
  | nil =>
      cases stepped
      rfl
  | cons item rest inductionHypothesis =>
      rcases scheduled : run.schedule env submission response since item with
        ⟨_ | cause, middle⟩
      · simp only [scheduleAll, scheduled] at stepped
        exact inductionHypothesis stepped
      · simp only [scheduleAll, scheduled] at stepped
        cases stepped

theorem obey_go
    {submission : Submission Req Ctx}
    {response : Resp}
    {verdict : Except Refusal (Verdict Req Ctx)}
    (stepped : run.obey env submission response verdict = (.go station, after)) :
    station = .promote ∧ run.events <+: after.events := by
  unfold obey at stepped
  rcases verdict with refusal | _ | (_ | ⟨first, others⟩)
  · cases stepped
  · cases stepped
  · cases stepped
    exact ⟨rfl, List.prefix_rfl⟩
  · by_cases spent : run.flow.settings.policy.maxAttempts ≤ submission.attempt.number
    · simp only [spent, ↓reduceIte, exhaust] at stepped
      split at stepped
      · cases stepped
      · cases stepped
    · simp only [spent, ↓reduceIte] at stepped
      obtain ⟨owed, trail, _⟩ := scheduleAll_trail stepped
      exact ⟨promote_of_scheduleAll stepped, trail.events_prefix⟩

theorem settle_go
    {submission : Submission Req Ctx}
    {answer : Except Fault Resp}
    (stepped : run.settle env submission answer = (.go station, after)) :
    station = .promote ∧ run.events <+: after.events := by
  unfold settle at stepped
  split at stepped
  · cases stepped
  · obtain ⟨next, grown⟩ := obey_go stepped
    rw [events_log] at grown
    exact ⟨next, (List.prefix_append run.events _).trans grown⟩

/-- After an answer the next round begins, and without one the timer is looked at. -/
theorem collect_go
    (stepped : run.step env .collect = (.go station, after)) :
    (station = .promote ∧
        ∃ now submission answer,
          run.events ++ [.answered now submission answer] <+: after.events) ∨
      (station = .timer ∧
        env.collect run.outside run.flow.inFlight = (none, after.outside) ∧
        after = { run with outside := after.outside }) := by
  simp only [step, collect] at stepped
  rcases collected : env.collect run.outside run.flow.inFlight with ⟨found, later⟩
  cases found with
  | none =>
      simp only [collected] at stepped
      cases stepped
      exact .inr ⟨rfl, rfl, rfl⟩
  | some completion =>
      simp only [collected] at stepped
      obtain ⟨next, grown⟩ := settle_go stepped
      rw [events_log] at grown
      exact .inl ⟨next, _, _, _, grown⟩

theorem timer_go
    (stepped : run.step env .timer = (.go station, after)) :
    station = .promote := by
  have deed := lookAtTimer_deed stepped
  generalize after.scene [] = scene at deed
  cases deed
  rfl

/-- A poll that has to wait has looked at the timer just before, if there is one to be set. -/
theorem outside_of_wait
    (stepped : run.step env .timer = (.stop .pending, after)) :
    (run.flow.retries.nextDeadline? = none ∧ after.outside = run.outside) ∨
      ∃ deadline,
        run.flow.retries.nextDeadline? = some deadline ∧
          env.timerFired run.outside deadline = (false, after.outside) := by
  simp only [step, lookAtTimer] at stepped
  cases armed : run.flow.retries.nextDeadline? with
  | none =>
      left
      simp only [armed, RetryQueue.pollTimer, Bool.false_eq_true, ↓reduceIte] at stepped
      split at stepped
      · cases stepped
      · cases stepped
        exact ⟨rfl, rfl⟩
  | some deadline =>
      right
      refine ⟨deadline, rfl, ?_⟩
      rcases looked : env.timerFired run.outside deadline with ⟨fired, later⟩
      cases fired with
      | true =>
          simp only [armed, looked, RetryQueue.pollTimer, ↓reduceIte] at stepped
          cases stepped
      | false =>
          simp only [armed, looked, RetryQueue.pollTimer, Bool.false_eq_true,
            ↓reduceIte] at stepped
          split at stepped
          · cases stepped
          · cases stepped
            rfl

/-- Only a look at the timer can make a poll wait. -/
theorem timer_of_wait
    (stepped : run.step env station = (.stop .pending, after)) :
    station = .timer := by
  obtain ⟨owed, trail, _⟩ := step_trail stepped
  generalize run.scene [] = first, after.scene owed = last at trail
  generalize waits : Next.stop PollResult.pending = label at trail
  induction trail with
  | last deed =>
      subst waits
      cases deed
      rfl
  | more _ _ inductionHypothesis => exact inductionHypothesis waits

theorem flow_of_wait
    (stepped : run.step env .timer = (.stop .pending, after)) :
    ¬ run.flow.Settled ∧
      after.flow = { run.flow with retries := run.flow.retries.rearmed } ∧
      after.events = run.events := by
  have deed := lookAtTimer_deed stepped
  generalize shown : after.scene [] = scene at deed
  cases deed with
  | wait unsettled =>
      exact ⟨unsettled, congrArg Scene.flow shown, congrArg Scene.events shown⟩

end Run

/-! ## The stations of one poll -/

theorem RetryQueue.scheduled_of_popReady?
    {queue rest : RetryQueue α}
    {entry : Waiting α}
    (popped : queue.popReady? = some (entry, rest)) :
    rest.scheduled = queue.scheduled := by
  unfold popReady? at popped
  split at popped
  · cases popped
  · cases popped
    rfl

namespace Standstill

/-- No waiting retry was due when the clock was read last. -/
def Promoted (call : List (Event Req Resp Ctx Fault Refusal)) (flow : Flow Req Ctx) : Prop :=
  ∃ now,
    Journal.lastReading? call = some now ∧
    ∀ entry ∈ flow.retries.scheduled, now < entry.place.readyAt

/-- Why no slot is filled any more. -/
def Filled (call : List (Event Req Resp Ctx Fault Refusal)) (flow : Flow Req Ctx) : Prop :=
  ¬ flow.HasSlot ∨
    (flow.retries.ready = [] ∧ (flow.Gated ∨ Journal.FeedWaited call))

/-- What holds when a poll that began with the journal `earlier` comes to a station. -/
def Underway
    (env : Surroundings σ Req Resp Ctx Fault Refusal)
    (earlier : List (Event Req Resp Ctx Fault Refusal))
    (station : Station)
    (run : Run σ Req Resp Ctx Fault Refusal) :
    Prop :=
  run.flow.WellFormed ∧
    ∃ call, run.events = earlier ++ call ∧
      match station with
      | .promote => True
      | .fill => Promoted call run.flow
      | .collect => Promoted call run.flow ∧ Filled call run.flow
      | .timer =>
          (Promoted call run.flow ∧ Filled call run.flow) ∧
            ∃ asked, env.collect asked run.flow.inFlight = (none, run.outside)

/-- Filling slots leaves the waiting retries and the last reading as they are. -/
theorem Promoted.grown
    {call new : List (Event Req Resp Ctx Fault Refusal)}
    {flow after : Flow Req Ctx}
    (promoted : Promoted call flow)
    (waiting : after.retries.scheduled = flow.retries.scheduled)
    (unread : new.filterMap Event.reading? = []) :
    Promoted (call ++ new) after := by
  obtain ⟨now, last, undue⟩ := promoted
  refine ⟨now, ?_, ?_⟩
  · rw [Journal.lastReading?, List.filterMap_append, unread, List.append_nil]
    exact last
  · rw [waiting]
    exact undue

section Visits

variable {env : Surroundings σ Req Resp Ctx Fault Refusal}
variable {earlier : List (Event Req Resp Ctx Fault Refusal)}
variable {run after : Run σ Req Resp Ctx Fault Refusal}
variable {station : Station}
variable {next : Next Resp Ctx Fault Refusal}

theorem wellFormed_of_step
    (wellFormed : run.flow.WellFormed)
    (running : run.flow.terminated = false)
    (stepped : run.step env station = (next, after)) :
    after.flow.WellFormed := by
  obtain ⟨owed, trail, _⟩ := Run.step_trail stepped
  exact
    trail.keeps
      (fun _ _ _ wellFormed deed => deed.wellFormed wellFormed)
      rfl running wellFormed

/-- Slots are filled until there is a reason to stop. -/
theorem Promoted.fill
    {call : List (Event Req Resp Ctx Fault Refusal)}
    {before after : Scene Req Resp Ctx Fault Refusal}
    (promoted : Promoted call before.flow)
    (deed : Deed env .fill before (some (.go station)) after) :
    ∃ new,
      after.events = before.events ++ new ∧
      Promoted (call ++ new) after.flow ∧
      (station = .fill ∨ (station = .collect ∧ Filled (call ++ new) after.flow)) := by
  cases deed with
  | resubmit _ _ popped =>
      have waiting := RetryQueue.scheduled_of_popReady? popped
      exact ⟨_, rfl, promoted.grown waiting rfl, .inl rfl⟩
  | pull | feedEnds => exact ⟨_, rfl, promoted.grown rfl rfl, .inl rfl⟩
  | leaveFeed reason =>
      refine ⟨[], (List.append_nil _).symm, promoted.grown rfl rfl, .inr ⟨rfl, ?_⟩⟩
      rcases reason with full | ⟨noneReady, gated⟩
      · exact .inl full
      · exact .inr ⟨noneReady, .inl gated⟩
  | @feedWaits _ _ _ later _ noneReady =>
      have waited : Event.feedAsked (env.now later) .pending ∈
          call ++ [.feedAsked (env.now later) .pending] :=
        List.mem_append_right call (List.mem_singleton_self _)
      refine ⟨_, rfl, promoted.grown rfl rfl, .inr ⟨rfl, ?_⟩⟩
      exact .inr ⟨noneReady, .inr ⟨env.now later, waited⟩⟩

namespace Underway

/-- Every other station leads back to the first one with nothing to show. -/
theorem again
    (underway : Underway env earlier station run)
    (running : run.flow.terminated = false)
    (stepped : run.step env station = (next, after)) :
    Underway env earlier .promote after := by
  obtain ⟨wellFormed, call, split, _⟩ := underway
  obtain ⟨new, grown⟩ := Run.events_prefix_of_step stepped
  refine ⟨wellFormed_of_step wellFormed running stepped, call ++ new, ?_, trivial⟩
  rw [← grown, split, List.append_assoc]

theorem promoted
    (underway : Underway env earlier .promote run)
    (running : run.flow.terminated = false)
    (stepped : run.step env .promote = (.go station, after)) :
    Underway env earlier station after := by
  obtain ⟨wellFormed, call, split, _⟩ := underway
  have kept := wellFormed_of_step wellFormed running stepped
  cases stepped
  refine ⟨kept, call ++ [.roundBegun (env.now run.outside)], ?_, ?_⟩
  · change (run.log _).events = _
    rw [Run.events_log, split, List.append_assoc]
  · refine ⟨env.now run.outside, ?_, wellFormed.ordered.undue_of_promoteDue _⟩
    simp [Journal.lastReading?, Event.reading?]

theorem filled
    (underway : Underway env earlier .fill run)
    (running : run.flow.terminated = false)
    (stepped : run.step env .fill = (.go station, after)) :
    Underway env earlier station after := by
  obtain ⟨wellFormed, call, split, promoted⟩ := underway
  have kept := wellFormed_of_step wellFormed running stepped
  obtain ⟨new, grown, promoted, leads⟩ := Promoted.fill promoted (Run.fill_deed stepped)
  have extended : after.events = earlier ++ (call ++ new) := by
    change (after.scene []).events = _
    rw [grown, ← List.append_assoc, ← split]
    rfl
  rcases leads with rfl | ⟨rfl, filled⟩
  · exact ⟨kept, _, extended, promoted⟩
  · exact ⟨kept, _, extended, promoted, filled⟩

/-- A poll keeps what holds on its way. -/
theorem visit
    (underway : Underway env earlier station run)
    (running : run.flow.terminated = false)
    {reached : Station}
    (stepped : run.step env station = (.go reached, after)) :
    Underway env earlier reached after := by
  cases station with
  | promote => exact underway.promoted running stepped
  | fill => exact underway.filled running stepped
  | collect =>
      rcases Run.collect_go stepped with ⟨rfl, _⟩ | ⟨rfl, unanswered, same⟩
      · exact underway.again running stepped
      · obtain ⟨wellFormed, call, split, ready⟩ := underway
        rw [same]
        exact ⟨wellFormed, call, split, ready, run.outside, unanswered⟩
  | timer =>
      cases Run.timer_go stepped
      exact underway.again running stepped

/-- Having come to the timer, a poll that waits leaves a standstill. -/
theorem standstill_of_wait
    {completed : σ → Submission Req Ctx → Prop}
    (handsOut : env.HandsOut completed)
    (underway : Underway env earlier .timer run)
    (stepped : run.step env .timer = (.stop .pending, after)) :
    ∃ call,
      after.events = earlier ++ call ∧
        Standstill env completed run.flow.settings call after := by
  obtain ⟨wellFormed, call, split, ⟨promoted, filled⟩, asked, unanswered⟩ := underway
  obtain ⟨unsettled, flow, events⟩ := Run.flow_of_wait stepped
  have idle (slot : run.flow.HasSlot) :
      run.flow.feedEnded = true ∨
        Journal.FeedWaited call ∨
        (0 < run.flow.settings.retryCapacity ∧
          run.flow.settings.retryCapacity ≤ run.flow.retries.scheduled.length) := by
    obtain ⟨noneReady, gated | waited⟩ := filled.resolve_left (not_not_intro slot)
    · rcases gated with ended | full
      · exact .inl ended
      · rw [RetryQueue.size, noneReady, List.length_nil, Nat.add_zero] at full
        exact .inr (.inr ⟨run.flow.settings.retryCapacity_pos, full⟩)
    · exact .inr (.inl waited)
  refine ⟨call, events.trans split, ?_⟩
  constructor
  case wakeable =>
    rw [flow]
    by_cases flying : run.flow.inFlight = []
    · right
      have slot : run.flow.HasSlot := Flow.hasSlot_of_inFlight_eq_nil flying
      have noneReady := (filled.resolve_left (not_not_intro slot)).1
      rcases idle slot with ended | waited | ⟨positive, full⟩
      · left
        intro noneWaiting
        have noneWaiting : run.flow.retries.scheduled = [] := noneWaiting
        apply unsettled
        refine ⟨ended, by rw [flying]; rfl, ?_⟩
        rw [RetryQueue.size, noneWaiting, noneReady]
        rfl
      · exact .inr waited
      · exact .inl (List.ne_nil_of_length_pos (Nat.lt_of_lt_of_le positive full))
    · exact .inl flying
  case armed =>
    rw [flow]
    intro waiting
    cases next : run.flow.retries.nextDeadline? with
    | none =>
        have noneWaiting : run.flow.retries.scheduled = [] := by
          simpa [RetryQueue.nextDeadline?] using next
        exact (waiting noneWaiting).elim
    | some deadline =>
        exact ⟨deadline, next, wellFormed.ordered.isLeast_of_nextDeadline? next⟩
  case classified =>
    rw [flow]
    exact
      ⟨asked, run.outside, unanswered,
        handsOut asked run.outside run.flow.inFlight unanswered,
        Run.outside_of_wait stepped⟩
  case undue =>
    rw [flow]
    exact promoted
  case taken =>
    rw [flow]
    intro some
    have full : ¬ run.flow.HasSlot := by
      rcases filled with full | ⟨noneReady, _⟩
      · exact full
      · exact (some noneReady).elim
    exact Nat.le_antisymm wellFormed.slots (Nat.le_of_not_lt full)
  case filled =>
    rw [flow]
    exact idle

end Underway

end Visits

end Standstill

/--
A poll that has nothing to give out leaves a standstill.

Something will call for the next poll, every answer has been taken, every due retry may be
taken, and no slot is idle while there is work for it.
-/
theorem Session.standstill
    {env : Surroundings σ Req Resp Ctx Fault Refusal}
    {completed : σ → Submission Req Ctx → Prop}
    {settings : Settings}
    {random : ChaCha12}
    {outside : σ}
    {replies : List (Reply Resp Ctx Fault Refusal)}
    {run after : Run σ Req Resp Ctx Fault Refusal}
    {budget : Nat}
    (handsOut : env.HandsOut completed)
    (session : Session env (Run.start (Flow.start settings random) outside) replies run)
    (polled : run.poll env budget = (some .pending, after)) :
    ∃ call,
      after.events = run.events ++ call ∧
        Standstill env completed settings call after := by
  have running : run.flow.terminated = false := by
    cases terminated : run.flow.terminated with
    | false => rfl
    | true =>
        rw [Run.poll_of_terminated terminated] at polled
        cases polled
  have wellFormed := session.wellFormed (.start settings random)
  refine
    Run.walk_induction
      (fun station between =>
        Standstill.Underway env run.events station between ∧
          between.flow.settings = settings)
      (fun result last =>
        result = .pending →
        ∃ call,
          last.events = run.events ++ call ∧
            Standstill env completed settings call last)
      ?_ ?_ ?_ running (Run.walk_of_poll running polled) rfl
  · intro station next between later ⟨underway, options⟩ running stepped
    obtain ⟨owed, trail, _⟩ := Run.step_trail stepped
    exact ⟨underway.visit running stepped, trail.settings_eq.trans options⟩
  · rintro station result between last ⟨underway, rfl⟩ _ stepped rfl
    cases Run.timer_of_wait stepped
    exact underway.standstill_of_wait handsOut stepped
  · exact ⟨⟨wellFormed, [], (List.append_nil _).symm, trivial⟩, session.settings_eq⟩

/-! ## A standstill on a workbench -/

namespace Bench

/-- Whether the operator has answered a submission that the flow has not looked at since. -/
def Completed (bench : Bench Req Resp Ctx Fault) (submission : Submission Req Ctx) : Prop :=
  submission.ticket ∈ bench.queue ∧ bench.answers.lookup submission.ticket ≠ none

theorem answers_of_lookThrough
    {bench later : Bench Req Resp Ctx Fault}
    {inFlight : List (Submission Req Ctx)}
    {queue : List Nat}
    (unanswered : lookThrough inFlight queue bench = (none, later))
    {submission : Submission Req Ctx}
    (flying : submission ∈ inFlight)
    (queued : submission.ticket ∈ queue) :
    bench.answers.lookup submission.ticket = none := by
  induction queue with
  | nil => cases queued
  | cons ticket rest inductionHypothesis =>
      unfold lookThrough at unanswered
      split at unanswered
      · cases unanswered
      · rename_i unfit
        rcases List.mem_cons.mp queued with same | deeper
        · subst same
          cases found : inFlight.findFinIdx? fun other => other.ticket == submission.ticket with
          | none =>
              have other := List.findFinIdx?_eq_none_iff.mp found submission flying
              simp at other
          | some index =>
              cases answered : bench.answers.lookup submission.ticket with
              | none => rfl
              | some answer => exact (unfit index answer found answered).elim
        · exact inductionHypothesis unanswered deeper

theorem handsOut
    (judge : Resp → Ctx → Except Refusal (Verdict Req Ctx)) :
    (surroundings judge :
      Surroundings (Bench Req Resp Ctx Fault) Req Resp Ctx Fault Refusal).HandsOut
        Completed := by
  intro bench later inFlight unanswered submission flying completed
  exact completed.2 (answers_of_lookThrough unanswered flying completed.1)

end Bench

/-- Options with a delay of twenty milliseconds, for two submissions at a time. -/
def Settings.delayed (maxAttempts : UInt32) : Settings where
  policy := {
    Policy.exponential (Duration.ofMillis 20) with
    maxAttempts := maxAttempts
  }
  parallelism := 2
  retryCapacity := 1
  observed := false
  policy_sound :=
    have sound : (Policy.exponential (Duration.ofMillis 20)).fault? = none := by
      decide +kernel
    sound
  parallelism_pos := Nat.zero_lt_two
  retryCapacity_pos := Nat.one_pos

/-- Whether a poll has to wait. -/
def PollResult.waits : PollResult Resp Ctx Fault Refusal → Bool
  | .pending => true
  | _ => false

theorem Run.eq_of_waits
    {result : Option (PollResult Resp Ctx Fault Refusal)}
    (waits : result.any PollResult.waits = true) :
    result = some .pending := by
  rcases result with _ | (_ | _ | _ | _) <;> first | rfl | cases waits

/--
A countdown on a workbench stands still.

The number two was answered, and the two retries that it asks for wait.  Both slots are free,
and the feed has got another item since, but it is left alone.
-/
theorem Session.standstill_countdown :
    let scenario := Scenario.countdown 9 [2, 7]
    let env := Bench.surroundings scenario.judge
    let begun : Run (Bench Nat Nat Unit Unit) Nat Nat Unit Unit Unit :=
      Run.start (Flow.start (Settings.delayed 3) (ChaCha12.ofSeed 0))
        { (Bench.start : Bench Nat Nat Unit Unit) with feed := [⟨2, ()⟩] }
    let submitted := (begun.poll env 100).2
    let answered := {
      submitted with
      outside := { submitted.outside with answers := [(0, .ok 2)], queue := [0] }
    }
    let waiting := (answered.poll env 100).2
    let pushed := {
      waiting with
      outside := { waiting.outside with feed := [⟨7, ()⟩] }
    }
    let after := (pushed.poll env 100).2
    (∃ call,
      after.events = pushed.events ++ call ∧
        Standstill env Bench.Completed (Settings.delayed 3) call after) ∧
      after.flow.inFlightCount = 0 ∧
      after.flow.retries.timer = some ⟨20000000⟩ ∧
      after.flow.retries.scheduled.length = 2 ∧
      after.outside.feed.length = 1 := by
  intro scenario env begun submitted answered waiting pushed after
  have first : begun.poll env 100 = (some .pending, submitted) :=
    Prod.ext (Run.eq_of_waits (by decide +kernel)) rfl
  have second : answered.poll env 100 = (some .pending, waiting) :=
    Prod.ext (Run.eq_of_waits (by decide +kernel)) rfl
  have third : pushed.poll env 100 = (some .pending, after) :=
    Prod.ext (Run.eq_of_waits (by decide +kernel)) rfl
  have session : Session env begun [.polled .pending, .polled .pending] pushed :=
    (((Session.start.poll first).elapse answered.outside).poll second).elapse pushed.outside
  exact ⟨session.standstill (Bench.handsOut scenario.judge) third, by decide +kernel⟩

end Resubmit
