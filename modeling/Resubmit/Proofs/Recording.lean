import Resubmit.Proofs.Reached
import Resubmit.Proofs.Rulings

namespace Resubmit

/-!
# What the hook is told and the stage is handed

The journal is kept by the flow itself.  Here the surroundings keep a record of their own: the
hook writes down each notice that it gets, and the stage each request.  Recording changes
nothing else about a run, and in every run that can be reached the journal shows exactly the
calls that are on record.
-/

variable {σ Req Resp Ctx Fault Refusal : Type}

/-- What the stage was handed and the hook was told, each in order. -/
structure Record (Req Resp : Type) where
  /-- The requests, with the tickets under which they were handed over. -/
  handed : List (Nat × Req)
  told : List (Notice Resp)
  deriving Repr, DecidableEq

namespace Record

/-- A record of nothing. -/
def empty : Record Req Resp where
  handed := []
  told := []

/-- The record with one more request. -/
def hand (record : Record Req Resp) (ticket : Nat) (request : Req) : Record Req Resp :=
  { record with handed := record.handed ++ [(ticket, request)] }

/-- The record with one more notice. -/
def tell (record : Record Req Resp) (notice : Notice Resp) : Record Req Resp :=
  { record with told := record.told ++ [notice] }

end Record

/-- What is outside of a flow, with a record of the calls beside it. -/
structure Recording (σ Req Resp : Type) where
  outside : σ
  record : Record Req Resp

/-- The same surroundings, in which the stage and the hook record what they get. -/
def Surroundings.recording (env : Surroundings σ Req Resp Ctx Fault Refusal) :
    Surroundings (Recording σ Req Resp) Req Resp Ctx Fault Refusal where
  now state := env.now state.outside
  pull state :=
    let (offer, outside) := env.pull state.outside
    (offer, { state with outside := outside })
  submit state ticket request := {
    outside := env.submit state.outside ticket request
    record := state.record.hand ticket request
  }
  collect state inFlight :=
    let (found, outside) := env.collect state.outside inFlight
    (found, { state with outside := outside })
  classify state response context :=
    let (verdict, outside) := env.classify state.outside response context
    (verdict, { state with outside := outside })
  timerFired state deadline :=
    let (fired, outside) := env.timerFired state.outside deadline
    (fired, { state with outside := outside })
  notify state notice := {
    outside := env.notify state.outside notice
    record := state.record.tell notice
  }
  abandon state submissions := {
    state with
    outside := env.abandon state.outside submissions
  }

namespace Surroundings

variable (env : Surroundings σ Req Resp Ctx Fault Refusal)
variable (outside : σ)
variable (record : Record Req Resp)

@[simp] theorem now_recording : env.recording.now ⟨outside, record⟩ = env.now outside :=
  rfl

@[simp] theorem pull_recording :
    env.recording.pull ⟨outside, record⟩ =
      ((env.pull outside).1, ⟨(env.pull outside).2, record⟩) :=
  rfl

@[simp] theorem collect_recording (inFlight : List (Submission Req Ctx)) :
    env.recording.collect ⟨outside, record⟩ inFlight =
      ((env.collect outside inFlight).1, ⟨(env.collect outside inFlight).2, record⟩) :=
  rfl

@[simp] theorem classify_recording (response : Resp) (context : Ctx) :
    env.recording.classify ⟨outside, record⟩ response context =
      ((env.classify outside response context).1,
        ⟨(env.classify outside response context).2, record⟩) :=
  rfl

@[simp] theorem timerFired_recording (deadline : Instant) :
    env.recording.timerFired ⟨outside, record⟩ deadline =
      ((env.timerFired outside deadline).1, ⟨(env.timerFired outside deadline).2, record⟩) :=
  rfl

end Surroundings

/-- The run with a record of the calls beside what is outside. -/
def Run.recorded
    (record : Record Req Resp)
    (run : Run σ Req Resp Ctx Fault Refusal) :
    Run (Recording σ Req Resp) Req Resp Ctx Fault Refusal where
  flow := run.flow
  outside := ⟨run.outside, record⟩
  journal := run.journal

/--
The runs that can be reached over surroundings that record the calls, with what is on record.

As in `Reached`, anything outside may change at any time; what is on record stays there.
-/
inductive Recorded
    (env : Surroundings σ Req Resp Ctx Fault Refusal)
    (start : Run σ Req Resp Ctx Fault Refusal) :
    Position →
    Record Req Resp →
    Run σ Req Resp Ctx Fault Refusal →
    Prop where
  | start :
      Recorded env start .idle .empty start
  /-- A poll begins. -/
  | begin
      {record : Record Req Resp}
      {run : Run σ Req Resp Ctx Fault Refusal}
      (recorded : Recorded env start .idle record run)
      (running : run.flow.terminated = false) :
      Recorded env start (.within .promote) record run
  /-- A station is visited. -/
  | step
      {record later : Record Req Resp}
      {run after : Run σ Req Resp Ctx Fault Refusal}
      {station : Station}
      {next : Next Resp Ctx Fault Refusal}
      (recorded : Recorded env start (.within station) record run)
      (stepped :
        (run.recorded record).step env.recording station = (next, after.recorded later))
      (sound : next.breaksDown = false) :
      Recorded env start next.position later after
  /-- Something changes outside. -/
  | elapse
      {record : Record Req Resp}
      {run : Run σ Req Resp Ctx Fault Refusal}
      {position : Position}
      (outside : σ)
      (recorded : Recorded env start position record run) :
      Recorded env start position record { run with outside := outside }
  /-- The flow is cancelled. -/
  | cancel
      {record later : Record Req Resp}
      {run after : Run σ Req Resp Ctx Fault Refusal}
      (recorded : Recorded env start .idle record run)
      (cancelled : (run.recorded record).cancel env.recording = after.recorded later) :
      Recorded env start .idle later after

/-! ## The record that the journal shows -/

/-- The submission as the stage is handed it. -/
def Submission.handed (submission : Submission Req Ctx) : Nat × Req :=
  (submission.ticket, submission.attempt.item.request)

namespace Journal

/-- The calls of the stage and of the hook that the journal shows. -/
def record (events : List (Event Req Resp Ctx Fault Refusal)) : Record Req Resp where
  handed := (submissions events).map Submission.handed
  told := notices events

variable {event : Event Req Resp Ctx Fault Refusal}
variable (events : List (Event Req Resp Ctx Fault Refusal))

/-- Only submissions and notices are on record. -/
theorem record_concat
    (unhanded : event.submission? = none)
    (untold : event.notice? = none) :
    record (events ++ [event]) = record events := by
  simp only [record, submissions, notices, List.filterMap_append, List.filterMap_cons,
    List.filterMap_nil, unhanded, untold, Option.map_none, List.append_nil]

theorem record_submitted
    (now : Instant)
    (submission : Submission Req Ctx)
    (count : Nat) :
    record (events ++ [.submitted now submission count]) =
      (record events).hand submission.ticket submission.attempt.item.request := by
  simp only [record, submissions, notices, List.filterMap_append, List.filterMap_cons,
    List.filterMap_nil, Event.submission?, Event.notice?, Option.map_none, List.append_nil,
    List.map_append, List.map_cons, List.map_nil]
  rfl

theorem record_notified
    (now : Instant)
    (notice : Notice Resp) :
    record (events ++ [.notified now notice]) = (record events).tell notice := by
  simp only [record, submissions, notices, List.filterMap_append, List.filterMap_cons,
    List.filterMap_nil, Event.submission?, Event.notice?, Option.map_some, List.append_nil]
  rfl

end Journal

namespace Run

/-- The run with the record that its journal shows. -/
def transcribed (run : Run σ Req Resp Ctx Fault Refusal) :
    Run (Recording σ Req Resp) Req Resp Ctx Fault Refusal :=
  run.recorded (Journal.record run.events)

theorem recorded_injective
    {record later : Record Req Resp}
    {run after : Run σ Req Resp Ctx Fault Refusal}
    (same : run.recorded record = after.recorded later) :
    record = later ∧ run = after := by
  obtain ⟨flow, outside, journal⟩ := run
  cases after
  cases same
  exact ⟨rfl, rfl⟩

/-! ## What each function does to the record

What a function does over recording surroundings is what it does without them, with the calls
that it has noted on record.
-/

variable (env : Surroundings σ Req Resp Ctx Fault Refusal)
variable (run : Run σ Req Resp Ctx Fault Refusal)

@[simp] theorem flow_transcribed : run.transcribed.flow = run.flow :=
  rfl

@[simp] theorem outside_transcribed :
    run.transcribed.outside = ⟨run.outside, Journal.record run.events⟩ :=
  rfl

@[simp] theorem journal_transcribed : run.transcribed.journal = run.journal :=
  rfl

theorem log_transcribed
    (event : Event Req Resp Ctx Fault Refusal)
    (unhanded : event.submission? = none)
    (untold : event.notice? = none) :
    run.transcribed.log event = (run.log event).transcribed := by
  rw [transcribed, transcribed, events_log, Journal.record_concat _ unhanded untold]
  rfl

/-- It does not matter if something else has changed. -/
theorem note_transcribed
    (flow : Flow Req Ctx)
    (outside : σ)
    (event : Event Req Resp Ctx Fault Refusal)
    (unhanded : event.submission? = none)
    (untold : event.notice? = none) :
    log ⟨flow, ⟨outside, Journal.record run.events⟩, run.journal⟩ event =
      transcribed (log ⟨flow, outside, run.journal⟩ event) :=
  log_transcribed ⟨flow, outside, run.journal⟩ event unhanded untold

theorem notify_transcribed (notice : Notice Resp) :
    run.transcribed.notify env.recording notice = (run.notify env notice).transcribed := by
  unfold notify
  rw [flow_transcribed]
  split
  · let noted := run.log (.notified (env.now run.outside) notice)
    have record : Journal.record noted.events = (Journal.record run.events).tell notice := by
      rw [events_log, Journal.record_notified]
    exact
      congrArg
        (fun record => recorded record { noted with outside := env.notify run.outside notice })
        record.symm
  · rfl

theorem submit_transcribed (attempt : Attempt Req Ctx) (place : Option Place) :
    run.transcribed.submit env.recording attempt place =
      (run.submit env attempt place).transcribed := by
  let noted :=
    run.log
      (.submitted (env.now run.outside) (run.flow.submissionOf attempt place)
        (run.flow.inFlight.length + 1))
  have record :
      Journal.record noted.events =
        (Journal.record run.events).hand run.flow.nextTicket attempt.item.request := by
    rw [events_log, Journal.record_submitted]
    rfl
  exact congrArg (fun record => recorded record (run.submit env attempt place)) record.symm

theorem yield_transcribed (item : Item Resp Ctx Fault Refusal) :
    run.transcribed.yield item = (run.yield item).map id transcribed :=
  congrArg (Prod.mk _) (log_transcribed run _ rfl rfl)

theorem cancel_transcribed :
    run.transcribed.cancel env.recording = (run.cancel env).transcribed :=
  congrArg (shutDown env.recording) (log_transcribed run _ rfl rfl)

theorem abort_transcribed (error : FlowError Fault Refusal) :
    run.transcribed.abort env.recording error = (run.abort env error).map id transcribed := by
  let noted := run.log (.aborted run.flow.inFlightCount run.flow.pendingCount error)
  calc run.transcribed.abort env.recording error
    _ = (noted.transcribed.shutDown env.recording).yield (.error error) :=
        congrArg (fun run => (run.shutDown env.recording).yield (.error error))
          (log_transcribed run _ rfl rfl)
    _ = (run.abort env error).map id transcribed :=
        yield_transcribed (noted.shutDown env) (.error error)

theorem schedule_transcribed
    (submission : Submission Req Ctx)
    (response : Resp)
    (since : Instant)
    (item : WorkItem Req Ctx) :
    run.transcribed.schedule env.recording submission response since item =
      (run.schedule env submission response since item).map id transcribed := by
  cases taken :
      run.flow.settings.policy.delay (submission.attempt.number + 1) run.flow.random with
  | error cause => simp only [schedule, flow_transcribed, taken, Prod.map_apply, id_eq]
  | ok pair =>
      obtain ⟨delay, random⟩ := pair
      let drawn : Run σ Req Resp Ctx Fault Refusal :=
        { run with flow := { run.flow with random := random } }
      let notice : Notice Resp := ⟨submission.attempt.number, response, some delay⟩
      have announced :=
        log_transcribed (drawn.notify env notice)
          (.retryAnnounced (submission.attempt.number + 1) delay) rfl rfl
      rw [schedule_of_delay run taken rfl,
        schedule_of_delay run.transcribed taken (notify_transcribed env drawn notice), announced,
        flow_transcribed]
      cases
          run.flow.retries.schedule?
            (Attempt.followUp item (submission.attempt.number + 1) submission.ticket)
            delay since with
      | none => rfl
      | some waiting =>
          obtain ⟨entry, retries⟩ := waiting
          simp only [log_transcribed _ (.retryScheduled entry) rfl rfl]
          rfl

theorem scheduleAll_transcribed
    (submission : Submission Req Ctx)
    (response : Resp)
    (since : Instant)
    (items : List (WorkItem Req Ctx)) :
    run.transcribed.scheduleAll env.recording submission response since items =
      (run.scheduleAll env submission response since items).map id transcribed := by
  induction items generalizing run with
  | nil => rfl
  | cons item rest inductionHypothesis =>
      have first := schedule_transcribed env run submission response since item
      rcases scheduled : run.schedule env submission response since item with ⟨_ | cause, after⟩
      · rw [scheduled] at first
        simp only [scheduleAll, first, scheduled, Prod.map_apply, id_eq]
        exact inductionHypothesis after
      · rw [scheduled] at first
        simp only [scheduleAll, first, scheduled, Prod.map_apply, id_eq]

theorem exhaust_transcribed (submission : Submission Req Ctx) (response : Resp) :
    run.transcribed.exhaust env.recording submission response =
      (run.exhaust env submission response).map id transcribed := by
  unfold exhaust
  simp only [notify_transcribed, log_transcribed _ (.attemptsExhausted _) rfl rfl,
    flow_transcribed, flow_log, flow_notify]
  cases run.flow.settings.policy.exhaustion with
  | emitLast => exact yield_transcribed _ _
  | fail => exact abort_transcribed env _ _

theorem obey_transcribed
    (submission : Submission Req Ctx)
    (response : Resp)
    (verdict : Except Refusal (Verdict Req Ctx)) :
    run.transcribed.obey env.recording submission response verdict =
      (run.obey env submission response verdict).map id transcribed := by
  rcases verdict with refusal | _ | _ | ⟨first, others⟩
  · exact abort_transcribed env run _
  · exact yield_transcribed run _
  · rfl
  · by_cases spent : run.flow.settings.policy.maxAttempts ≤ submission.attempt.number
    · simp only [obey, flow_transcribed, spent, ↓reduceIte]
      exact exhaust_transcribed env run submission response
    · simp only [obey, flow_transcribed, spent, ↓reduceIte]
      exact scheduleAll_transcribed env run submission response _ _

theorem settle_transcribed
    (submission : Submission Req Ctx)
    (answer : Except Fault Resp) :
    run.transcribed.settle env.recording submission answer =
      (run.settle env submission answer).map id transcribed := by
  cases answer with
  | error fault => exact abort_transcribed env run _
  | ok response =>
      rcases classified :
          env.classify run.outside response submission.attempt.item.context with
        ⟨verdict, outside⟩
      have judged :=
        note_transcribed run run.flow outside
          (.judged (env.now outside) submission response verdict) rfl rfl
      simp only [settle, flow_transcribed, outside_transcribed, journal_transcribed,
        Surroundings.classify_recording, classified, Surroundings.now_recording, judged]
      exact obey_transcribed env _ submission response verdict

theorem promote_transcribed :
    run.transcribed.promote env.recording = (run.promote env).map id transcribed := by
  have noted := log_transcribed run (.roundBegun (env.now run.outside)) rfl rfl
  simp only [promote, outside_transcribed, Surroundings.now_recording, noted]
  rfl

theorem fill_transcribed :
    run.transcribed.fill env.recording = (run.fill env).map id transcribed := by
  unfold fill
  by_cases slot : run.flow.HasSlot
  · simp only [flow_transcribed, slot, ↓reduceIte]
    cases run.flow.retries.popReady? with
    | some taken =>
        obtain ⟨entry, retries⟩ := taken
        let popped : Run σ Req Resp Ctx Fault Refusal :=
          { run with flow := { run.flow with retries := retries } }
        exact congrArg (Prod.mk _) (submit_transcribed env popped _ _)
    | none =>
        by_cases gated : run.flow.Gated
        · simp only [gated, ↓reduceIte]
          rfl
        · rcases offered : env.pull run.outside with ⟨offer, later⟩
          have asked :=
            note_transcribed run run.flow later (.feedAsked (env.now later) offer) rfl rfl
          simp only [gated, ↓reduceIte, outside_transcribed, journal_transcribed,
            Surroundings.pull_recording, offered, Surroundings.now_recording, asked]
          cases offer with
          | item item => exact congrArg (Prod.mk _) (submit_transcribed env _ _ _)
          | ended => rfl
          | pending => rfl
  · simp only [flow_transcribed, slot, ↓reduceIte]
    rfl

theorem collect_transcribed :
    run.transcribed.collect env.recording = (run.collect env).map id transcribed := by
  unfold collect
  rcases collected : env.collect run.outside run.flow.inFlight with ⟨found, later⟩
  simp only [flow_transcribed, outside_transcribed, journal_transcribed,
    Surroundings.collect_recording, collected]
  cases found with
  | none => rfl
  | some completion =>
      let submission := run.flow.inFlight.get completion.index
      let rest : Flow Req Ctx :=
        { run.flow with inFlight := run.flow.inFlight.eraseIdx completion.index }
      have answered :=
        note_transcribed run rest later
          (.answered (env.now later) submission completion.answer) rfl rfl
      simp only [Surroundings.now_recording]
      rw [answered]
      exact settle_transcribed env _ submission completion.answer

theorem lookAtTimer_transcribed :
    run.transcribed.lookAtTimer env.recording = (run.lookAtTimer env).map id transcribed := by
  cases armed : run.flow.retries.nextDeadline? with
  | none =>
      simp only [lookAtTimer, flow_transcribed, outside_transcribed, journal_transcribed, armed,
        RetryQueue.pollTimer, Bool.false_eq_true, ↓reduceIte,
        note_transcribed run _ _ .ended rfl rfl, apply_ite (Prod.map id transcribed)]
      exact if_congr Iff.rfl rfl rfl
  | some deadline =>
      rcases looked : env.timerFired run.outside deadline with ⟨fired, later⟩
      simp only [lookAtTimer, flow_transcribed, outside_transcribed, journal_transcribed, armed,
        Surroundings.timerFired_recording, looked, Surroundings.now_recording,
        RetryQueue.pollTimer]
      cases fired with
      | true =>
          simp only [↓reduceIte, note_transcribed run _ _ (.timerFired _) rfl rfl]
          rfl
      | false =>
          simp only [Bool.false_eq_true, ↓reduceIte, note_transcribed run _ _ .ended rfl rfl,
            apply_ite (Prod.map id transcribed)]
          exact if_congr Iff.rfl rfl rfl

theorem step_transcribed (station : Station) :
    run.transcribed.step env.recording station = (run.step env station).map id transcribed := by
  cases station with
  | promote => exact promote_transcribed env run
  | fill => exact fill_transcribed env run
  | collect => exact collect_transcribed env run
  | timer => exact lookAtTimer_transcribed env run

end Run

/-! ## Runs with their records -/

section Runs

variable {env : Surroundings σ Req Resp Ctx Fault Refusal}
variable {flow : Flow Req Ctx}
variable {outside : σ}
variable {position : Position}
variable {record : Record Req Resp}
variable {run : Run σ Req Resp Ctx Fault Refusal}

/-- Every run that can be reached is recorded, with just the calls that its journal shows. -/
theorem Reached.recorded
    (reached : Reached env (Run.start flow outside) position run) :
    Recorded env (Run.start flow outside) position (Journal.record run.events) run := by
  induction reached with
  | start => exact .start
  | begin _ running inductionHypothesis => exact inductionHypothesis.begin running
  | @step run _ station _ _ stepped sound inductionHypothesis =>
      have made := Run.step_transcribed env run station
      rw [stepped] at made
      exact inductionHypothesis.step made sound
  | elapse outside _ inductionHypothesis => exact inductionHypothesis.elapse outside
  | cancel _ inductionHypothesis => exact inductionHypothesis.cancel (Run.cancel_transcribed env _)

/-- A run is recorded exactly when it can be reached, and there is but one record of it. -/
theorem Recorded.iff_reached :
    Recorded env (Run.start flow outside) position record run ↔
      Reached env (Run.start flow outside) position run ∧
        record = Journal.record run.events := by
  constructor
  · intro recorded
    induction recorded with
    | start => exact ⟨.start, rfl⟩
    | begin _ running inductionHypothesis =>
        exact ⟨inductionHypothesis.1.begin running, inductionHypothesis.2⟩
    | @step _ _ run _ station _ _ stepped sound inductionHypothesis =>
        obtain ⟨reached, rfl⟩ := inductionHypothesis
        obtain ⟨rfl, made⟩ :=
          Prod.mk.inj ((Run.step_transcribed env run station).symm.trans stepped)
        obtain ⟨same, rfl⟩ := Run.recorded_injective made
        exact ⟨reached.step rfl sound, same.symm⟩
    | elapse outside _ inductionHypothesis =>
        exact ⟨inductionHypothesis.1.elapse outside, inductionHypothesis.2⟩
    | @cancel _ _ run _ _ cancelled inductionHypothesis =>
        obtain ⟨reached, rfl⟩ := inductionHypothesis
        obtain ⟨same, rfl⟩ :=
          Run.recorded_injective ((Run.cancel_transcribed env run).symm.trans cancelled)
        exact ⟨reached.cancel, same.symm⟩
  · rintro ⟨reached, rfl⟩
    exact reached.recorded

end Runs

end Resubmit
