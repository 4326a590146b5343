import Resubmit.Proofs.Draws

namespace Resubmit

/-!
# How far the count of attempts goes

Attempts are counted in a word of thirty-two bits.  The policy keeps the numbers of attempts
within that word, but the count of submissions is one more than the number of the last attempt.
A flow that uses up the most attempts that a policy can allow counts from the start again.
-/

namespace Scenario

/-- The number is counted down to zero, one at a time. -/
def descent (top : Nat) : Scenario Nat Nat Unit Unit Unit where
  items := [⟨top, ()⟩]
  respond request := .ok request
  judge response context := .ok (if response = 0 then .done else .retry (response - 1) context)

end Scenario

namespace Run

/-- Where the work of a flow stands whose feed has ended. -/
structure Stands
    (settings : Settings)
    (inFlight : List (Submission Nat Unit))
    (scheduled ready : List (Waiting (Attempt Nat Unit)))
    (run : Run (List (WorkItem Nat Unit)) Nat Nat Unit Unit Unit) :
    Prop where
  settings : run.flow.settings = settings
  feedEnded : run.flow.feedEnded = true
  inFlight : run.flow.inFlight = inFlight
  scheduled : run.flow.retries.scheduled = scheduled
  ready : run.flow.retries.ready = ready

variable {maxAttempts : UInt32}
variable {top : Nat}
variable {settings : Settings}
variable {submission : Submission Nat Unit}
variable {entry : Waiting (Attempt Nat Unit)}
variable {run : Run (List (WorkItem Nat Unit)) Nat Nat Unit Unit Unit}

/-- Without any other work a retry that is due at the start of the clock is promoted. -/
theorem Stands.promote
    (stands : run.Stands settings [] [entry] [])
    (due : entry.place.readyAt = .zero) :
    ∃ after,
      run.step (.prompt (.descent top)) .promote = (.go .fill, after) ∧
        after.Stands settings [] [] [entry] := by
  have isDue : RetryQueue.isDue .zero entry = true := by
    rw [RetryQueue.isDue, due]
    rfl
  refine ⟨_, rfl, stands.settings, stands.feedEnded, stands.inFlight, ?_, ?_⟩
  · change run.flow.retries.scheduled.dropWhile (RetryQueue.isDue .zero) = []
    rw [stands.scheduled, List.dropWhile_cons_of_pos isDue]
    rfl
  · change
      run.flow.retries.ready ++
        run.flow.retries.scheduled.takeWhile (RetryQueue.isDue .zero) = [entry]
    rw [stands.scheduled, stands.ready, List.takeWhile_cons_of_pos isDue]
    rfl

theorem Stands.fill (stands : run.Stands settings [] [] [entry]) :
    ∃ submission after,
      run.step (.prompt (.descent top)) .fill = (.go .fill, after) ∧
        submission.attempt = entry.payload ∧
        after.Stands settings [submission] [] [] := by
  have slot : run.flow.HasSlot := by
    rw [Flow.HasSlot, stands.inFlight]
    exact run.flow.settings.parallelism_pos
  let rest : RetryQueue (Attempt Nat Unit) := { run.flow.retries with ready := [] }
  have popped : run.flow.retries.popReady? = some (entry, rest) := by
    rw [RetryQueue.popReady?, stands.ready]
  let popping : Run (List (WorkItem Nat Unit)) Nat Nat Unit Unit Unit :=
    { run with flow := { run.flow with retries := rest } }
  refine
    ⟨run.flow.submissionOf entry.payload (some entry.place),
      popping.submit (.prompt (.descent top)) entry.payload (some entry.place), ?_, rfl,
      stands.settings, stands.feedEnded, ?_, stands.scheduled, rfl⟩
  · simp only [step, Run.fill, slot, popped, ↓reduceIte]
    rfl
  · change run.flow.inFlight ++ [_] = _
    rw [stands.inFlight]
    rfl

/-- Without a delay a follow-up is due at the instant at which it was asked for. -/
theorem schedule_undelayed
    {maxAttempts : UInt32}
    {σ Req Resp Ctx Fault Refusal : Type}
    (env : Surroundings σ Req Resp Ctx Fault Refusal)
    (run : Run σ Req Resp Ctx Fault Refusal)
    (undelayed : run.flow.settings = .undelayed maxAttempts .emitLast)
    (submission : Submission Req Ctx)
    (response : Resp)
    (item : WorkItem Req Ctx) :
    ∃ entry after,
      run.schedule env submission response .zero item = (none, after) ∧
        entry.place.readyAt = .zero ∧
        entry.payload =
          Attempt.followUp item (submission.attempt.number + 1) submission.ticket ∧
        after.flow = {
          run.flow with
          retries := {
            run.flow.retries with
            scheduled := RetryQueue.insert entry run.flow.retries.scheduled
            nextSeq := run.flow.retries.nextSeq + 1 } } := by
  have exact : ¬ run.flow.settings.policy.Spreads := by
    rw [undelayed]
    exact fun spreads => Nat.lt_irrefl 0 spreads.2
  have none : run.flow.settings.policy.backoff (submission.attempt.number + 1) = .zero := by
    rw [undelayed, ← Duration.toNanos_inj, Policy.toNanos_backoff]
    exact Nat.min_eq_right (Nat.zero_le _)
  have drawn :=
    Policy.delay_of_not_spreads run.flow.settings.policy_sound exact
      (submission.attempt.number + 1) run.flow.random
  rw [none] at drawn
  have fits : Instant.zero.after? .zero = some .zero := by decide
  let attempt :=
    Attempt.followUp item (submission.attempt.number + 1) submission.ticket
  let entry : Waiting (Attempt Req Ctx) := ⟨⟨.zero, run.flow.retries.nextSeq⟩, attempt⟩
  let announced :=
    (run.notify env ⟨submission.attempt.number, response, some .zero⟩).log
      (.retryAnnounced (submission.attempt.number + 1) .zero)
  let noted := announced.log (.retryScheduled entry)
  let retries := {
    run.flow.retries with
    scheduled := RetryQueue.insert entry run.flow.retries.scheduled
    nextSeq := run.flow.retries.nextSeq + 1 }
  refine
    ⟨entry, { noted with flow := { announced.flow with retries := retries } }, ?_, rfl, rfl, ?_⟩
  · rw [schedule_of_delay run drawn rfl]
    simp only [RetryQueue.schedule?, fits, Option.bind_eq_bind, Option.bind_some, Option.pure_def]
    rfl
  · simp only [announced, flow_log, flow_notify, retries]

/-- A response that asks for one more number has it scheduled at once. -/
theorem Stands.collect
    {request : Nat}
    (stands : run.Stands (.undelayed maxAttempts .emitLast) [submission] [] [])
    (asks : submission.attempt.item.request = request + 1)
    (within : submission.attempt.number < maxAttempts) :
    ∃ entry after,
      run.step (.prompt (.descent top)) .collect = (.go .promote, after) ∧
        entry.place.readyAt = .zero ∧
        entry.payload.item.request = request ∧
        entry.payload.number = submission.attempt.number + 1 ∧
        after.Stands (.undelayed maxAttempts .emitLast) [] [entry] [] := by
  obtain ⟨⟨settings, fed, ended, ticket, inFlight, retries, random⟩, outside, journal⟩ := run
  obtain ⟨ofTicket, ⟨⟨asked, context⟩, number, parent⟩, place⟩ := submission
  obtain ⟨options, feedEnded, flying, unscheduled, noneReady⟩ := stands
  simp only at options feedEnded flying unscheduled noneReady asks within
  subst options feedEnded flying asks
  let env := Surroundings.prompt (Scenario.descent top)
  let submission : Submission Nat Unit :=
    ⟨ofTicket, ⟨⟨request + 1, context⟩, number, parent⟩, place⟩
  let rest : Run (List (WorkItem Nat Unit)) Nat Nat Unit Unit Unit :=
    ⟨⟨.undelayed maxAttempts .emitLast, true, ended, ticket, [], retries, random⟩, outside, journal⟩
  let judged :=
    (rest.log (.answered .zero submission (.ok (request + 1)))).log
      (.judged .zero submission (request + 1) (.ok (.retry request context)))
  obtain ⟨entry, after, scheduled, due, payload, flow⟩ :=
    schedule_undelayed env judged rfl submission (request + 1) ⟨request, context⟩
  refine ⟨entry, after, ?_, due, ?_, ?_, ?_⟩
  · change judged.obey env submission (request + 1) (.ok (.retry request context)) = _
    have unspent : ¬ judged.flow.settings.policy.maxAttempts ≤ submission.attempt.number :=
      UInt32.not_le.mpr within
    have scheduled :
        judged.schedule env submission (request + 1) (env.now judged.outside)
            ⟨request, context⟩ =
          (none, after) :=
      scheduled
    simp only [obey, Verdict.retry, unspent, ↓reduceIte, scheduleAll, scheduled]
  · rw [payload]
    rfl
  · rw [payload]
    rfl
  · constructor <;> rw [flow]
    · rfl
    · rfl
    · rfl
    · change RetryQueue.insert entry retries.scheduled = [entry]
      rw [unscheduled]
      rfl
    · exact noneReady

theorem Stands.leave (stands : run.Stands settings [submission] [] []) :
    run.step (.prompt (.descent top)) .fill = (.go .collect, run) := by
  have gated : run.flow.Gated := .inl stands.feedEnded
  have none : run.flow.retries.popReady? = none := by
    rw [RetryQueue.popReady?, stands.ready]
  by_cases slot : run.flow.HasSlot
  · simp only [step, Run.fill, slot, none, gated, ↓reduceIte]
  · simp only [step, Run.fill, slot, ↓reduceIte]

/-- The response to zero is final and given out. -/
theorem Stands.finish
    (stands : run.Stands settings [submission] [] [])
    (zero : submission.attempt.item.request = 0) :
    ∃ after,
      run.step (.prompt (.descent top)) .collect =
          (.stop (.item (.ok (submission.outcome 0 false))), after) ∧
        .ok (submission.outcome 0 false) ∈ after.items ∧
        ⟨submission, 0, .ok .done⟩ ∈ Journal.judgements after.events := by
  obtain ⟨⟨options, fed, ended, ticket, inFlight, retries, random⟩, outside, journal⟩ := run
  obtain ⟨ofTicket, ⟨⟨asked, context⟩, number, parent⟩, place⟩ := submission
  have flying := stands.inFlight
  simp only at flying zero
  subst flying zero
  let submission : Submission Nat Unit := ⟨ofTicket, ⟨⟨0, context⟩, number, parent⟩, place⟩
  let rest : Run (List (WorkItem Nat Unit)) Nat Nat Unit Unit Unit :=
    ⟨⟨options, fed, ended, ticket, [], retries, random⟩, outside, journal⟩
  let judged :=
    (rest.log (.answered .zero submission (.ok 0))).log (.judged .zero submission 0 (.ok .done))
  refine ⟨judged.log (.yielded (.ok (submission.outcome 0 false))), rfl, ?_, ?_⟩
  · simp [items, judged, Event.item?, submission]
  · simp [Journal.judgements, Journal.rulings, judged, Event.ruling?, Ruling.judgement?, submission]

end Run

namespace Reached

/-- Counting down from the allowed number, every number of an attempt is come by. -/
theorem descends
    (maxAttempts : UInt32)
    {count : Nat}
    (within : count ≤ maxAttempts.toNat) :
    ∃ submission run,
      Reached
          (.prompt (.descent maxAttempts.toNat))
          (.prompt (.undelayed maxAttempts .emitLast) (.descent maxAttempts.toNat))
          (.within .collect) run ∧
        run.Stands (.undelayed maxAttempts .emitLast) [submission] [] [] ∧
        submission.attempt.item.request = maxAttempts.toNat - count ∧
        submission.attempt.number.toNat = count := by
  let env := Surroundings.prompt (Scenario.descent maxAttempts.toNat)
  let begun :=
    Run.prompt (.undelayed maxAttempts .emitLast) (Scenario.descent maxAttempts.toNat)
  -- By induction on the number, with one round of four stations for each.
  induction count with
  | zero =>
      let promoted := (begun.step env .promote).2
      let submitted := (promoted.step env .fill).2
      let unfed := (submitted.step env .fill).2
      have begins : Reached env begun (.within .promote) begun := Reached.start.begin rfl
      have promotes : begun.step env .promote = (.go .fill, promoted) := rfl
      have submits : promoted.step env .fill = (.go .fill, submitted) := rfl
      have asks : submitted.step env .fill = (.go .fill, unfed) := rfl
      have stands :
          unfed.Stands (.undelayed maxAttempts .emitLast)
            [⟨0, .fresh ⟨maxAttempts.toNat, ()⟩, none⟩] [] [] :=
        ⟨rfl, rfl, rfl, rfl, rfl⟩
      have reached : Reached env begun (.within .collect) unfed :=
        (((begins.step promotes rfl).step submits rfl).step asks rfl).step stands.leave rfl
      exact ⟨_, unfed, reached, stands, rfl, rfl⟩
  | succ count inductionHypothesis =>
      obtain ⟨submission, run, reached, stands, request, number⟩ :=
        inductionHypothesis (Nat.le_of_succ_le within)
      have below : submission.attempt.number < maxAttempts := by
        rw [UInt32.lt_iff_toNat_lt, number]
        exact within
      have asks : submission.attempt.item.request = maxAttempts.toNat - (count + 1) + 1 := by
        omega
      obtain ⟨entry, asked, collects, due, next, grown, waits⟩ := stands.collect asks below
      obtain ⟨promoted, promotes, ready⟩ := waits.promote due
      obtain ⟨followUp, filled, fills, same, flies⟩ := ready.fill
      refine
        ⟨followUp, filled,
          (((reached.step collects rfl).step promotes rfl).step fills rfl).step flies.leave rfl,
          flies, ?_, ?_⟩
      · rw [same, next]
      · rw [same, grown, Scenario.toNat_succ below, number]

/-- So the last attempt that a policy allows is come by, and its response is given out. -/
theorem exists_last (maxAttempts : UInt32) :
    ∃ submission run,
      Reached
          (.prompt (.descent maxAttempts.toNat))
          (.prompt (.undelayed maxAttempts .emitLast) (.descent maxAttempts.toNat))
          .idle run ∧
        submission.attempt.number = maxAttempts ∧
        .ok (submission.outcome 0 false) ∈ run.items ∧
        ⟨submission, 0, .ok .done⟩ ∈ Journal.judgements run.events := by
  obtain ⟨submission, run, reached, stands, request, number⟩ :=
    descends maxAttempts (Nat.le_refl _)
  rw [Nat.sub_self] at request
  obtain ⟨after, finishes, given, judged⟩ := stands.finish request
  exact ⟨submission, after, reached.step finishes rfl, UInt32.toNat_inj.mp number, given, judged⟩

end Reached

/-! ## True counts -/

/-- What a run tells of numbers of submissions is true. -/
structure Run.CountsTruly
    {σ Req Resp Ctx Fault Refusal : Type}
    (settings : Settings)
    (run : Run σ Req Resp Ctx Fault Refusal) :
    Prop where
  /-- The number of a submission is that of those before it. -/
  submissions :
    ∀ submission ∈ Journal.submissions run.events,
      submission.attempt.CountsAncestors run.events
  /-- A number of which the successor may be needed has one in its word. -/
  successors :
    ∀ judgement ∈ Journal.judgements run.events,
      judgement.submission.attempt.number.toNat + 1 < UInt32.size
  /-- An outcome counts the submissions of its lineage. -/
  outcomes :
    ∀ outcome, .ok outcome ∈ run.items →
      ∃ judgement ∈ Journal.judgements run.events, ∃ ancestors,
        (judgement.consequence settings.policy : Consequence Req Resp Ctx Fault Refusal) =
            .emits outcome ∧
          Lineage run.events judgement.submission.attempt ancestors ∧
          outcome.attempts.toNat = (judgement.submission :: ancestors).length
  /-- So does the error that tells that the attempts have run out. -/
  errors :
    ∀ attempts, .error (.exhausted attempts) ∈ run.items →
      ∃ judgement ∈ Journal.judgements run.events, ∃ ancestors,
        (judgement.consequence settings.policy : Consequence Req Resp Ctx Fault Refusal) =
            .fails (.exhausted attempts) ∧
          Lineage run.events judgement.submission.attempt ancestors ∧
          attempts.toNat = (judgement.submission :: ancestors).length

namespace Reached

theorem countsTruly
    {σ Req Resp Ctx Fault Refusal : Type}
    {env : Surroundings σ Req Resp Ctx Fault Refusal}
    {settings : Settings}
    {random : ChaCha12}
    {outside : σ}
    {position : Position}
    {run : Run σ Req Resp Ctx Fault Refusal}
    (below : settings.policy.maxAttempts.toNat + 1 < UInt32.size)
    (reached :
      Reached env (Run.start (Flow.start settings random) outside) position run) :
    run.CountsTruly settings := by
  have counts {submission : Submission Req Ctx}
      (made : submission ∈ Journal.submissions run.events) :
      submission.attempt.CountsAncestors run.events :=
    reached.countsAncestors (reached.entered.submitted submission made)
  -- The count of a judged submission, together with those before it.
  have counted {judgement : Judgement Req Resp Ctx Refusal}
      (judged : judgement ∈ Journal.judgements run.events) :
      ∃ ancestors,
        Lineage run.events judgement.submission.attempt ancestors ∧
          (judgement.submission.attempt.number + 1).toNat =
            (judgement.submission :: ancestors).length := by
    have made := reached.submitted_of_judged judged
    obtain ⟨⟨ancestors, lineage⟩, length⟩ := counts made
    refine ⟨ancestors, lineage, ?_⟩
    rw [reached.toNat_number_succ below made, List.length_cons, length ancestors lineage]
  constructor
  case submissions => exact fun submission made => counts made
  case successors =>
    intro judgement judged
    have least := reached.number_le (reached.submitted_of_judged judged)
    omega
  case outcomes =>
    intro outcome given
    obtain ⟨judgement, judged, emits⟩ := reached.judgement_of_outcome given
    obtain ⟨ancestors, lineage, length⟩ := counted judged
    obtain ⟨exhausted, rfl, _⟩ := Judgement.of_emits emits
    exact ⟨judgement, judged, ancestors, emits, lineage, length⟩
  case errors =>
    intro attempts given
    obtain ⟨judgement, judged, fails⟩ := reached.judgement_of_exhausted given
    obtain ⟨ancestors, lineage, length⟩ := counted judged
    obtain ⟨rfl, _⟩ := Judgement.of_exhausted fails
    exact ⟨judgement, judged, ancestors, fails, lineage, length⟩

/--
The counts are true for every number of attempts that a policy can allow, but for the largest.

Whatever the stage and the classifier do, a smaller number is safe.  With the largest one there
are runs that need the successor of the largest number.
-/
theorem countsTruly_iff (maxAttempts : UInt32) :
    (∀ (σ Req Resp Ctx Fault Refusal : Type)
        (env : Surroundings σ Req Resp Ctx Fault Refusal)
        (builder : Builder)
        (entropy : ChaCha12)
        (flow : Flow Req Ctx)
        (outside : σ)
        (position : Position)
        (run : Run σ Req Resp Ctx Fault Refusal),
        builder.policy.maxAttempts = maxAttempts →
        builder.build entropy = .ok flow →
        Reached env (Run.start flow outside) position run →
        run.CountsTruly flow.settings) ↔
      maxAttempts.toNat + 1 < UInt32.size := by
  constructor
  · intro truly
    obtain ⟨submission, run, reached, rfl, _, judged⟩ := exists_last maxAttempts
    let settings := Settings.undelayed submission.attempt.number .emitLast
    have built :
        (settings.builder 0).build (ChaCha12.ofSeed 0) =
          .ok (Flow.start settings (ChaCha12.ofSeed 0) : Flow Nat Unit) :=
      settings.build_builder _ _
    exact (truly _ _ _ _ _ _ _ _ _ _ _ _ _ rfl built reached).successors _ judged
  · rintro below σ Req Resp Ctx Fault Refusal env builder entropy flow outside position run
      rfl built reached
    obtain ⟨settings, _, options, rfl⟩ := Builder.eq_start_of_build built
    rw [← options] at below
    exact reached.countsTruly below

/-- The largest number of attempts is accepted, and its count starts again from zero. -/
theorem miscounts_largest :
    let settings := Settings.undelayed 4294967295 .emitLast
    let scenario := Scenario.descent 4294967295
    (settings.builder 0).build (ChaCha12.ofSeed 1) =
        .ok (Flow.start settings (ChaCha12.ofSeed 0) : Flow Nat Unit) ∧
      ∃ run,
        Reached (.prompt scenario) (.prompt settings scenario) .idle run ∧
          ∃ submission ancestors,
            submission.attempt.number = 4294967295 ∧
            Lineage run.events submission.attempt ancestors ∧
            (submission :: ancestors).length = 4294967296 ∧
            .ok (submission.outcome 0 false) ∈ run.items ∧
            (submission.outcome 0 false).attempts = 0 := by
  intro settings scenario
  obtain ⟨submission, run, reached, largest, given, judged⟩ := exists_last 4294967295
  have made := reached.submitted_of_judged judged
  obtain ⟨⟨ancestors, lineage⟩, length⟩ :=
    reached.countsAncestors (reached.entered.submitted submission made)
  refine
    ⟨settings.build_builder _ _, run, reached, submission, ancestors, largest, lineage, ?_,
      given, ?_⟩
  · rw [List.length_cons, length ancestors lineage, largest]
    rfl
  · change submission.attempt.number + 1 = 0
    rw [largest]
    rfl

end Reached

end Resubmit
