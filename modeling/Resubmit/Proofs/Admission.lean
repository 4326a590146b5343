import Resubmit.Proofs.Resubmission

namespace Resubmit

/-!
# When the feed is asked

The feed is asked for more only when there is a slot for it, when few retries are pending, and
when every retry is with the stage that was due at the beginning of the round.  Once it has
ended it is not asked again, and what is not part of a poll does not ask it at all.
-/

variable {σ Req Resp Ctx Fault Refusal : Type}

/-- What the feed answered, if it was asked. -/
def Event.offer? : Event Req Resp Ctx Fault Refusal → Option (Offer Req Ctx)
  | .feedAsked _ offer => some offer
  | _ => none

/-- What the feed answered, each time that it was asked. -/
def Journal.offers (events : List (Event Req Resp Ctx Fault Refusal)) : List (Offer Req Ctx) :=
  events.filterMap Event.offer?

/-! ## Filling a slot -/

/-- A run in which the feed has been asked, and what it answered noted. -/
def Run.asked
    (env : Surroundings σ Req Resp Ctx Fault Refusal)
    (offer : Offer Req Ctx)
    (later : σ)
    (run : Run σ Req Resp Ctx Fault Refusal) :
    Run σ Req Resp Ctx Fault Refusal :=
  { run with outside := later }.log (.feedAsked (env.now later) offer)

/-- What filling a slot does to a run, with what is outside of it. -/
inductive Run.Fills
    (env : Surroundings σ Req Resp Ctx Fault Refusal)
    (run : Run σ Req Resp Ctx Fault Refusal) :
    Next Resp Ctx Fault Refusal →
    Run σ Req Resp Ctx Fault Refusal →
    Prop where
  | resubmit
      {entry : Waiting (Attempt Req Ctx)}
      {retries : RetryQueue (Attempt Req Ctx)}
      (slot : run.flow.HasSlot)
      (popped : run.flow.retries.popReady? = some (entry, retries)) :
      Fills env run (.go .fill)
        ({ run with flow := { run.flow with retries := retries } }.submit env
          entry.payload (some entry.place))
  | leaveFeed
      (reason : ¬ run.flow.HasSlot ∨ (run.flow.retries.ready = [] ∧ run.flow.Gated)) :
      Fills env run (.go .collect) run
  | pull
      {item : WorkItem Req Ctx}
      {later : σ}
      (slot : run.flow.HasSlot)
      (noneReady : run.flow.retries.ready = [])
      (ungated : ¬ run.flow.Gated)
      (offered : env.pull run.outside = (.item item, later)) :
      Fills env run (.go .fill)
        ((run.asked env (.item item) later).submit env (Attempt.fresh item) none)
  | feedEnds
      {later : σ}
      (slot : run.flow.HasSlot)
      (noneReady : run.flow.retries.ready = [])
      (ungated : ¬ run.flow.Gated)
      (offered : env.pull run.outside = (.ended, later)) :
      Fills env run (.go .fill)
        { run.asked env .ended later with flow := { run.flow with feedEnded := true } }
  | feedWaits
      {later : σ}
      (slot : run.flow.HasSlot)
      (noneReady : run.flow.retries.ready = [])
      (ungated : ¬ run.flow.Gated)
      (offered : env.pull run.outside = (.pending, later)) :
      Fills env run (.go .collect) (run.asked env .pending later)

namespace Run

variable {env : Surroundings σ Req Resp Ctx Fault Refusal}
variable {run after : Run σ Req Resp Ctx Fault Refusal}
variable {next : Next Resp Ctx Fault Refusal}

theorem fills_of_step (stepped : run.step env .fill = (next, after)) :
    run.Fills env next after := by
  simp only [step, fill] at stepped
  by_cases slot : run.flow.HasSlot
  · simp only [slot, ↓reduceIte] at stepped
    cases popped : run.flow.retries.popReady? with
    | some taken =>
        simp only [popped] at stepped
        cases stepped
        exact .resubmit slot popped
    | none =>
        have noneReady : run.flow.retries.ready = [] := by
          unfold RetryQueue.popReady? at popped
          split at popped
          · assumption
          · cases popped
        simp only [popped] at stepped
        by_cases gated : run.flow.Gated
        · simp only [gated, ↓reduceIte] at stepped
          cases stepped
          exact .leaveFeed (.inr ⟨noneReady, gated⟩)
        · simp only [gated, ↓reduceIte] at stepped
          rcases offered : env.pull run.outside with ⟨_ | _ | _, later⟩
          · simp only [offered] at stepped
            cases stepped
            exact .pull slot noneReady gated offered
          · simp only [offered] at stepped
            cases stepped
            exact .feedWaits slot noneReady gated offered
          · simp only [offered] at stepped
            cases stepped
            exact .feedEnds slot noneReady gated offered
  · simp only [slot, ↓reduceIte] at stepped
    cases stepped
    exact .leaveFeed (.inl slot)

@[simp] theorem events_asked
    (offer : Offer Req Ctx)
    (later : σ)
    (run : Run σ Req Resp Ctx Fault Refusal) :
    (run.asked env offer later).events =
      run.events ++ [.feedAsked (env.now later) offer] :=
  events_log _ _

@[simp] theorem events_submit
    (attempt : Attempt Req Ctx)
    (place : Option Place)
    (run : Run σ Req Resp Ctx Fault Refusal) :
    (run.submit env attempt place).events =
      run.events ++ [
        .submitted (env.now run.outside)
          (run.flow.submissionOf attempt place)
          (run.flow.inFlight.length + 1)] :=
  congrArg Scene.events (scene_submit attempt place [] run)

theorem events_pull
    (item : WorkItem Req Ctx)
    (later : σ)
    (run : Run σ Req Resp Ctx Fault Refusal) :
    ((run.asked env (.item item) later).submit env (Attempt.fresh item) none).events =
      run.events ++ [
        .feedAsked (env.now later) (.item item),
        .submitted (env.now later)
          (run.flow.submissionOf (Attempt.fresh item) none)
          (run.flow.inFlight.length + 1)] := by
  rw [events_submit, events_asked, List.append_assoc]
  rfl

section Noted

variable {between rest : List (Event Req Resp Ctx Fault Refusal)}
variable {now : Instant}

/-- The feed is asked before anything else is done. -/
theorem Fills.of_asked
    {offer : Offer Req Ctx}
    (fills : run.Fills env next after)
    (grown : after.events = run.events ++ (between ++ .feedAsked now offer :: rest)) :
    between = [] ∧
      run.flow.HasSlot ∧
      run.flow.retries.ready = [] ∧
      ¬ run.flow.Gated ∧
      ∃ left, env.pull run.outside = (offer, left) ∧ env.now left = now := by
  cases fills with
  | resubmit =>
      rw [events_submit] at grown
      have new := List.append_cancel_left grown
      simp [List.cons_eq_append_iff] at new
  | leaveFeed => simp at grown
  | pull slot noneReady ungated offered =>
      rw [events_pull] at grown
      have new := List.append_cancel_left grown
      simp only [List.cons_eq_append_iff, List.cons.injEq] at new
      rcases new with ⟨rfl, same, _⟩ | ⟨_, rfl, ⟨rfl, same, _⟩ | ⟨_, rfl, none⟩⟩
      · cases same
        exact ⟨rfl, slot, noneReady, ungated, _, offered, rfl⟩
      · cases same
      · simp at none
  | feedEnds slot noneReady ungated offered | feedWaits slot noneReady ungated offered =>
      have grown := (events_asked _ _ _).symm.trans grown
      have new := List.append_cancel_left grown
      rcases List.singleton_eq_append_iff.mp new with ⟨rfl, same⟩ | ⟨_, none⟩
      · cases same
        exact ⟨rfl, slot, noneReady, ungated, _, offered, rfl⟩
      · cases none

/-- Nothing is handed on that has not waited, but what the feed gave just before. -/
theorem Fills.of_admitted
    {submission : Submission Req Ctx}
    {count : Nat}
    (fills : run.Fills env next after)
    (grown : after.events = run.events ++ (between ++ .submitted now submission count :: rest))
    (fresh : submission.place = none) :
    run.flow.retries.ready = [] ∧ ∃ asked offer, between = [.feedAsked asked offer] := by
  cases fills with
  | resubmit =>
      rw [events_submit] at grown
      have new := List.append_cancel_left grown
      rcases List.singleton_eq_append_iff.mp new with ⟨_, same⟩ | ⟨_, none⟩
      · cases same
        cases fresh
      · cases none
  | leaveFeed => simp at grown
  | pull slot noneReady ungated offered =>
      rw [events_pull] at grown
      have new := List.append_cancel_left grown
      simp only [List.cons_eq_append_iff, List.cons.injEq] at new
      rcases new with ⟨_, same, _⟩ | ⟨_, rfl, ⟨rfl, _, _⟩ | ⟨_, rfl, none⟩⟩
      · cases same
      · exact ⟨noneReady, _, _, rfl⟩
      · simp at none
  | feedEnds | feedWaits =>
      have grown := (events_asked _ _ _).symm.trans grown
      have new := List.append_cancel_left grown
      rcases List.singleton_eq_append_iff.mp new with ⟨_, same⟩ | ⟨_, none⟩
      · cases same
      · cases none

end Noted

end Run

/-- Whether something comes in from the feed or goes out to the stage. -/
def Event.conveys : Event Req Resp Ctx Fault Refusal → Bool
  | .feedAsked .. => true
  | .submitted .. => true
  | _ => false

/-- A flow remembers that its feed has ended, and has not asked it since. -/
structure Scene.HeedsEnd (scene : Scene Req Resp Ctx Fault Refusal) : Prop where
  remembered : .ended ∈ Journal.offers scene.events → scene.flow.feedEnded = true
  last : (Journal.offers scene.events).Pairwise fun earlier _ => earlier ≠ .ended

namespace Scene.HeedsEnd

variable {before after : Scene Req Resp Ctx Fault Refusal}

theorem stay
    (heeds : before.HeedsEnd)
    (unasked : Journal.offers after.events = Journal.offers before.events)
    (same : after.flow.feedEnded = before.flow.feedEnded) :
    after.HeedsEnd where
  remembered := by
    rw [unasked, same]
    exact heeds.remembered
  last := by
    rw [unasked]
    exact heeds.last

/-- While the feed is not left alone it may be asked once more. -/
theorem ask
    (heeds : before.HeedsEnd)
    (offer : Offer Req Ctx)
    (ungated : ¬ before.flow.Gated)
    (asked : Journal.offers after.events = Journal.offers before.events ++ [offer])
    (ended : offer = .ended → after.flow.feedEnded = true) :
    after.HeedsEnd := by
  have feeding : .ended ∉ Journal.offers before.events := fun told =>
    ungated (.inl (heeds.remembered told))
  constructor
  · intro told
    rw [asked] at told
    rcases List.mem_append.mp told with earlier | now
    · exact (feeding earlier).elim
    · exact ended (List.mem_singleton.mp now).symm
  · rw [asked]
    refine List.pairwise_append.mpr ⟨heeds.last, List.pairwise_singleton _ _, ?_⟩
    intro earlier member _ _ same
    rw [same] at member
    exact feeding member

end Scene.HeedsEnd

section Deeds

variable {env : Surroundings σ Req Resp Ctx Fault Refusal}
variable {station : Station}
variable {before after : Scene Req Resp Ctx Fault Refusal}

theorem Deed.conveys_of_fill
    {next : Option (Next Resp Ctx Fault Refusal)}
    (deed : Deed env station before next after)
    (elsewhere : station ≠ .fill) :
    after.events.filter Event.conveys = before.events.filter Event.conveys := by
  have told (flow : Flow Req Ctx) (now : Instant) (notice : Notice Resp) :
      (flow.told now notice : List (Event Req Resp Ctx Fault Refusal)).filter
        Event.conveys = [] := by
    unfold Flow.told
    split <;> rfl
  cases deed with
  | resubmit | leaveFeed | pull | feedEnds | feedWaits => exact (elsewhere rfl).elim
  | _ =>
      simp only [List.filter_append, List.filter_cons, List.filter_nil, List.append_nil,
        Event.conveys, told, Bool.false_eq_true, ↓reduceIte]

/-- Nothing comes in or goes out but where slots are filled. -/
theorem Trail.conveys_of_fill
    {next : Next Resp Ctx Fault Refusal}
    (trail : Trail env station before next after)
    (elsewhere : station ≠ .fill) :
    after.events.filter Event.conveys = before.events.filter Event.conveys := by
  induction trail with
  | last deed => exact deed.conveys_of_fill elsewhere
  | more deed _ inductionHypothesis =>
      exact inductionHypothesis.trans (deed.conveys_of_fill elsewhere)

theorem Deed.heedsEnd
    {next : Option (Next Resp Ctx Fault Refusal)}
    (deed : Deed env station before next after)
    (heeds : before.HeedsEnd) :
    after.HeedsEnd := by
  have told :=
    Flow.filterMap_told
      (Event.offer? : Event Req Resp Ctx Fault Refusal → _)
      fun _ _ => rfl
  cases deed with
  | @pull _ _ _ _ item _ _ ungated =>
      refine heeds.ask (.item item) ungated ?_ fun same => nomatch same
      simp [Journal.offers, List.filterMap_cons, Event.offer?]
  | feedWaits _ _ ungated =>
      refine heeds.ask .pending ungated ?_ fun same => nomatch same
      simp [Journal.offers, Event.offer?]
  | feedEnds _ _ ungated =>
      refine heeds.ask .ended ungated ?_ fun _ => rfl
      simp [Journal.offers, Event.offer?]
  | stageFault taken | refusal taken | exhaustionFault taken | done taken
  | dropBranch taken | exhaust taken | branch taken =>
      refine heeds.stay ?_ taken.feedEnded
      simp only [Journal.offers, List.filterMap_append, List.filterMap_cons,
        List.filterMap_nil, List.append_nil, Event.offer?, told]
  | _ =>
      refine heeds.stay ?_ rfl
      simp only [Journal.offers, List.filterMap_append, List.filterMap_cons,
        List.filterMap_nil, List.append_nil, Event.offer?, told]

end Deeds

/-- A reply that gives up the work ends the flow. -/
theorem Next.ends_of_reply?
    {next : Next Resp Ctx Fault Refusal}
    {reply : Reply Resp Ctx Fault Refusal}
    (made : next.reply? = some reply)
    (abandons : reply.abandons = true) :
    next.ends = true := by
  have ends := Reply.ends_of_abandons abandons
  cases next with
  | go => cases made
  | stop result =>
      cases result with
      | item item =>
          cases made
          exact ends
      | _ => cases made

/-! ## Whence the events -/

namespace Reached

variable {env : Surroundings σ Req Resp Ctx Fault Refusal}
variable {start run : Run σ Req Resp Ctx Fault Refusal}
variable {position : Position}

/-- Everything that is noted was noted at a station, or it is that the flow was cancelled. -/
theorem noted_at
    (reached : Reached env start position run)
    (untouched : start.events = [])
    {earlier later : List (Event Req Resp Ctx Fault Refusal)}
    {event : Event Req Resp Ctx Fault Refusal}
    (split : run.events = earlier ++ event :: later) :
    (∃ inFlight pending, event = .cancelled inFlight pending) ∨
      ∃ station before next after,
        Reached env start (.within station) before ∧
          before.step env station = (next, after) ∧
          before.events <+: earlier ∧
          earlier ++ [event] <+: after.events := by
  induction reached generalizing later with
  | start =>
      rw [untouched] at split
      cases earlier <;> cases split
  | begin _ _ inductionHypothesis => exact inductionHypothesis split
  | @step before after station next reached stepped sound inductionHypothesis =>
      have whole : earlier ++ [event] <+: after.events := by
        rw [split]
        simp
      have grown := Run.events_prefix_of_step stepped
      rcases List.prefix_or_prefix_of_prefix whole grown with old | new
      · obtain ⟨rest, same⟩ := old
        rw [List.append_assoc] at same
        exact inductionHypothesis same.symm
      · rcases List.prefix_concat_iff.mp new with same | first
        · exact inductionHypothesis same
        · exact .inr ⟨station, before, next, after, reached, stepped, first, whole⟩
  | elapse _ _ inductionHypothesis => exact inductionHypothesis split
  | @cancel run _ inductionHypothesis =>
      have whole : earlier ++ [event] <+: (run.cancel env).events := by
        rw [split]
        simp
      rw [Run.events_cancel] at whole
      rcases List.prefix_concat_iff.mp whole with same | ⟨rest, old⟩
      · left
        have last := (List.append_inj' same rfl).2
        exact ⟨_, _, List.head_eq_of_cons_eq last⟩
      · rw [List.append_assoc] at old
        exact inductionHypothesis old.symm

/-- While slots are filled, nothing waits that was due at the last reading. -/
theorem promoted
    (reached : Reached env start position run)
    (fresh : start.flow.WellFormed)
    (stands : position = .within .fill) :
    Standstill.Promoted run.events run.flow := by
  induction reached with
  | start => cases stands
  | begin => cases stands
  | @step before after station next reached stepped sound inductionHypothesis =>
      cases next with
      | stop => cases stands
      | go next =>
          cases stands
          cases station with
          | promote =>
              cases stepped
              refine ⟨env.now before.outside, ?_, ?_⟩
              · simp [Run.events, Run.log, Journal.lastReading?, Event.reading?]
              · exact (reached.wellFormed fresh).ordered.undue_of_promoteDue _
          | fill =>
              obtain ⟨new, grown, promoted, _⟩ :=
                Standstill.Promoted.fill (inductionHypothesis rfl) (Run.fill_deed stepped)
              have grown : after.events = before.events ++ new := grown
              rw [grown]
              exact promoted
          | collect => rcases Run.collect_go stepped with ⟨same, _⟩ | ⟨same, _⟩ <;> cases same
          | timer => cases Run.timer_go stepped
  | elapse _ _ inductionHypothesis => exact inductionHypothesis stands
  | cancel => cases stands

section Fresh

variable {settings : Settings}
variable {random : ChaCha12}
variable {outside : σ}

/-- A flow that has not ended has kept its work. -/
theorem kept_of_running
    (reached :
      Reached env (Run.start (Flow.start settings random) outside) position run)
    (running : run.flow.terminated = false) :
    ¬ Journal.GaveUp run.events := by
  refine
    reached.keeps
      (fun scene => scene.flow.terminated = false → ¬ Journal.GaveUp scene.events)
      ?_ ?_ ?_ running
  · intro _ gaveUp
    cases gaveUp
  · intro station before label after _ _ runningBefore kept deed running
    rw [deed.terminated_eq runningBefore] at running
    rw [Journal.GaveUp, deed.gaveUp_eq, Bool.or_eq_true, not_or]
    refine ⟨kept runningBefore, ?_⟩
    intro gaveUp
    obtain ⟨reply, made, abandons⟩ := List.any_eq_true.mp gaveUp
    cases label with
    | none => cases made
    | some next =>
        have ends := Next.ends_of_reply? (Option.mem_toList.mp made) abandons
        rw [Option.any_some, ends] at running
        cases running
  · intro flow events _ running
    cases running

theorem heedsEnd
    (reached :
      Reached env (Run.start (Flow.start settings random) outside) position run) :
    (run.scene []).HeedsEnd := by
  refine reached.keeps (fun scene => scene.HeedsEnd) ?_ ?_ ?_
  · refine ⟨?_, .nil⟩
    intro told
    cases told
  · intro station before label after _ _ _ heeds deed
    exact deed.heedsEnd heeds
  · intro flow events heeds
    refine heeds.stay ?_ rfl
    simp [Journal.offers, List.filterMap_cons, Event.offer?]

end Fresh

end Reached

/-! ## The state in which the feed is asked -/

/-- Every retry that was due at the last reading of the clock has been handed to the stage. -/
def Journal.CaughtUp (events : List (Event Req Resp Ctx Fault Refusal)) : Prop :=
  ∃ now,
    lastReading? events = some now ∧
    ∀ entry ∈ scheduled events, entry.place.readyAt ≤ now → entry ∈ resubmitted events

/-- A flow that may ask its feed. -/
structure Flow.Asks
    (settings : Settings)
    (events : List (Event Req Resp Ctx Fault Refusal))
    (flow : Flow Req Ctx) :
    Prop where
  running : flow.terminated = false
  feeding : flow.feedEnded = false ∧ .ended ∉ Journal.offers events
  slot : flow.inFlightCount < settings.parallelism
  room : flow.pendingCount < settings.retryCapacity
  noneReady : flow.retries.ready = []
  caughtUp : Journal.CaughtUp events

/-- What comes of a run while it is not polled. -/
inductive Interlude (env : Surroundings σ Req Resp Ctx Fault Refusal) :
    Run σ Req Resp Ctx Fault Refusal →
    Run σ Req Resp Ctx Fault Refusal →
    Prop where
  | rest (run : Run σ Req Resp Ctx Fault Refusal) :
      Interlude env run run
  | elapse
      {run after : Run σ Req Resp Ctx Fault Refusal}
      (outside : σ)
      (interlude : Interlude env run after) :
      Interlude env run { after with outside := outside }
  | cancel
      {run after : Run σ Req Resp Ctx Fault Refusal}
      (interlude : Interlude env run after) :
      Interlude env run (after.cancel env)

/-- Without a poll nothing is taken from the feed, and nothing is handed to the stage. -/
theorem Interlude.quiet
    {env : Surroundings σ Req Resp Ctx Fault Refusal}
    {run after : Run σ Req Resp Ctx Fault Refusal}
    (interlude : Interlude env run after) :
    Journal.offers after.events = Journal.offers run.events ∧
      Journal.submissions after.events = Journal.submissions run.events := by
  induction interlude with
  | rest => exact ⟨rfl, rfl⟩
  | elapse _ _ inductionHypothesis => exact inductionHypothesis
  | cancel _ inductionHypothesis =>
      rw [Run.events_cancel]
      simpa [Journal.offers, Journal.submissions, List.filterMap_cons, Event.offer?,
        Event.submission?] using inductionHypothesis

/-- How a run deals with the feed. -/
structure Disciplined
    (env : Surroundings σ Req Resp Ctx Fault Refusal)
    (start : Run σ Req Resp Ctx Fault Refusal)
    (run : Run σ Req Resp Ctx Fault Refusal) :
    Prop where
  /-- Each time the feed is asked, that is in a state in which it may be. -/
  asked :
    ∀ earlier now offer later,
      run.events = earlier ++ .feedAsked now offer :: later →
      ∃ asking,
        Reached env start (.within .fill) asking ∧
          asking.events = earlier ∧
          (∃ left, env.pull asking.outside = (offer, left) ∧ env.now left = now) ∧
          asking.flow.Asks start.flow.settings earlier
  /-- Nothing is asked after the feed has ended. -/
  endsOnce :
    (Journal.offers run.events).Pairwise fun earlier _ => earlier ≠ .ended
  /-- Fresh work does not overtake a retry that is due. -/
  orderly :
    ∀ earlier now submission count later,
      run.events = earlier ++ .submitted now submission count :: later →
      submission.place = none →
      Journal.CaughtUp earlier
  /-- Without a poll nothing is taken from the feed, and nothing is handed to the stage. -/
  quiet :
    ∀ {after},
      Interlude env run after →
      Journal.offers after.events = Journal.offers run.events ∧
        Journal.submissions after.events = Journal.submissions run.events

namespace Reached

variable {env : Surroundings σ Req Resp Ctx Fault Refusal}
variable {settings : Settings}
variable {random : ChaCha12}
variable {outside : σ}
variable {position : Position}
variable {run : Run σ Req Resp Ctx Fault Refusal}

/-- What is due at the last reading and not with the stage waits or may be taken. -/
theorem caughtUp
    (reached :
      Reached env (Run.start (Flow.start settings random) outside) (.within .fill) run)
    (noneReady : run.flow.retries.ready = []) :
    Journal.CaughtUp run.events := by
  obtain ⟨now, last, undue⟩ := reached.promoted (.start settings random) rfl
  refine ⟨now, last, ?_⟩
  intro entry member due
  obtain ⟨lost, total, whole⟩ := reached.scheduled_balance
  rw [whole (reached.kept_of_running reached.running), add_zero] at total
  have among : entry ∈ run.flow.retries.entries +
      (Journal.resubmitted run.events : Multiset (Waiting (Attempt Req Ctx))) := by
    rw [← total]
    exact member
  rcases Multiset.mem_add.mp among with queued | served
  · rw [RetryQueue.entries, noneReady] at queued
    have early := undue entry (by simpa using queued)
    rw [Instant.lt_iff_nanos_lt] at early
    rw [Instant.le_iff_nanos_le] at due
    omega
  · exact served

/-- When the feed is asked, it may be. -/
theorem asks
    (reached :
      Reached env (Run.start (Flow.start settings random) outside) (.within .fill) run)
    (slot : run.flow.HasSlot)
    (noneReady : run.flow.retries.ready = [])
    (ungated : ¬ run.flow.Gated) :
    run.flow.Asks settings run.events := by
  have options : run.flow.settings = settings := reached.settings_eq
  constructor
  case running => exact reached.running
  case feeding =>
    constructor
    · cases ended : run.flow.feedEnded with
      | false => rfl
      | true => exact (ungated (.inl ended)).elim
    · intro told
      exact ungated (.inl (reached.heedsEnd.remembered told))
  case slot =>
    rw [← options]
    exact slot
  case room =>
    rw [← options]
    exact Nat.lt_of_not_le fun full => ungated (.inr full)
  case noneReady => exact noneReady
  case caughtUp => exact reached.caughtUp noneReady

/-- What comes in or goes out was noted where a slot was filled. -/
theorem filled_at
    (reached :
      Reached env (Run.start (Flow.start settings random) outside) position run)
    {earlier later : List (Event Req Resp Ctx Fault Refusal)}
    {event : Event Req Resp Ctx Fault Refusal}
    (split : run.events = earlier ++ event :: later)
    (conveys : event.conveys = true) :
    ∃ before next after between rest,
      Reached env (Run.start (Flow.start settings random) outside) (.within .fill) before ∧
        before.Fills env next after ∧
        earlier = before.events ++ between ∧
        after.events = before.events ++ (between ++ event :: rest) := by
  rcases reached.noted_at rfl split with
    ⟨_, _, rfl⟩ | ⟨station, before, next, after, stood, stepped, ⟨between, rfl⟩, rest, whole⟩
  · cases conveys
  · have grown : after.events = before.events ++ (between ++ event :: rest) := by
      rw [← whole]
      simp
    by_cases here : station = .fill
    · subst here
      exact ⟨before, next, after, between, rest, stood, Run.fills_of_step stepped, rfl, grown⟩
    · obtain ⟨owed, trail, _⟩ := Run.step_trail stepped
      have same := trail.conveys_of_fill here
      have same : after.events.filter Event.conveys = before.events.filter Event.conveys := same
      rw [grown, List.filter_append] at same
      have nothing := List.append_right_eq_self.mp same
      have among : event ∈ (between ++ event :: rest).filter Event.conveys := by
        simp [conveys]
      rw [nothing] at among
      cases among

theorem asked
    (reached :
      Reached env (Run.start (Flow.start settings random) outside) position run)
    {earlier later : List (Event Req Resp Ctx Fault Refusal)}
    {now : Instant}
    {offer : Offer Req Ctx}
    (split : run.events = earlier ++ .feedAsked now offer :: later) :
    ∃ asking,
      Reached env (Run.start (Flow.start settings random) outside) (.within .fill) asking ∧
        asking.events = earlier ∧
        (∃ left, env.pull asking.outside = (offer, left) ∧ env.now left = now) ∧
        asking.flow.Asks settings earlier := by
  obtain ⟨before, next, after, between, rest, stood, fills, rfl, grown⟩ :=
    reached.filled_at split rfl
  -- The feed is asked first of all, so the flow is still the one that came to the station.
  obtain ⟨rfl, slot, noneReady, ungated, offered⟩ := fills.of_asked grown
  rw [List.append_nil]
  exact ⟨before, stood, rfl, offered, stood.asks slot noneReady ungated⟩

theorem caughtUp_of_fresh
    (reached :
      Reached env (Run.start (Flow.start settings random) outside) position run)
    {earlier later : List (Event Req Resp Ctx Fault Refusal)}
    {now : Instant}
    {submission : Submission Req Ctx}
    {count : Nat}
    (split : run.events = earlier ++ .submitted now submission count :: later)
    (fresh : submission.place = none) :
    Journal.CaughtUp earlier := by
  obtain ⟨before, next, after, between, rest, stood, fills, rfl, grown⟩ :=
    reached.filled_at split rfl
  obtain ⟨noneReady, asked, offer, rfl⟩ := fills.of_admitted grown fresh
  obtain ⟨now, last, served⟩ := stood.caughtUp noneReady
  refine ⟨now, ?_, ?_⟩
  · simpa [Journal.lastReading?, Event.reading?] using last
  · simpa [Journal.scheduled, Journal.resubmitted, Journal.submissions, List.filterMap_cons,
      Event.scheduled?, Event.submission?] using served

/-- The feed is asked in the right states only, and fresh work overtakes no retry that is due. -/
theorem disciplined
    (reached :
      Reached env (Run.start (Flow.start settings random) outside) position run) :
    Disciplined env (Run.start (Flow.start settings random) outside) run where
  asked _ _ _ _ split := reached.asked split
  endsOnce := reached.heedsEnd.last
  orderly _ _ _ _ _ split fresh := reached.caughtUp_of_fresh split fresh
  quiet interlude := interlude.quiet

/-- The third number of a countdown is not asked for before the retries of two others. -/
theorem disciplined_countdown :
    let scenario := Scenario.countdown 9 [2, 1, 3]
    let env := Surroundings.leaping scenario
    let start : Run (Instant × List (WorkItem Nat Unit)) Nat Nat Unit Unit Unit :=
      Run.start (Flow.start (Settings.delayed 2) (ChaCha12.ofSeed 0)) (.zero, scenario.items)
    let (_, run) := Run.leapingly (Settings.delayed 2) scenario 5
    Reached env start .idle run ∧
      Disciplined env start run ∧
      Journal.offers run.events = [.item ⟨2, ()⟩, .item ⟨1, ()⟩, .item ⟨3, ()⟩] ∧
      (Journal.submissions run.events).map
          (fun submission => (submission.attempt.item.request, submission.attempt.number)) =
        [(2, 0), (1, 0), (1, 1), (0, 1), (0, 1), (0, 1), (0, 2), (0, 2), (3, 0)] := by
  have session := Session.leapingly (Settings.delayed 2) (Scenario.countdown 9 [2, 1, 3]) 5
  have reached := session.reached (by decide +kernel)
  exact ⟨reached, Reached.disciplined reached, by decide +kernel⟩

end Reached

end Resubmit
