import Resubmit.Proofs.Prompt

namespace Resubmit

/-!
# The end of a flow

A flow ends by itself, with a fault, or because it is cancelled.  Whichever it is, it
holds nothing afterwards, and whatever its caller does then, it does nothing any more.
By itself it ends only when the feed has ended and no work is left.
-/

variable {σ Req Resp Ctx Fault Refusal : Type}

/-! ## Flows that hold nothing -/

/-- A flow without a submission, without a retry and without an armed timer. -/
structure Flow.Drained (flow : Flow Req Ctx) : Prop where
  inFlight : flow.inFlight = []
  scheduled : flow.retries.scheduled = []
  ready : flow.retries.ready = []
  timer : flow.retries.timer = none

namespace Flow

theorem shutDown_drained (flow : Flow Req Ctx) : flow.shutDown.Drained where
  inFlight := rfl
  scheduled := rfl
  ready := rfl
  timer := rfl

/-- A flow with nothing left to wait for holds nothing once its timer is looked at. -/
theorem Settled.drained {flow : Flow Req Ctx} (settled : flow.Settled) :
    ({ flow with retries := flow.retries.rearmed, terminated := true } :
      Flow Req Ctx).Drained := by
  obtain ⟨_, noneInFlight, noRetries⟩ := settled
  have noneWaiting : flow.retries.scheduled = [] :=
    List.eq_nil_of_length_eq_zero (Nat.eq_zero_of_add_eq_zero_right noRetries)
  constructor
  · exact List.eq_nil_of_length_eq_zero noneInFlight
  · exact noneWaiting
  · exact List.eq_nil_of_length_eq_zero (Nat.eq_zero_of_add_eq_zero_left noRetries)
  · simp [RetryQueue.rearmed, RetryQueue.nextDeadline?, noneWaiting]

theorem Drained.shutDown_eq
    {flow : Flow Req Ctx}
    (drained : flow.Drained)
    (terminated : flow.terminated = true) :
    flow.shutDown = flow := by
  obtain ⟨noneInFlight, noneWaiting, noneReady, noTimer⟩ := drained
  rcases flow with ⟨_, _, _, _, _, ⟨_, _, _, _⟩, _⟩
  cases noneInFlight
  cases noneWaiting
  cases noneReady
  cases noTimer
  cases terminated
  rfl

end Flow

/-! ## Work that is given up -/

/-- Whether the flow gives up its work. -/
def Event.givesUp : Event Req Resp Ctx Fault Refusal → Bool
  | .aborted .. => true
  | .cancelled .. => true
  | _ => false

/-- Whether the flow has given up work, because of a fault or because it was cancelled. -/
def Journal.GaveUp (events : List (Event Req Resp Ctx Fault Refusal)) : Prop :=
  events.any Event.givesUp = true

instance (events : List (Event Req Resp Ctx Fault Refusal)) :
    Decidable (Journal.GaveUp events) :=
  inferInstanceAs (Decidable (_ = true))

/-- Whether the flow gave up its work before it made the reply. -/
def Reply.abandons : Reply Resp Ctx Fault Refusal → Bool
  | .polled (.item (.error _)) => true
  | .cancelled => true
  | _ => false

/-- Work is given up with an error or by cancelling. -/
theorem Reply.eq_of_abandons
    {reply : Reply Resp Ctx Fault Refusal}
    (abandons : reply.abandons = true) :
    reply = .cancelled ∨ ∃ error, reply = .polled (.item (.error error)) := by
  cases reply with
  | cancelled => exact .inl rfl
  | polled result =>
      cases result with
      | item item =>
          cases item with
          | ok => cases abandons
          | error error => exact .inr ⟨error, rfl⟩
      | _ => cases abandons

theorem Reply.ends_of_abandons
    {reply : Reply Resp Ctx Fault Refusal}
    (abandons : reply.abandons = true) :
    reply.ends = true := by
  rcases eq_of_abandons abandons with rfl | ⟨error, rfl⟩
  · rfl
  · rfl

section Deeds

variable {env : Surroundings σ Req Resp Ctx Fault Refusal}
variable {station : Station}
variable {before after : Scene Req Resp Ctx Fault Refusal}
variable {next : Option (Next Resp Ctx Fault Refusal)}

/-- A flow holds nothing after a deed that ends it. -/
theorem Deed.drained
    (deed : Deed env station before next after)
    (ended : next.any Next.ends = true) :
    after.flow.Drained := by
  cases deed with
  | stageFault | refusal | exhaustionFault => exact Flow.shutDown_drained _
  | finish settled => exact settled.drained
  | _ => simp [Next.ends, PollResult.ends] at ended

theorem Trail.drained
    {next : Next Resp Ctx Fault Refusal}
    (trail : Trail env station before next after)
    (ended : next.ends = true) :
    after.flow.Drained := by
  induction trail with
  | last deed => exact deed.drained ended
  | more _ _ inductionHypothesis => exact inductionHypothesis ended

/-- A deed that ends a flow gives up its work or finds that the feed has ended. -/
theorem Deed.gaveUp_or_feedEnded
    (deed : Deed env station before next after)
    (ended : next.any Next.ends = true) :
    Journal.GaveUp after.events ∨ after.flow.feedEnded = true := by
  cases deed with
  | stageFault | refusal | exhaustionFault =>
      exact .inl (by simp [Journal.GaveUp, Event.givesUp])
  | finish settled => exact .inr settled.1
  | _ => simp [Next.ends, PollResult.ends] at ended

theorem Deed.events_prefix (deed : Deed env station before next after) :
    before.events <+: after.events := by
  cases deed <;> simp

theorem Trail.events_prefix
    {next : Next Resp Ctx Fault Refusal}
    (trail : Trail env station before next after) :
    before.events <+: after.events := by
  induction trail with
  | last deed => exact deed.events_prefix
  | more deed _ inductionHypothesis => exact deed.events_prefix.trans inductionHypothesis

theorem Run.events_prefix_of_step
    {run after : Run σ Req Resp Ctx Fault Refusal}
    {next : Next Resp Ctx Fault Refusal}
    (stepped : run.step env station = (next, after)) :
    run.events <+: after.events := by
  obtain ⟨owed, trail, _⟩ := step_trail stepped
  exact trail.events_prefix

/-- The feed has ended after a deed only if it had before or has just said so. -/
theorem Deed.feedEnded_asked
    (deed : Deed env station before next after)
    (ended : after.flow.feedEnded = true) :
    before.flow.feedEnded = true ∨ ∃ now, .feedAsked now .ended ∈ after.events := by
  cases deed with
  | feedEnds => exact .inr ⟨_, List.mem_append_right _ (List.mem_singleton_self _)⟩
  | stageFault taken | refusal taken | exhaustionFault taken =>
      exact .inl (taken.feedEnded.symm.trans ended)
  | done taken | dropBranch taken | exhaust taken | branch taken =>
      exact .inl (taken.feedEnded.symm.trans ended)
  | _ => exact .inl ended

/-- Work is given up with the replies that say so, and with no other. -/
theorem Deed.gaveUp_eq
    (deed : Deed env station before next after) :
    after.events.any Event.givesUp =
      (before.events.any Event.givesUp ||
        (next.bind Next.reply?).toList.any Reply.abandons) := by
  cases deed <;>
    simp [Event.givesUp, Next.reply?, Reply.noted?, Reply.abandons,
      Flow.any_told Event.givesUp fun _ _ => rfl]

/-- A deed keeps it that work is given up with the replies that say so. -/
theorem Deed.gaveUp_noted
    (deed : Deed env station before next after)
    (noted :
      before.events.any Event.givesUp =
        (before.events.filterMap Event.reply?).any Reply.abandons) :
    after.events.any Event.givesUp =
      (after.events.filterMap Event.reply?).any Reply.abandons := by
  rw [deed.gaveUp_eq, deed.noted_eq, List.any_append, noted]

end Deeds

namespace Session

variable {env : Surroundings σ Req Resp Ctx Fault Refusal}
variable {start run : Run σ Req Resp Ctx Fault Refusal}
variable {replies : List (Reply Resp Ctx Fault Refusal)}

theorem drained
    (session : Session env start replies run)
    (running : start.flow.terminated = false)
    (terminated : run.flow.terminated = true) :
    run.flow.Drained := by
  refine
    session.keeps
      (fun flow _ => flow.terminated = true → flow.Drained)
      ?_ ?_ ?_ terminated
  · intro terminated
    rw [running] at terminated
    cases terminated
  · intro station before next after running _ deed terminated
    apply deed.drained
    rw [← deed.terminated_eq running]
    exact terminated
  · intro flow _ _ _
    exact flow.shutDown_drained

theorem asked
    (session : Session env start replies run)
    (feeding : start.flow.feedEnded = false)
    (ended : run.flow.feedEnded = true) :
    ∃ now, .feedAsked now .ended ∈ run.events := by
  refine
    session.keeps
      (fun flow events =>
        flow.feedEnded = true → ∃ now, .feedAsked now .ended ∈ events)
      ?_ ?_ ?_ ended
  · intro ended
    rw [feeding] at ended
    cases ended
  · intro station before next after _ holds deed ended
    rcases deed.feedEnded_asked ended with endedBefore | asked
    · obtain ⟨now, member⟩ := holds endedBefore
      exact ⟨now, deed.events_prefix.subset member⟩
    · exact asked
  · intro flow events holds ended
    obtain ⟨now, member⟩ := holds ended
    exact ⟨now, List.mem_append_left _ member⟩

theorem gaveUp_or_feedEnded
    (session : Session env start replies run)
    (running : start.flow.terminated = false)
    (terminated : run.flow.terminated = true) :
    Journal.GaveUp run.events ∨ run.flow.feedEnded = true := by
  refine
    session.keeps
      (fun flow events =>
        flow.terminated = true → Journal.GaveUp events ∨ flow.feedEnded = true)
      ?_ ?_ ?_ terminated
  · intro terminated
    rw [running] at terminated
    cases terminated
  · intro station before next after running _ deed terminated
    apply deed.gaveUp_or_feedEnded
    rw [← deed.terminated_eq running]
    exact terminated
  · intro flow events _ _
    exact .inl (by simp [Journal.GaveUp, Event.givesUp])

/-- A flow has given up work exactly when one of the replies says so. -/
theorem gaveUp_iff
    (session : Session env start replies run)
    (untouched : start.events = []) :
    Journal.GaveUp run.events ↔ ∃ reply ∈ replies, reply.abandons = true := by
  have noted :
      run.events.any Event.givesUp =
        (run.events.filterMap Event.reply?).any Reply.abandons := by
    refine
      session.keeps
        (fun _ events =>
          events.any Event.givesUp = (events.filterMap Event.reply?).any Reply.abandons)
        ?_ ?_ ?_
    · rw [untouched]
      rfl
    · intro station before next after _ noted deed
      exact deed.gaveUp_noted noted
    · intro flow events holds
      simp [Event.givesUp, Event.reply?, Reply.abandons]
  rw [Journal.GaveUp, noted, session.noted_eq, untouched]
  simp only [List.filterMap_nil, List.nil_append, List.any_eq_true, List.mem_filterMap]
  constructor
  · rintro ⟨_, ⟨reply, member, told⟩, abandons⟩
    rcases reply with (_ | _ | _ | _) | _ <;> cases told
    · exact ⟨_, member, abandons⟩
    · exact ⟨_, member, abandons⟩
  · rintro ⟨reply, member, abandons⟩
    refine ⟨reply, ⟨reply, member, ?_⟩, abandons⟩
    rcases Reply.eq_of_abandons abandons with rfl | ⟨error, rfl⟩
    · rfl
    · rfl

end Session

/-! ## After the end -/

/-- Whether the reply is one that a flow makes that has ended: the end, or that it was cancelled. -/
def Reply.Silent (reply : Reply Resp Ctx Fault Refusal) : Prop :=
  reply = .polled .ended ∨ reply = .cancelled

/-- Whether no reply is made after one that ends the flow, other than silent ones. -/
def Session.Ordered (replies : List (Reply Resp Ctx Fault Refusal)) : Prop :=
  replies.Pairwise fun earlier later => earlier.ends = true → later.Silent

/--
A run of a flow that has ended for good.

No call made to it submits, asks the feed, judges, calls the hook or draws a random
number: the journal has no such event any more, and the source of the jitter stays.
-/
structure Run.Absorbed
    (env : Surroundings σ Req Resp Ctx Fault Refusal)
    (run : Run σ Req Resp Ctx Fault Refusal) :
    Prop where
  terminated : run.flow.terminated = true
  noneInFlight : run.flow.inFlightCount = 0
  nonePending : run.flow.pendingCount = 0
  /-- A poll is told of the end and does nothing, whatever has changed outside. -/
  polls :
    ∀ outside budget,
      Run.poll env budget { run with outside := outside } =
        (some .ended, { run with outside := outside })
  /-- Cancelling leaves the flow as it is. -/
  cancels : (run.cancel env).flow = run.flow
  /-- After any further calls the flow is the same, and only cancellings were noted. -/
  later :
    ∀ {replies after},
      Session env run replies after →
      (∀ reply ∈ replies, reply.Silent) ∧
        after.flow = run.flow ∧
        ∃ count, after.events = run.events ++ List.replicate count (.cancelled 0 0)

section Absorbing

variable {env : Surroundings σ Req Resp Ctx Fault Refusal}
variable {start run : Run σ Req Resp Ctx Fault Refusal}
variable {replies : List (Reply Resp Ctx Fault Refusal)}

namespace Flow.Drained

variable {flow : Flow Req Ctx}

theorem inFlightCount_eq (drained : flow.Drained) : flow.inFlightCount = 0 := by
  rw [inFlightCount, drained.inFlight]
  rfl

theorem pendingCount_eq (drained : flow.Drained) : flow.pendingCount = 0 := by
  rw [pendingCount, RetryQueue.size, drained.scheduled, drained.ready]
  rfl

end Flow.Drained

/-- A run of a flow that has ended and holds nothing has ended for good. -/
theorem Flow.Drained.absorbed
    (drained : run.flow.Drained)
    (terminated : run.flow.terminated = true) :
    run.Absorbed env where
  terminated := terminated
  noneInFlight := drained.inFlightCount_eq
  nonePending := drained.pendingCount_eq
  polls _ budget := by
    refine Run.poll_of_terminated ?_ budget
    exact terminated
  cancels := drained.shutDown_eq terminated
  later session := by
    induction session with
    | start =>
        exact ⟨by simp, rfl, 0, by simp⟩
    | @poll replies after _ _ result _ polled inductionHypothesis =>
        obtain ⟨silent, same, count, noted⟩ := inductionHypothesis
        rw [Run.poll_of_terminated (same ▸ terminated)] at polled
        cases polled
        refine ⟨?_, same, count, noted⟩
        intro reply member
        rcases List.mem_append.mp member with earlier | last
        · exact silent reply earlier
        · exact .inl (List.mem_singleton.mp last)
    | @cancel replies after _ inductionHypothesis =>
        obtain ⟨silent, same, count, noted⟩ := inductionHypothesis
        refine ⟨?_, ?_, count + 1, ?_⟩
        · intro reply member
          rcases List.mem_append.mp member with earlier | last
          · exact silent reply earlier
          · exact .inr (List.mem_singleton.mp last)
        · exact (congrArg Flow.shutDown same).trans (drained.shutDown_eq terminated)
        · rw [Run.events_cancel, noted, same, drained.inFlightCount_eq,
            drained.pendingCount_eq, List.replicate_succ', List.append_assoc]
    | elapse _ _ inductionHypothesis =>
        exact inductionHypothesis

namespace Session

/-- Only silent replies are made after one that ends the flow. -/
theorem ordered (session : Session env start replies run) : Ordered replies := by
  induction session with
  | start => exact .nil
  | @poll replies run after _ result session polled inductionHypothesis =>
      refine List.pairwise_append.mpr ⟨inductionHypothesis, List.pairwise_singleton _ _, ?_⟩
      intro earlier member last isLast ends
      cases List.mem_singleton.mp isLast
      have terminated : run.flow.terminated = true := by
        rw [session.terminated_eq, Bool.or_eq_true, List.any_eq_true]
        exact .inr ⟨earlier, member, ends⟩
      rw [Run.poll_of_terminated terminated] at polled
      cases polled
      exact .inl rfl
  | cancel _ inductionHypothesis =>
      refine List.pairwise_append.mpr ⟨inductionHypothesis, List.pairwise_singleton _ _, ?_⟩
      intro earlier _ last isLast _
      exact .inr (List.mem_singleton.mp isLast)
  | elapse _ _ inductionHypothesis =>
      exact inductionHypothesis

theorem items_of_silent (silent : ∀ reply ∈ replies, reply.Silent) : items replies = [] := by
  apply List.filterMap_eq_nil_iff.mpr
  intro reply member
  rcases silent reply member with same | same <;> rw [same] <;> rfl

/-- Replies in order give out outcomes, and after them one error at most. -/
theorem Ordered.items_eq
    (ordered : Ordered replies) :
    ∃ (outcomes : List (Outcome Resp Ctx)) (error? : Option (FlowError Fault Refusal)),
      items replies = outcomes.map .ok ++ (error?.map .error).toList := by
  induction replies with
  | nil => exact ⟨[], none, rfl⟩
  | cons reply rest inductionHypothesis =>
      obtain ⟨silenced, later⟩ := List.pairwise_cons.mp ordered
      obtain ⟨outcomes, error?, given⟩ := inductionHypothesis later
      cases shown : reply.item? with
      | none =>
          refine ⟨outcomes, error?, ?_⟩
          rw [← given]
          exact List.filterMap_cons_none shown
      | some item =>
          have first : items (reply :: rest) = item :: items rest :=
            List.filterMap_cons_some shown
          cases item with
          | ok outcome =>
              exact ⟨outcome :: outcomes, error?, by rw [first, given]; rfl⟩
          | error error =>
              have ends : reply.ends = true := by
                rcases reply with (_ | _ | _ | _) | _ <;> cases shown
                rfl
              have nothing : items rest = [] :=
                items_of_silent fun reply member => silenced reply member ends
              exact ⟨[], some error, by rw [first, nothing]; rfl⟩

/--
A flow stops for good with its first error, by itself, or when it is cancelled.

It gives out outcomes and after them one error at most.  After a reply that ends it
nothing happens any more.  If it ends by itself, the feed has ended, nothing has been
given up and no work is left.
-/
theorem failStop
    {settings : Settings}
    {random : ChaCha12}
    {outside : σ}
    (session : Session env (Run.start (Flow.start settings random) outside) replies run) :
    (∃ (outcomes : List (Outcome Resp Ctx)) (error? : Option (FlowError Fault Refusal)),
      items replies = outcomes.map .ok ++ (error?.map .error).toList) ∧
    Ordered replies ∧
    ((∃ reply ∈ replies, reply.ends = true) → run.Absorbed env) ∧
    ∀ earlier,
      replies = earlier ++ [.polled .ended] →
      (∀ reply ∈ earlier, reply.ends = false) →
      run.flow.Drained ∧
        ¬ Journal.GaveUp run.events ∧
        ∃ now, .feedAsked now .ended ∈ run.events := by
  have ended (final : ∃ reply ∈ replies, reply.ends = true) :
      run.flow.terminated = true := by
    rw [session.terminated_eq, Bool.or_eq_true, List.any_eq_true]
    exact .inr final
  refine ⟨session.ordered.items_eq, session.ordered, ?_, ?_⟩
  · intro final
    exact (session.drained rfl (ended final)).absorbed (ended final)
  · intro earlier split going
    have terminated : run.flow.terminated = true :=
      ended ⟨.polled .ended, by simp [split], rfl⟩
    have kept : ¬ Journal.GaveUp run.events := by
      rw [session.gaveUp_iff rfl]
      rintro ⟨reply, member, abandons⟩
      have ends := Reply.ends_of_abandons abandons
      rw [split] at member
      rcases List.mem_append.mp member with before | last
      · rw [going reply before] at ends
        cases ends
      · cases List.mem_singleton.mp last
        cases abandons
    have feedEnded : run.flow.feedEnded = true :=
      (session.gaveUp_or_feedEnded rfl terminated).resolve_left kept
    exact ⟨session.drained rfl terminated, kept, session.asked rfl feedEnded⟩

/-- A flow that counts down from a number that the stage cannot answer to stops for good. -/
theorem failStop_countdown :
    let (replies, run) :=
      Run.promptly (Settings.undelayed 3 .emitLast) (Scenario.countdown 7 [1, 8, 2]) 9
    run.Absorbed (Surroundings.prompt (Scenario.countdown 7 [1, 8, 2])) ∧
      (items replies).map Except.toOption =
        [some ⟨0, (), 2, false⟩, some ⟨0, (), 2, false⟩, none] := by
  have session :=
    promptly (Settings.undelayed 3 .emitLast) (Scenario.countdown 7 [1, 8, 2]) 9
  exact ⟨session.failStop.2.2.1 (by decide +kernel), by decide +kernel⟩

end Session

end Absorbing

end Resubmit
