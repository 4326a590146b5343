import Resubmit.Proofs.Admission
import Resubmit.Proofs.Extent

namespace Resubmit

/-!
# Every poll returns

A poll that goes on for another round has got something done in the last one: a submission was
made or answered, the timer went off, or the feed ended.  What the feed gives bounds how often
that can be in a whole run, and so no poll goes on forever.
-/

variable {σ Req Resp Ctx Fault Refusal : Type}

/-- Whether something got done of which a run has only so much to do. -/
def Event.advances : Event Req Resp Ctx Fault Refusal → Bool
  | .submitted .. => true
  | .answered .. => true
  | .timerFired _ => true
  | .feedAsked _ .ended => true
  | _ => false

/-- The instant, if the timer went off. -/
def Event.firing? : Event Req Resp Ctx Fault Refusal → Option Instant
  | .timerFired now => some now
  | _ => none

/-- Whether the feed had nothing more to offer. -/
def Offer.isEnd : Offer Req Ctx → Bool
  | .ended => true
  | _ => false

namespace Journal

/-- How often something got done. -/
def progress (events : List (Event Req Resp Ctx Fault Refusal)) : Nat :=
  events.countP Event.advances

/-- The instants at which the timer went off. -/
def firings (events : List (Event Req Resp Ctx Fault Refusal)) : List Instant :=
  events.filterMap Event.firing?

variable {earlier later : List (Event Req Resp Ctx Fault Refusal)}

theorem progress_le_of_prefix (grown : earlier <+: later) :
    progress earlier ≤ progress later :=
  grown.sublist.countP_le

theorem progress_lt_of_prefix
    {event : Event Req Resp Ctx Fault Refusal}
    (grown : earlier ++ [event] <+: later)
    (advances : event.advances = true) :
    progress earlier < progress later := by
  have least := progress_le_of_prefix grown
  rwa [progress, List.countP_append, List.countP_singleton, if_pos advances] at least

theorem progress_eq (events : List (Event Req Resp Ctx Fault Refusal)) :
    progress events =
      (submissions events).length + (answers events).length + (firings events).length +
        (offers events).countP Offer.isEnd := by
  unfold progress submissions answers firings offers
  induction events with
  | nil => rfl
  | cons event rest inductionHypothesis =>
      cases event with
      | feedAsked now offer =>
          cases offer <;>
            simp [List.countP_cons, List.filterMap_cons, Event.advances, Event.submission?,
              Event.answer?, Event.firing?, Event.offer?, Offer.isEnd] <;>
            omega
      | _ =>
          simp [List.countP_cons, List.filterMap_cons, Event.advances, Event.submission?,
            Event.answer?, Event.firing?, Event.offer?]
          omega

end Journal

theorem Offer.countP_isEnd_le
    {offers : List (Offer Req Ctx)}
    (last : offers.Pairwise fun earlier _ => earlier ≠ .ended) :
    offers.countP isEnd ≤ 1 := by
  induction offers with
  | nil => exact Nat.zero_le 1
  | cons offer rest inductionHypothesis =>
      obtain ⟨first, others⟩ := List.pairwise_cons.mp last
      cases rest with
      | nil => exact List.countP_le_length
      | cons next rest =>
          have going : offer ≠ .ended := first next List.mem_cons_self
          cases offer with
          | ended => exact (going rfl).elim
          | item | pending => exact inductionHypothesis others

/-! ## The stations of a round -/

/-- How many stations of the round are still to come. -/
def Station.rank : Station → Nat
  | .promote => 3
  | .fill => 2
  | .collect => 1
  | .timer => 0

namespace Run

variable {env : Surroundings σ Req Resp Ctx Fault Refusal}
variable {start run after stood : Run σ Req Resp Ctx Fault Refusal}
variable {station : Station}

/-- Each station leads to a later one of the same round, or something gets done at it. -/
theorem step_advances (stepped : run.step env station = (.go next, after)) :
    next.rank < station.rank ∨
      Journal.progress run.events < Journal.progress after.events := by
  cases station with
  | promote =>
      cases stepped
      exact .inl (by decide)
  | fill =>
      cases fills_of_step stepped with
      | leaveFeed | feedWaits => exact .inl (by decide)
      | resubmit =>
          right
          rw [events_submit]
          exact Journal.progress_lt_of_prefix List.prefix_rfl rfl
      | pull =>
          right
          rw [events_pull]
          simp [Journal.progress, Event.advances]
      | feedEnds =>
          right
          change _ < Journal.progress (run.asked env .ended _).events
          rw [events_asked]
          exact Journal.progress_lt_of_prefix List.prefix_rfl rfl
  | collect =>
      rcases collect_go stepped with ⟨_, now, submission, answer, grown⟩ | ⟨rfl, _⟩
      · exact .inr (Journal.progress_lt_of_prefix grown rfl)
      · exact .inl (by decide)
  | timer =>
      right
      have deed := lookAtTimer_deed stepped
      generalize shown : after.scene [] = scene at deed
      cases deed with
      | timerFires =>
          have grown := congrArg Scene.events shown
          change after.events = _ at grown
          rw [grown]
          exact Journal.progress_lt_of_prefix List.prefix_rfl rfl

/-- A walk that has no result has used its budget up on what it got done. -/
theorem budget_le
    {budget : Nat}
    (walked : run.walk env budget station = (none, stood)) :
    budget + 4 * Journal.progress run.events ≤
      4 * Journal.progress stood.events + station.rank := by
  induction budget generalizing station run with
  | zero =>
      cases walked
      omega
  | succ budget inductionHypothesis =>
      rcases stepped : run.step env station with ⟨next, between⟩
      cases next with
      | stop result =>
          simp only [walk, stepped] at walked
          cases walked
      | go next =>
          simp only [walk, stepped] at walked
          have rest := inductionHypothesis walked
          have kept := Journal.progress_le_of_prefix (events_prefix_of_step stepped)
          have last : next.rank ≤ 3 := by cases next <;> decide
          -- What got done pays for a whole round, and otherwise fewer stations are left.
          rcases step_advances stepped with nearer | advanced
          · omega
          · omega

/-- A walk that has no result still stands at one of the stations. -/
theorem reached_of_walk
    {budget : Nat}
    (reached : Reached env start (.within station) run)
    (walked : run.walk env budget station = (none, stood)) :
    ∃ left, Reached env start (.within left) stood := by
  induction budget generalizing station run with
  | zero =>
      cases walked
      exact ⟨station, reached⟩
  | succ budget inductionHypothesis =>
      rcases stepped : run.step env station with ⟨next, between⟩
      cases next with
      | stop result =>
          simp only [walk, stepped] at walked
          cases walked
      | go next =>
          simp only [walk, stepped] at walked
          exact inductionHypothesis (reached.step stepped rfl) walked

end Run

/-! ## How often the timer goes off -/

theorem RetryQueue.length_scheduled_promoteDue_le (queue : RetryQueue α) (now : Instant) :
    (queue.promoteDue now).2.scheduled.length ≤ queue.scheduled.length :=
  (List.dropWhile_sublist _).length_le

/-- When the timer goes off, the retry for which it was set waits no longer. -/
theorem RetryQueue.length_scheduled_pollTimer_lt
    {queue : RetryQueue α}
    {deadline : Instant}
    (armed : queue.nextDeadline? = some deadline)
    (now : Instant) :
    (queue.pollTimer true now).2.scheduled.length < queue.scheduled.length := by
  cases waiting : queue.scheduled with
  | nil => simp [nextDeadline?, waiting] at armed
  | cons first others =>
      have due : isDue (max now deadline) first = true := by
        have same : first.place.readyAt = deadline := by
          simpa [nextDeadline?, waiting] using armed
        rw [isDue, same, decide_eq_true_eq, Instant.le_iff_nanos_le, Instant.nanos_max]
        exact Nat.le_max_right _ _
      simp only [pollTimer, armed, ↓reduceIte, promoteDue, waiting, List.dropWhile_cons, due]
      exact Nat.lt_succ_of_le (List.dropWhile_sublist _).length_le

/-- Each time the timer went off, at least one of the retries that were scheduled was let go. -/
def Scene.Discharged (scene : Scene Req Resp Ctx Fault Refusal) : Prop :=
  (Journal.firings scene.events).length + scene.flow.retries.scheduled.length ≤
    (Journal.scheduled scene.events).length

theorem Deed.discharged
    {env : Surroundings σ Req Resp Ctx Fault Refusal}
    {station : Station}
    {before after : Scene Req Resp Ctx Fault Refusal}
    {next : Option (Next Resp Ctx Fault Refusal)}
    (deed : Deed env station before next after)
    (discharged : before.Discharged) :
    after.Discharged := by
  have toldFiring :=
    Flow.filterMap_told
      (Event.firing? : Event Req Resp Ctx Fault Refusal → _)
      fun _ _ => rfl
  have toldScheduled :=
    Flow.filterMap_told
      (Event.scheduled? : Event Req Resp Ctx Fault Refusal → _)
      fun _ _ => rfl
  unfold Scene.Discharged Journal.firings Journal.scheduled at *
  cases deed with
  | @promote flow _ outside =>
      have fewer := flow.retries.length_scheduled_promoteDue_le (env.now outside)
      simp only [List.filterMap_append, List.filterMap_cons, List.filterMap_nil,
        List.append_nil, Event.firing?, Event.scheduled?] at discharged ⊢
      omega
  | resubmit _ _ popped =>
      simpa [List.filterMap_cons, Event.firing?, Event.scheduled?, Flow.launch,
        RetryQueue.scheduled_of_popReady? popped] using discharged
  | schedule _ _ scheduled =>
      obtain ⟨placed, queue⟩ := RetryQueue.eq_of_schedule? scheduled
      simp only [List.filterMap_append, List.filterMap_cons, List.filterMap_nil,
        Event.firing?, Event.scheduled?, toldFiring, toldScheduled, List.nil_append,
        List.append_nil, List.length_append, List.length_singleton, queue,
        RetryQueue.length_insert] at discharged ⊢
      omega
  | @timerFires flow _ _ _ later armed =>
      have fewer := RetryQueue.length_scheduled_pollTimer_lt armed (env.now later)
      simp only [List.filterMap_append, List.filterMap_cons, List.filterMap_nil,
        List.append_nil, Event.firing?, Event.scheduled?, List.length_append,
        List.length_singleton] at discharged ⊢
      omega
  | stageFault taken | refusal taken | exhaustionFault taken =>
      simp only [List.filterMap_append, List.filterMap_cons, List.filterMap_nil,
        List.append_nil, Event.firing?, Event.scheduled?, toldFiring, toldScheduled,
        Flow.shutDown, RetryQueue.clear]
      exact Nat.le_of_add_right_le discharged
  | done taken | dropBranch taken | exhaust taken | branch taken =>
      simp only [List.filterMap_append, List.filterMap_cons, List.filterMap_nil,
        List.append_nil, Event.firing?, Event.scheduled?, toldFiring, toldScheduled,
        taken.retries]
      exact discharged
  | _ =>
      simpa [List.filterMap_cons, Event.firing?, Event.scheduled?, toldFiring, toldScheduled,
        Flow.launch, RetryQueue.rearmed] using discharged

/-! ## How much gets done in a run -/

namespace Reached

variable {env : Surroundings σ Req Resp Ctx Fault Refusal}
variable {settings : Settings}
variable {random : ChaCha12}
variable {outside : σ}
variable {position : Position}
variable {run : Run σ Req Resp Ctx Fault Refusal}
variable {width count : Nat}

theorem length_firings_le
    (reached :
      Reached env (Run.start (Flow.start settings random) outside) position run) :
    (Journal.firings run.events).length ≤ (Journal.scheduled run.events).length := by
  have discharged : (run.scene []).Discharged := by
    refine reached.keeps (fun scene => scene.Discharged) ?_ ?_ ?_
    · exact Nat.le_refl 0
    · intro station before label after _ _ _ discharged deed
      exact deed.discharged discharged
    · intro flow events discharged
      simpa [Scene.Discharged, Journal.firings, Journal.scheduled, List.filterMap_cons,
        Event.firing?, Event.scheduled?, Flow.shutDown, RetryQueue.clear] using
        Nat.le_of_add_right_le discharged
  exact Nat.le_of_add_right_le discharged

/-- What the feed gives bounds how much a run gets done. -/
theorem progress_le
    (reached :
      Reached env (Run.start (Flow.start settings random) outside) position run)
    (narrow : Journal.Narrow width run.events)
    (fed : (Journal.pulled run.events).length ≤ count) :
    Journal.progress run.events ≤ 3 * (count * settings.treeSize width) + 1 := by
  have entered := reached.length_entered_le narrow fed
  have submissions := reached.length_submissions_le
  have answers := reached.length_answers_le
  have scheduled := reached.length_scheduled_le
  have firings := reached.length_firings_le
  have ends := Offer.countP_isEnd_le reached.heedsEnd.last
  change List.countP Offer.isEnd (Journal.offers run.events) ≤ 1 at ends
  rw [Journal.progress_eq]
  omega

/-- A poll returns that takes only so many items from the feed, however far it goes. -/
theorem exists_poll
    (few :
      ∀ outside response context items,
        (env.classify outside response context).1 = .ok (.retryWith items) →
        items.length ≤ width)
    (reached :
      Reached env (Run.start (Flow.start settings random) outside) .idle run)
    (fed :
      ∀ budget, (Journal.pulled (run.poll env budget).2.events).length ≤ count) :
    ∃ budget result after, run.poll env budget = (some result, after) := by
  let most := 3 * (count * settings.treeSize width) + 1
  let budget := 4 * most + 4
  rcases polled : run.poll env budget with ⟨_ | result, after⟩
  · cases terminated : run.flow.terminated with
    | true =>
        rw [Run.poll_of_terminated terminated] at polled
        cases polled
    | false =>
        have walked : run.walk env budget .promote = (none, after) := by
          simpa [Run.poll, terminated] using polled
        obtain ⟨left, standing⟩ := Run.reached_of_walk (reached.begin terminated) walked
        have spent := Run.budget_le walked
        have fed := fed budget
        rw [polled] at fed
        have bounded := standing.progress_le (standing.narrow few) fed
        have rank : Station.promote.rank = 3 := rfl
        omega
  · exact ⟨budget, result, after, polled⟩

end Reached

end Resubmit
