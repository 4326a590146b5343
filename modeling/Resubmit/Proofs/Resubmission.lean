import Mathlib.Data.List.TakeWhile
import Resubmit.Proofs.Lineage
import Resubmit.Proofs.Standstill

namespace Resubmit

/-!
# The order of resubmissions

A retry gets its place when it is scheduled, and it leaves the queue in a batch with others
that are due.  Which batch that is depends on when the flow is polled and on what the timer
says.  On a clock that never goes back, with a timer that is never early, the batches fit
together all the same: over the whole run retries are handed to the stage in the order of
their places.
-/

variable {σ Req Resp Ctx Fault Refusal : Type}

/-! ## The clock and the timer -/

/-- A timer that has gone off has reached its deadline by the clock. -/
def Surroundings.Punctual (env : Surroundings σ Req Resp Ctx Fault Refusal) : Prop :=
  ∀ (outside later : σ) (deadline : Instant),
    env.timerFired outside deadline = (true, later) →
    deadline ≤ env.now later

/-- The instant of an event, if it has one. -/
def Event.instant? : Event Req Resp Ctx Fault Refusal → Option Instant
  | .roundBegun now => some now
  | .feedAsked now _ => some now
  | .submitted now _ _ => some now
  | .answered now _ _ => some now
  | .judged now _ _ _ => some now
  | .notified now _ => some now
  | .timerFired now => some now
  | _ => none

namespace Journal

/-- The instants of the events, in order. -/
def instants (events : List (Event Req Resp Ctx Fault Refusal)) : List Instant :=
  events.filterMap Event.instant?

/-- The clock never went back. -/
def Forward (events : List (Event Req Resp Ctx Fault Refusal)) : Prop :=
  (instants events).Pairwise (· ≤ ·)

instance (events : List (Event Req Resp Ctx Fault Refusal)) : Decidable (Forward events) :=
  inferInstanceAs (Decidable (List.Pairwise _ _))

namespace Forward

variable {earlier later events : List (Event Req Resp Ctx Fault Refusal)}

theorem of_prefix (forward : Forward events) (first : earlier <+: events) :
    Forward earlier :=
  List.Pairwise.sublist (first.sublist.filterMap _) forward

/-- No instant of what came later is before one of what came earlier. -/
theorem le_of_mem
    (forward : Forward (earlier ++ later))
    {before after : Instant}
    (first : before ∈ instants earlier)
    (second : after ∈ instants later) :
    before ≤ after := by
  rw [Forward, instants, List.filterMap_append] at forward
  exact (List.pairwise_append.mp forward).2.2 before first after second

end Forward

end Journal

/-! ## The queue as a line -/

/-- The entry of the queue that was submitted, if it is a retry. -/
def Submission.entry? (submission : Submission Req Ctx) : Option (Waiting (Attempt Req Ctx)) :=
  submission.place.map fun place => ⟨place, submission.attempt⟩

/-- The retries that were handed to the stage, in order, with the places where they had waited. -/
def Journal.resubmitted (events : List (Event Req Resp Ctx Fault Refusal)) :
    List (Waiting (Attempt Req Ctx)) :=
  (submissions events).filterMap Submission.entry?

theorem Journal.resubmitted_append
    (earlier later : List (Event Req Resp Ctx Fault Refusal)) :
    resubmitted (earlier ++ later) = resubmitted earlier ++ resubmitted later := by
  simp only [resubmitted, submissions, List.filterMap_append]

namespace RetryQueue

variable {queue rest : RetryQueue α}
variable {entry : Waiting α}

theorem eq_of_popReady? (popped : queue.popReady? = some (entry, rest)) :
    queue = { rest with ready := entry :: rest.ready } := by
  unfold popReady? at popped
  split at popped
  · cases popped
  · rename_i ready
    cases popped
    rw [← ready]

theorem eq_of_schedule?
    {payload : α}
    {delay : Duration}
    {now : Instant}
    (scheduled : queue.schedule? payload delay now = some (entry, rest)) :
    entry = ⟨⟨now + delay, queue.nextSeq⟩, payload⟩ ∧
      rest = {
        queue with
        scheduled := insert entry queue.scheduled
        nextSeq := queue.nextSeq + 1 } := by
  unfold schedule? at scheduled
  cases ends : now.after? delay with
  | none => simp [ends] at scheduled
  | some readyAt =>
      simp only [ends, Option.bind_eq_bind, Option.bind_some, Option.pure_def,
        Option.some.injEq, Prod.mk.injEq] at scheduled
      obtain ⟨rfl, rfl⟩ := scheduled
      have same : readyAt = now + delay :=
        Instant.eq_iff_nanos_eq.mpr (Instant.nanos_of_later? ends)
      exact ⟨by rw [same], rfl⟩

@[simp] theorem nextSeq_pollTimer (queue : RetryQueue α) (fired : Bool) (now : Instant) :
    (queue.pollTimer fired now).2.nextSeq = queue.nextSeq := by
  unfold pollTimer
  split
  · rfl
  · split <;> rfl

/-- A timer that goes off in time promotes what is due. -/
theorem pollTimer_fired
    {deadline now : Instant}
    (armed : queue.nextDeadline? = some deadline)
    (punctual : deadline ≤ now) :
    (queue.pollTimer true now).2 =
      { (queue.promoteDue now).2 with timer := some deadline } := by
  have latest : max now deadline = now := by
    rw [Instant.eq_iff_nanos_eq, Instant.nanos_max]
    exact max_eq_left punctual
  simp only [pollTimer, armed, latest]
  rfl

end RetryQueue

namespace Scene

/-- The retries whose delay is over: those submitted so far, and then those that may be taken. -/
def called (scene : Scene Req Resp Ctx Fault Refusal) : List (Waiting (Attempt Req Ctx)) :=
  Journal.resubmitted scene.events ++ scene.flow.retries.ready

/--
The line of the retries, those served included.

Everything that was called stands before everything that waits now or will be scheduled.
-/
structure InLine (scene : Scene Req Resp Ctx Fault Refusal) : Prop where
  sorted :
    (scene.called ++ scene.flow.retries.scheduled).Pairwise fun first second =>
      first.place.Before second.place
  numbered :
    ∀ entry ∈ scene.called ++ scene.flow.retries.scheduled,
      entry.place.seq < scene.flow.retries.nextSeq
  /-- What was called was due by the clock. -/
  past :
    ∀ entry ∈ scene.called,
      ∃ instant ∈ Journal.instants scene.events, entry.place.readyAt ≤ instant
  /-- What is owed will be scheduled for no earlier instant. -/
  owed :
    ∀ debt ∈ scene.owed, ∀ entry ∈ scene.called, entry.place.readyAt ≤ debt.since

namespace InLine

variable {before after : Scene Req Resp Ctx Fault Refusal}
variable {flow : Flow Req Ctx}
variable {events : List (Event Req Resp Ctx Fault Refusal)}

theorem start (settings : Settings) (random : ChaCha12) :
    (⟨Flow.start settings random, [], []⟩ : Scene Req Resp Ctx Fault Refusal).InLine where
  sorted := .nil
  numbered _ member := nomatch member
  past _ member := nomatch member
  owed _ member := nomatch member

/-- Nobody is called and nobody joins the line. -/
theorem stay
    (inLine : before.InLine)
    (called : after.called = before.called)
    (waiting : after.flow.retries.scheduled = before.flow.retries.scheduled)
    (counted : after.flow.retries.nextSeq = before.flow.retries.nextSeq)
    (grown : before.events <+: after.events)
    (owed :
      ∀ debt ∈ after.owed, ∀ entry ∈ before.called, entry.place.readyAt ≤ debt.since) :
    after.InLine where
  sorted := by
    rw [called, waiting]
    exact inLine.sorted
  numbered := by
    rw [called, waiting, counted]
    exact inLine.numbered
  past entry member := by
    rw [called] at member
    obtain ⟨instant, among, due⟩ := inLine.past entry member
    exact ⟨instant, (grown.sublist.filterMap _).subset among, due⟩
  owed := by
    rw [called]
    exact owed

/-- Those who are due are called. -/
theorem promote
    {event : Event Req Resp Ctx Fault Refusal}
    {now : Instant}
    (inLine : (⟨flow, events, []⟩ : Scene Req Resp Ctx Fault Refusal).InLine)
    (read : event.instant? = some now)
    (silent : event.submission? = none)
    (timer : Option Instant) :
    (⟨{ flow with retries := { (flow.retries.promoteDue now).2 with timer := timer } },
      events ++ [event], []⟩ : Scene Req Resp Ctx Fault Refusal).InLine := by
  have resubmitted : Journal.resubmitted (events ++ [event]) = Journal.resubmitted events := by
    simp [Journal.resubmitted, Journal.submissions, silent]
  have whole :
      flow.retries.scheduled.takeWhile (RetryQueue.isDue now) ++
          flow.retries.scheduled.dropWhile (RetryQueue.isDue now) =
        flow.retries.scheduled :=
    List.takeWhile_append_dropWhile
  have line :
      Journal.resubmitted (events ++ [event]) ++
          (flow.retries.ready ++ flow.retries.scheduled.takeWhile (RetryQueue.isDue now)) ++
          flow.retries.scheduled.dropWhile (RetryQueue.isDue now) =
        Journal.resubmitted events ++ flow.retries.ready ++ flow.retries.scheduled := by
    rw [resubmitted, ← List.append_assoc, List.append_assoc, whole]
  constructor
  case sorted =>
    have sorted := inLine.sorted
    simp only [called] at sorted
    rw [← line] at sorted
    exact sorted
  case numbered =>
    have numbered := inLine.numbered
    simp only [called] at numbered
    rw [← line] at numbered
    exact numbered
  case past =>
    intro entry member
    have member :
        entry ∈ Journal.resubmitted (events ++ [event]) ++
          (flow.retries.ready ++ flow.retries.scheduled.takeWhile (RetryQueue.isDue now)) :=
      member
    rw [resubmitted, ← List.append_assoc] at member
    change ∃ instant ∈ Journal.instants (events ++ [event]), entry.place.readyAt ≤ instant
    simp only [Journal.instants, List.filterMap_append, List.filterMap_cons, read]
    rcases List.mem_append.mp member with earlier | due
    · obtain ⟨instant, among, passed⟩ := inLine.past entry earlier
      exact ⟨instant, List.mem_append_left _ among, passed⟩
    · have isDue : RetryQueue.isDue now entry = true := List.mem_takeWhile_imp due
      exact ⟨now, List.mem_append_right _ (List.mem_singleton_self now), of_decide_eq_true isDue⟩
  case owed =>
    intro debt member
    cases member

/-- The first of those who were called is served. -/
theorem resubmit
    {entry : Waiting (Attempt Req Ctx)}
    {retries : RetryQueue (Attempt Req Ctx)}
    {now : Instant}
    {count : Nat}
    (inLine : (⟨flow, events, []⟩ : Scene Req Resp Ctx Fault Refusal).InLine)
    (popped : flow.retries.popReady? = some (entry, retries)) :
    (⟨({ flow with retries := retries } : Flow Req Ctx).launch
        entry.payload (some entry.place),
      events ++ [
        .submitted now (flow.submissionOf entry.payload (some entry.place)) count], []⟩ :
      Scene Req Resp Ctx Fault Refusal).InLine := by
  have queue := RetryQueue.eq_of_popReady? popped
  have served :
      Journal.resubmitted (events ++ [
          .submitted now (flow.submissionOf entry.payload (some entry.place)) count]) =
        Journal.resubmitted events ++ [entry] := by
    rw [Journal.resubmitted_append]
    rfl
  refine inLine.stay ?_ ?_ ?_ (List.prefix_append _ _) ?_
  · change Journal.resubmitted (events ++ [_]) ++ retries.ready =
      Journal.resubmitted events ++ flow.retries.ready
    rw [served, queue, List.append_assoc]
    rfl
  · change retries.scheduled = flow.retries.scheduled
    rw [queue]
  · change retries.nextSeq = flow.retries.nextSeq
    rw [queue]
  · intro debt member
    cases member

/-- A follow-up that is owed joins the line behind all who were called. -/
theorem schedule
    {debt : Debt Req Resp Ctx}
    {owed : List (Debt Req Resp Ctx)}
    {delay : Duration}
    {random : ChaCha12}
    {entry : Waiting (Attempt Req Ctx)}
    {retries : RetryQueue (Attempt Req Ctx)}
    {new : List (Event Req Resp Ctx Fault Refusal)}
    (inLine : (⟨flow, events, debt :: owed⟩ : Scene Req Resp Ctx Fault Refusal).InLine)
    (unserved : Journal.resubmitted new = [])
    (scheduled :
      flow.retries.schedule? debt.attempt delay debt.since = some (entry, retries)) :
    (⟨{ flow with random := random, retries := retries }, events ++ new, owed⟩ :
      Scene Req Resp Ctx Fault Refusal).InLine := by
  obtain ⟨placed, queue⟩ := RetryQueue.eq_of_schedule? scheduled
  have called :
      (⟨{ flow with random := random, retries := retries }, events ++ new, owed⟩ :
          Scene Req Resp Ctx Fault Refusal).called =
        (⟨flow, events, debt :: owed⟩ : Scene Req Resp Ctx Fault Refusal).called := by
    simp only [Scene.called, Journal.resubmitted_append, unserved, List.append_nil, queue]
  have waiting : retries.scheduled = RetryQueue.insert entry flow.retries.scheduled := by
    rw [queue]
  have place : entry.place = ⟨debt.since + delay, flow.retries.nextSeq⟩ := by
    rw [placed]
  obtain ⟨front, behind, apart⟩ := List.pairwise_append.mp inLine.sorted
  have newest : ∀ other ∈ flow.retries.scheduled, other.place.seq < entry.place.seq := by
    intro other member
    rw [place]
    exact inLine.numbered other (List.mem_append_right _ member)
  have joins :
      ∀ other ∈ RetryQueue.insert entry flow.retries.scheduled,
        other = entry ∨ other ∈ flow.retries.scheduled := by
    intro other member
    exact List.mem_cons.mp ((RetryQueue.insert_perm entry _).mem_iff.mp member)
  constructor
  case sorted =>
    rw [called]
    change (_ ++ retries.scheduled).Pairwise _
    rw [waiting]
    refine
      List.pairwise_append.mpr ⟨front, RetryQueue.sorted_insert behind newest, ?_⟩
    intro first early second member
    rcases joins second member with rfl | late
    · have due := inLine.owed debt List.mem_cons_self first early
      have older := inLine.numbered first (List.mem_append_left _ early)
      rw [Instant.le_iff_nanos_le] at due
      rw [place, Place.before_iff, Instant.nanos_add]
      change first.place.seq < flow.retries.nextSeq at older
      change _ ∨ (_ ∧ first.place.seq < flow.retries.nextSeq)
      omega
    · exact apart first early second late
  case numbered =>
    rw [called]
    change ∀ other ∈ _ ++ retries.scheduled, other.place.seq < retries.nextSeq
    rw [waiting, queue]
    intro other member
    change other.place.seq < flow.retries.nextSeq + 1
    rcases List.mem_append.mp member with early | late
    · exact Nat.lt_succ_of_lt (inLine.numbered other (List.mem_append_left _ early))
    · rcases joins other late with rfl | waited
      · rw [place]
        exact Nat.lt_succ_self _
      · exact Nat.lt_succ_of_lt (inLine.numbered other (List.mem_append_right _ waited))
  case past =>
    rw [called]
    intro other member
    obtain ⟨instant, among, passed⟩ := inLine.past other member
    refine ⟨instant, ?_, passed⟩
    exact ((List.prefix_append events new).sublist.filterMap _).subset among
  case owed =>
    rw [called]
    intro other member
    exact inLine.owed other (List.mem_cons_of_mem debt member)

/-- The line is broken off. -/
theorem shutDown
    {given : Flow Req Ctx}
    {new : List (Event Req Resp Ctx Fault Refusal)}
    (inLine : (⟨flow, events, []⟩ : Scene Req Resp Ctx Fault Refusal).InLine)
    (counted : given.retries.nextSeq = flow.retries.nextSeq)
    (unserved : Journal.resubmitted new = []) :
    (⟨given.shutDown, events ++ new, []⟩ : Scene Req Resp Ctx Fault Refusal).InLine := by
  have called :
      (⟨given.shutDown, events ++ new, []⟩ : Scene Req Resp Ctx Fault Refusal).called =
        Journal.resubmitted events := by
    rw [Scene.called, Journal.resubmitted_append, unserved, List.append_nil]
    exact List.append_nil _
  have served :
      Journal.resubmitted events <+:
        (⟨flow, events, []⟩ : Scene Req Resp Ctx Fault Refusal).called :=
    List.prefix_append _ _
  have shorter :
      (⟨given.shutDown, events ++ new, []⟩ : Scene Req Resp Ctx Fault Refusal).called ++ [] <+:
        (⟨flow, events, []⟩ : Scene Req Resp Ctx Fault Refusal).called ++
          flow.retries.scheduled := by
    rw [called, List.append_nil]
    exact served.trans (List.prefix_append _ _)
  constructor
  case sorted => exact inLine.sorted.sublist shorter.sublist
  case numbered =>
    intro entry member
    change entry.place.seq < given.retries.nextSeq
    rw [counted]
    exact inLine.numbered entry (shorter.subset member)
  case past =>
    rw [called]
    intro entry member
    obtain ⟨instant, among, passed⟩ := inLine.past entry (served.subset member)
    refine ⟨instant, ?_, passed⟩
    exact ((List.prefix_append events new).sublist.filterMap _).subset among
  case owed =>
    intro debt member
    cases member

end InLine

end Scene

section Deeds

variable {env : Surroundings σ Req Resp Ctx Fault Refusal}
variable {station : Station}
variable {before after : Scene Req Resp Ctx Fault Refusal}
variable {next : Option (Next Resp Ctx Fault Refusal)}

/-- A deed keeps the line, as long as the clock does not go back with it. -/
theorem Deed.inLine
    (punctual : env.Punctual)
    (deed : Deed env station before next after)
    (forward : Journal.Forward after.events)
    (inLine : before.InLine) :
    after.InLine := by
  have told :=
    Flow.filterMap_told
      (Event.submission? : Event Req Resp Ctx Fault Refusal → _)
      fun _ _ => rfl
  have none (called : List (Waiting (Attempt Req Ctx))) :
      ∀ debt ∈ ([] : List (Debt Req Resp Ctx)),
        ∀ entry ∈ called, entry.place.readyAt ≤ debt.since :=
    fun _ member => nomatch member
  cases deed with
  | promote => exact inLine.promote rfl rfl _
  | resubmit _ _ popped => exact inLine.resubmit popped
  | timerFires armed fired =>
      rw [RetryQueue.pollTimer_fired armed (punctual _ _ _ fired)]
      exact inLine.promote rfl rfl _
  | schedule _ _ scheduled =>
      refine inLine.schedule ?_ scheduled
      simp [Journal.resubmitted, Journal.submissions, Event.submission?, told]
  | stageFault taken | refusal taken | exhaustionFault taken =>
      refine inLine.shutDown ?_ ?_
      · rw [taken.retries]
      · simp only [Journal.resubmitted, Journal.submissions, List.filterMap_append,
          List.filterMap_cons, List.filterMap_nil, List.append_nil, Event.submission?, told]
  | @branch _ _ _ _ response first others _ judged taken =>
      -- The response is judged after everything that was called had become due.
      refine inLine.stay ?_ ?_ ?_ (List.prefix_append _ _) ?_
      · simp [Scene.called, Journal.resubmitted, Journal.submissions, Event.submission?,
          taken.retries]
      · simp [taken.retries]
      · simp [taken.retries]
      · intro debt member entry called
        obtain ⟨item, _, rfl⟩ := List.mem_map.mp member
        obtain ⟨instant, among, passed⟩ := inLine.past entry called
        have now : instant ≤ env.now judged := by
          apply forward.le_of_mem among
          simp [Journal.instants, Event.instant?]
        exact Nat.le_trans passed now
  | done taken | dropBranch taken | exhaust taken =>
      refine inLine.stay ?_ ?_ ?_ (List.prefix_append _ _) (none _)
      · simp only [Scene.called, Journal.resubmitted, Journal.submissions,
          List.filterMap_append, List.filterMap_cons, List.filterMap_nil, List.append_nil,
          Event.submission?, told, taken.retries]
      · rw [taken.retries]
      · rw [taken.retries]
  | noDelay => exact inLine
  | clockOverflow =>
      refine inLine.stay ?_ rfl rfl (List.prefix_append _ _) inLine.owed
      simp [Scene.called, Journal.resubmitted, Journal.submissions, Event.submission?, told]
  | leaveFeed | noAnswer | allScheduled | wait =>
      exact inLine.stay rfl rfl rfl List.prefix_rfl (none _)
  | pull | feedEnds | feedWaits | finish =>
      refine inLine.stay ?_ rfl rfl (List.prefix_append _ _) (none _)
      simp [Scene.called, Journal.resubmitted, Journal.submissions, Event.submission?,
        Flow.submissionOf, Submission.entry?, Flow.launch, RetryQueue.rearmed]

/-- The entry that is put into the queue with the event, if there is one. -/
def Event.queues (event : Event Req Resp Ctx Fault Refusal) : List (Waiting (Attempt Req Ctx)) :=
  event.scheduled?.toList

/-- The entry that leaves the queue for the stage with the event, if there is one. -/
def Event.serves (event : Event Req Resp Ctx Fault Refusal) : List (Waiting (Attempt Req Ctx)) :=
  (event.submission?.bind Submission.entry?).toList

/-- A deed puts retries into the queue, hands them to the stage, or gives them up. -/
theorem Deed.queue_balance
    (deed : Deed env station before next after) :
    ∃ new lost,
      after.events = before.events ++ new ∧
      before.flow.retries.entries + ↑(new.flatMap Event.queues) =
        after.flow.retries.entries + lost + ↑(new.flatMap Event.serves) ∧
      (¬ Journal.GaveUp new → lost = 0) := by
  have toldQueues :=
    Flow.flatMap_told
      (Event.queues : Event Req Resp Ctx Fault Refusal → List (Waiting (Attempt Req Ctx)))
      fun _ _ => rfl
  have toldServes :=
    Flow.flatMap_told
      (Event.serves : Event Req Resp Ctx Fault Refusal → List (Waiting (Attempt Req Ctx)))
      fun _ _ => rfl
  cases deed with
  | @resubmit flow _ entry retries _ _ popped =>
      refine ⟨_, 0, rfl, ?_, fun _ => rfl⟩
      change flow.retries.entries + 0 = retries.entries + 0 + {entry}
      rw [RetryQueue.entries_of_popReady? popped, add_zero, add_zero, add_comm,
        Multiset.singleton_add]
  | schedule _ _ scheduled =>
      obtain ⟨added, _⟩ := RetryQueue.entries_of_schedule? scheduled
      refine ⟨_, 0, rfl, ?_, fun _ => rfl⟩
      simp [Event.queues, Event.scheduled?, Event.serves, Event.submission?, added,
        toldQueues, toldServes, add_comm]
  | @stageFault flow _ _ _ _ _ taken | @refusal flow _ _ _ _ _ _ _ taken
  | @exhaustionFault flow _ _ _ _ _ _ _ _ taken =>
      refine ⟨_, flow.retries.entries, rfl, ?_, ?_⟩
      · simp [Event.queues, Event.scheduled?, Event.serves, Event.submission?, Flow.shutDown,
          toldQueues, toldServes]
      · simp [Journal.GaveUp, Event.givesUp]
  | done taken | dropBranch taken | exhaust taken | branch taken =>
      refine ⟨_, 0, rfl, ?_, fun _ => rfl⟩
      simp [Event.queues, Event.scheduled?, Event.serves, Event.submission?, taken.retries,
        toldQueues, toldServes]
  | leaveFeed | noAnswer | noDelay | allScheduled | wait =>
      exact ⟨[], 0, by simp, by simp, fun _ => rfl⟩
  | _ =>
      refine ⟨_, 0, rfl, ?_, fun _ => rfl⟩
      simp [Event.queues, Event.scheduled?, Event.serves, Event.submission?,
        Submission.entry?, Flow.submissionOf, Flow.launch, toldQueues, toldServes]

/-- The numbers by which entries stand in line are given out in order. -/
theorem Deed.seqs_eq
    (deed : Deed env station before next after)
    (numbered :
      (Journal.scheduled before.events).map (fun entry => entry.place.seq) =
        List.range before.flow.retries.nextSeq) :
    (Journal.scheduled after.events).map (fun entry => entry.place.seq) =
      List.range after.flow.retries.nextSeq := by
  have told :=
    Flow.filterMap_told
      (Event.scheduled? : Event Req Resp Ctx Fault Refusal → _)
      fun _ _ => rfl
  unfold Journal.scheduled at *
  cases deed with
  | schedule _ _ scheduled =>
      obtain ⟨placed, queue⟩ := RetryQueue.eq_of_schedule? scheduled
      simp only [List.filterMap_append, List.filterMap_cons, List.filterMap_nil,
        Event.scheduled?, told, List.nil_append, List.map_append, numbered, queue,
        List.range_succ]
      rw [placed]
      rfl
  | resubmit _ _ popped =>
      have queue := RetryQueue.eq_of_popReady? popped
      rw [queue] at numbered
      simp only [List.filterMap_append, List.filterMap_cons, List.filterMap_nil,
        List.append_nil, Event.scheduled?, numbered]
      rfl
  | timerFires =>
      simp only [List.filterMap_append, List.filterMap_cons, List.filterMap_nil,
        List.append_nil, Event.scheduled?, numbered, RetryQueue.nextSeq_pollTimer]
  | stageFault taken | refusal taken | exhaustionFault taken | done taken
  | dropBranch taken | exhaust taken | branch taken =>
      simp only [List.filterMap_append, List.filterMap_cons, List.filterMap_nil,
        List.append_nil, Event.scheduled?, told, Flow.shutDown, RetryQueue.clear,
        taken.retries, numbered]
  | _ =>
      simp only [List.filterMap_append, List.filterMap_cons, List.filterMap_nil,
        List.append_nil, Event.scheduled?, told, numbered, Flow.launch, RetryQueue.promoteDue,
        RetryQueue.rearmed]

end Deeds

/-! ## Fresh work -/

/-- The instant and the item, if the feed gave one. -/
def Event.fetch? : Event Req Resp Ctx Fault Refusal → Option (Instant × WorkItem Req Ctx)
  | .feedAsked now (.item item) => some (now, item)
  | _ => none

/-- The instant and the attempt, if something was handed to the stage that had not waited. -/
def Event.admission? : Event Req Resp Ctx Fault Refusal → Option (Instant × Attempt Req Ctx)
  | .submitted now submission _ =>
      if submission.place = none then some (now, submission.attempt) else none
  | _ => none

namespace Journal

/-- The items taken from the feed, each with the instant. -/
def fetched (events : List (Event Req Resp Ctx Fault Refusal)) :
    List (Instant × WorkItem Req Ctx) :=
  events.filterMap Event.fetch?

/-- The attempts handed to the stage that had not waited, each with the instant. -/
def admitted (events : List (Event Req Resp Ctx Fault Refusal)) :
    List (Instant × Attempt Req Ctx) :=
  events.filterMap Event.admission?

/-- Every item was handed to the stage at the instant at which it was taken from the feed. -/
def AdmitsAtOnce (events : List (Event Req Resp Ctx Fault Refusal)) : Prop :=
  admitted events = (fetched events).map fun (now, item) => (now, Attempt.fresh item)

end Journal

theorem Deed.admitsAtOnce
    {env : Surroundings σ Req Resp Ctx Fault Refusal}
    {station : Station}
    {before after : Scene Req Resp Ctx Fault Refusal}
    {next : Option (Next Resp Ctx Fault Refusal)}
    (deed : Deed env station before next after)
    (atOnce : Journal.AdmitsAtOnce before.events) :
    Journal.AdmitsAtOnce after.events := by
  have toldFetch :=
    Flow.filterMap_told
      (Event.fetch? : Event Req Resp Ctx Fault Refusal → _)
      fun _ _ => rfl
  have toldAdmission :=
    Flow.filterMap_told
      (Event.admission? : Event Req Resp Ctx Fault Refusal → _)
      fun _ _ => rfl
  unfold Journal.AdmitsAtOnce Journal.admitted Journal.fetched at *
  cases deed <;>
    simp [List.filterMap_cons, Event.fetch?, Event.admission?, Flow.submissionOf, toldFetch,
      toldAdmission, atOnce]

/-! ## The order over a whole run -/

/-- Retries are handed to the stage in the order of their places, from the first to the last. -/
structure Run.FirstDueFirst (run : Run σ Req Resp Ctx Fault Refusal) : Prop where
  /-- Each stood before all that follow: for an earlier instant, or for the same one and sooner. -/
  ordered :
    (Journal.resubmitted run.events).Pairwise fun first second =>
      first.place.Before second.place
  /-- None of those that still wait has been overtaken. -/
  patient :
    ∀ served ∈ Journal.resubmitted run.events, ∀ entry ∈ run.flow.retries.entries,
      served.place.Before entry.place
  /-- These are the retries that were scheduled, at the very places, and none comes twice. -/
  scheduled :
    (Journal.resubmitted run.events : Multiset (Waiting (Attempt Req Ctx))) ≤
      ↑(Journal.scheduled run.events)
  /-- The number of a place counts the retries that were scheduled before. -/
  numbered :
    (Journal.scheduled run.events).map (fun entry => entry.place.seq) =
      List.range (Journal.scheduled run.events).length
  /-- Only work from the feed is handed to the stage without a place. -/
  retries :
    ∀ submission ∈ Journal.submissions run.events,
      submission.place = none ↔ submission.attempt.parent = none

namespace Reached

variable {env : Surroundings σ Req Resp Ctx Fault Refusal}
variable {settings : Settings}
variable {random : ChaCha12}
variable {outside : σ}
variable {position : Position}
variable {run : Run σ Req Resp Ctx Fault Refusal}

theorem inLine
    (punctual : env.Punctual)
    (reached :
      Reached env (Run.start (Flow.start settings random) outside) position run)
    (forward : Journal.Forward run.events) :
    (run.scene []).InLine := by
  refine
    reached.keeps
      (fun scene => Journal.Forward scene.events → scene.InLine)
      ?_ ?_ ?_ forward
  · exact fun _ => .start settings random
  · intro station before label after _ _ _ inLine deed forward
    exact deed.inLine punctual forward (inLine (forward.of_prefix deed.events_prefix))
  · intro flow events inLine forward
    exact (inLine (forward.of_prefix (List.prefix_append _ _))).shutDown rfl rfl

theorem queue_balanced
    (reached :
      Reached env (Run.start (Flow.start settings random) outside) position run) :
    (run.scene []).Balanced (fun scene => scene.flow.retries.entries)
      Event.queues Event.serves := by
  refine
    reached.keeps
      (fun scene =>
        scene.Balanced (fun scene => scene.flow.retries.entries) Event.queues Event.serves)
      ?_ ?_ ?_
  · exact ⟨0, rfl, fun _ => rfl⟩
  · intro station before label after _ _ _ balanced deed
    obtain ⟨new, lost, grown, settled, kept⟩ := deed.queue_balance
    exact balanced.after lost grown settled kept
  · intro flow events balanced
    refine balanced.after flow.retries.entries rfl ?_ ?_
    · simp [Flow.shutDown, Event.queues, Event.scheduled?, Event.serves, Event.submission?]
    · simp [Journal.GaveUp, Event.givesUp]

/-- Retries that were scheduled wait, have been resubmitted, or were given up. -/
theorem scheduled_balance
    (reached :
      Reached env (Run.start (Flow.start settings random) outside) position run) :
    ∃ lost : Multiset (Waiting (Attempt Req Ctx)),
      (Journal.scheduled run.events : Multiset (Waiting (Attempt Req Ctx))) =
          run.flow.retries.entries + lost + ↑(Journal.resubmitted run.events) ∧
        (¬ Journal.GaveUp run.events → lost = 0) := by
  have gain : run.events.flatMap Event.queues = Journal.scheduled run.events :=
    (List.filterMap_eq_flatMap_toList Event.scheduled? run.events).symm
  have spend : run.events.flatMap Event.serves = Journal.resubmitted run.events := by
    rw [Journal.resubmitted, Journal.submissions, List.filterMap_filterMap]
    exact (List.filterMap_eq_flatMap_toList _ run.events).symm
  rw [← gain, ← spend]
  exact reached.queue_balanced

theorem resubmitted_le
    (reached :
      Reached env (Run.start (Flow.start settings random) outside) position run) :
    (Journal.resubmitted run.events : Multiset (Waiting (Attempt Req Ctx))) ≤
      ↑(Journal.scheduled run.events) := by
  obtain ⟨lost, total, _⟩ := reached.scheduled_balance
  rw [total]
  exact Multiset.le_add_left _ _

theorem seqs_eq
    (reached :
      Reached env (Run.start (Flow.start settings random) outside) position run) :
    (Journal.scheduled run.events).map (fun entry => entry.place.seq) =
      List.range run.flow.retries.nextSeq := by
  refine
    reached.keeps
      (fun scene =>
        (Journal.scheduled scene.events).map (fun entry => entry.place.seq) =
          List.range scene.flow.retries.nextSeq)
      rfl ?_ ?_
  · intro station before label after _ _ _ numbered deed
    exact deed.seqs_eq numbered
  · intro flow events numbered
    simpa [Journal.scheduled, List.filterMap_cons, Event.scheduled?, Flow.shutDown,
      RetryQueue.clear] using numbered

/-- Fresh work is handed to the stage at once. -/
theorem admitsAtOnce
    (reached :
      Reached env (Run.start (Flow.start settings random) outside) position run) :
    Journal.AdmitsAtOnce run.events := by
  refine reached.keeps (fun scene => Journal.AdmitsAtOnce scene.events) ?_ ?_ ?_
  · rfl
  · intro station before label after _ _ _ atOnce deed
    exact deed.admitsAtOnce atOnce
  · intro flow events atOnce
    simpa [Journal.AdmitsAtOnce, Journal.admitted, Journal.fetched, List.filterMap_cons,
      Event.admission?, Event.fetch?] using atOnce

/-- A retry that was scheduled was asked for by a response. -/
theorem followUp_of_scheduled
    (reached :
      Reached env (Run.start (Flow.start settings random) outside) position run)
    {entry : Waiting (Attempt Req Ctx)}
    (scheduled : entry ∈ Journal.scheduled run.events) :
    ∃ judgement ∈ Journal.judgements run.events,
      entry.payload ∈ judgement.followUps settings.policy.maxAttempts := by
  have payload := List.mem_map_of_mem (f := Waiting.payload) scheduled
  rw [reached.scheduled_eq] at payload
  exact List.mem_flatMap.mp payload

theorem place_eq_none_iff
    (reached :
      Reached env (Run.start (Flow.start settings random) outside) position run)
    {submission : Submission Req Ctx}
    (submitted : submission ∈ Journal.submissions run.events) :
    submission.place = none ↔ submission.attempt.parent = none := by
  cases waited : submission.place with
  | none =>
      obtain ⟨event, noted, shows⟩ := List.mem_filterMap.mp submitted
      cases event with
      | submitted now other count =>
          cases shows
          have admitted :
              (now, submission.attempt) ∈ Journal.admitted run.events :=
            List.mem_filterMap.mpr ⟨_, noted, by simp [Event.admission?, waited]⟩
          rw [reached.admitsAtOnce] at admitted
          obtain ⟨⟨_, item⟩, _, same⟩ := List.mem_map.mp admitted
          have fresh : submission.attempt = Attempt.fresh item := (congrArg Prod.snd same).symm
          simp [fresh, Attempt.fresh]
      | _ => cases shows
  | some place =>
      have resubmitted :
          ⟨place, submission.attempt⟩ ∈ Journal.resubmitted run.events :=
        List.mem_filterMap.mpr ⟨submission, submitted, by simp [Submission.entry?, *]⟩
      have scheduled := Multiset.mem_of_le reached.resubmitted_le resubmitted
      obtain ⟨judgement, _, asked⟩ := reached.followUp_of_scheduled scheduled
      obtain ⟨_, _, _, parent, _⟩ := Judgement.mem_followUps asked
      have parent : submission.attempt.parent = some judgement.submission.ticket := parent
      simp [parent]

/-- On a clock that never goes back, with a punctual timer, no retry is ever overtaken. -/
theorem firstDueFirst
    (punctual : env.Punctual)
    (reached :
      Reached env (Run.start (Flow.start settings random) outside) position run)
    (forward : Journal.Forward run.events) :
    run.FirstDueFirst where
  ordered := by
    have line := (List.pairwise_append.mp (reached.inLine punctual forward).sorted).1
    exact (List.pairwise_append.mp line).1
  patient served early entry waiting := by
    have line := (reached.inLine punctual forward).sorted
    rw [Scene.called, List.append_assoc] at line
    apply (List.pairwise_append.mp line).2.2 served early
    rcases Multiset.mem_add.mp waiting with scheduled | ready
    · exact List.mem_append_right _ scheduled
    · exact List.mem_append_left _ ready
  scheduled := reached.resubmitted_le
  numbered := by
    have numbered := reached.seqs_eq
    have length := congrArg List.length numbered
    rw [List.length_map, List.length_range] at length
    rw [length]
    exact numbered
  retries _ submitted := reached.place_eq_none_iff submitted

end Reached

/-! ## A clock that leaps -/

/--
Surroundings in which nothing but waiting takes time.

They are prompt, except that a look at the timer lasts until its deadline has come.
-/
def Surroundings.leaping
    (scenario : Scenario Req Resp Ctx Fault Refusal) :
    Surroundings (Instant × List (WorkItem Req Ctx)) Req Resp Ctx Fault Refusal where
  now outside := outside.1
  pull outside :=
    let (offer, left) := (prompt scenario).pull outside.2
    (offer, outside.1, left)
  submit outside _ _ := outside
  collect outside inFlight := (((prompt scenario).collect outside.2 inFlight).1, outside)
  classify outside response context :=
    (((prompt scenario).classify outside.2 response context).1, outside)
  timerFired outside deadline := (true, max outside.1 deadline, outside.2)
  notify outside _ := outside
  abandon outside _ := outside

theorem Surroundings.punctual_leaping (scenario : Scenario Req Resp Ctx Fault Refusal) :
    (leaping scenario).Punctual := by
  intro outside later deadline fired
  cases fired
  change deadline ≤ max outside.1 deadline
  rw [Instant.le_iff_nanos_le, Instant.nanos_max]
  exact Nat.le_max_right _ _

/-- The replies to so many polls on a clock that leaps, and the run after them. -/
def Run.leapingly
    (settings : Settings)
    (scenario : Scenario Req Resp Ctx Fault Refusal)
    (count : Nat) :
    List (Reply Resp Ctx Fault Refusal) ×
      Run (Instant × List (WorkItem Req Ctx)) Req Resp Ctx Fault Refusal :=
  let start := Run.start (Flow.start settings (ChaCha12.ofSeed 0)) (.zero, scenario.items)
  start.polls (Surroundings.leaping scenario) 100 count

theorem Session.leapingly
    (settings : Settings)
    (scenario : Scenario Req Resp Ctx Fault Refusal)
    (count : Nat) :
    Session (Surroundings.leaping scenario)
      (Run.start (Flow.start settings (ChaCha12.ofSeed 0)) (.zero, scenario.items))
      (Run.leapingly settings scenario count).1
      (Run.leapingly settings scenario count).2 :=
  Session.start.polls 100 count

/-- Two numbers are counted down at once, and the retries of both come in the right order. -/
theorem Reached.firstDueFirst_countdown :
    let scenario := Scenario.countdown 9 [2, 1]
    let (_, run) := Run.leapingly (Settings.delayed 2) scenario 8
    (Surroundings.leaping scenario).Punctual ∧
      Journal.Forward run.events ∧
      run.FirstDueFirst ∧
      (Journal.resubmitted run.events).map
          (fun entry => (entry.place.readyAt.nanos, entry.place.seq)) =
        [(20000000, 0), (20000000, 1), (20000000, 2), (20000000, 3),
          (40000000, 4), (40000000, 5)] := by
  have session := Session.leapingly (Settings.delayed 2) (Scenario.countdown 9 [2, 1]) 8
  have reached := session.reached (by decide +kernel)
  have punctual := Surroundings.punctual_leaping (Scenario.countdown 9 [2, 1])
  have forward :
      Journal.Forward
        (Run.leapingly (Settings.delayed 2) (Scenario.countdown 9 [2, 1]) 8).2.events := by
    decide +kernel
  exact ⟨punctual, forward, Reached.firstDueFirst punctual reached forward, by decide +kernel⟩

end Resubmit
