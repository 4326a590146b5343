import Resubmit.Proofs.Resubmission
import Resubmit.Proofs.Waitlist

namespace Resubmit

/-!
# The alarm of a retry queue

A retry queue waits with a single alarm.  It is set when there is something to wait for, kept
from then on, and moved only when it turns out to be set for another instant than the one that
is waited for.  Between two looks at it entries come and go without its being told.  At every
look it is right all the same: it wakes nobody for nothing, and it is not left set for a wrong
instant.
-/

/-- An alarm that is set for an instant and may be moved to another, whatever it does inside. -/
structure Alarm (T ω : Type) where
  /-- Read the clock. -/
  now : ω → Instant
  /-- A new alarm for an instant. -/
  set : Instant → T
  /-- The instant for which an alarm is set. -/
  deadline : T → Instant
  move : T → Instant → T
  /-- Look whether an alarm has gone off, which may leave its mark on the alarm. -/
  look : T → ω → Bool × T
  deadline_set : ∀ instant, deadline (set instant) = instant
  deadline_move : ∀ timer instant, deadline (move timer instant) = instant
  deadline_look : ∀ timer outside, deadline (look timer outside).2 = deadline timer
  /-- An alarm goes off at its instant or later. -/
  punctual : ∀ {timer outside}, (look timer outside).1 = true → deadline timer ≤ now outside

namespace Alarm

variable {T ω : Type}

/-- The alarm for a deadline: the one that was kept, moved if need be, or else a new one. -/
def armed (alarm : Alarm T ω) (kept : Option T) (deadline : Instant) : T :=
  let timer := kept.getD (alarm.set deadline)
  if alarm.deadline timer = deadline then timer else alarm.move timer deadline

@[simp] theorem deadline_armed
    (alarm : Alarm T ω)
    (kept : Option T)
    (deadline : Instant) :
    alarm.deadline (alarm.armed kept deadline) = deadline := by
  simp only [armed]
  split
  · assumption
  · exact alarm.deadline_move _ _

/-- An alarm that goes off at once when its instant has come, and counts how often it was moved. -/
def prompt : Alarm (Instant × Nat) Instant where
  now instant := instant
  set instant := (instant, 0)
  deadline timer := timer.1
  move timer instant := (instant, timer.2 + 1)
  look timer instant := (decide (timer.1 ≤ instant), timer)
  deadline_set _ := rfl
  deadline_move _ _ := rfl
  deadline_look _ _ := rfl
  punctual fired := of_decide_eq_true fired

end Alarm

/-- A retry queue together with the alarm that it keeps. -/
structure AlarmedQueue (T α : Type) where
  queue : RetryQueue α
  kept : Option T
  deriving DecidableEq

/-- Something that is done to a retry queue with an alarm. -/
inductive AlarmedQueue.Request (ω α : Type) where
  | schedule (payload : α) (delay : Duration) (now : Instant)
  | promoteDue (now : Instant)
  | popReady
  | pollTimer (outside : ω)
  | clear

namespace AlarmedQueue

variable {T ω α : Type}

def empty : AlarmedQueue T α where
  queue := ∅
  kept := none

/--
Look at the alarm, which is set or moved first if that is needed.

Without a waiting entry no alarm is kept.
-/
def pollTimer
    (alarm : Alarm T ω)
    (alarmed : AlarmedQueue T α)
    (outside : ω) :
    Bool × AlarmedQueue T α :=
  match alarmed.queue.nextDeadline? with
  | none =>
      let (ready, queue) := alarmed.queue.pollTimer false (alarm.now outside)
      (ready, { queue := queue, kept := none })
  | some deadline =>
      let (fired, timer) := alarm.look (alarm.armed alarmed.kept deadline) outside
      let (ready, queue) := alarmed.queue.pollTimer fired (alarm.now outside)
      (ready, { queue := queue, kept := some timer })

/-- Carry out one request; one that cannot be carried out changes nothing. -/
def carryOut
    (alarm : Alarm T ω)
    (alarmed : AlarmedQueue T α) :
    Request ω α →
    AlarmedQueue T α
  | .schedule payload delay now =>
      match alarmed.queue.schedule? payload delay now with
      | some (_, later) => { alarmed with queue := later }
      | none => alarmed
  | .promoteDue now => { alarmed with queue := (alarmed.queue.promoteDue now).2 }
  | .popReady =>
      match alarmed.queue.popReady? with
      | some (_, rest) => { alarmed with queue := rest }
      | none => alarmed
  | .pollTimer outside => (alarmed.pollTimer alarm outside).2
  | .clear => { queue := alarmed.queue.clear, kept := none }

/-- The queue after several requests. -/
def after (alarm : Alarm T ω) (requests : List (Request ω α)) : AlarmedQueue T α :=
  requests.foldl (carryOut alarm) empty

variable {alarm : Alarm T ω}
variable {alarmed later : AlarmedQueue T α}
variable {outside : ω}

/-- What a look at the alarm can come to. -/
inductive Looked
    (alarm : Alarm T ω)
    (alarmed : AlarmedQueue T α)
    (outside : ω) :
    Bool →
    AlarmedQueue T α →
    Prop where
  | idle (nothing : alarmed.queue.nextDeadline? = none) :
      Looked alarm alarmed outside false ⟨alarmed.queue.rearmed, none⟩
  /-- The alarm has not gone off, and is kept for the instant that is waited for. -/
  | quiet
      {timer : T}
      (next : alarmed.queue.nextDeadline? = some (alarm.deadline timer)) :
      Looked alarm alarmed outside false ⟨alarmed.queue.rearmed, some timer⟩
  /-- The alarm has gone off, and not early, so what is due by now is promoted. -/
  | fired
      {timer : T}
      (next : alarmed.queue.nextDeadline? = some (alarm.deadline timer))
      (punctual : alarm.deadline timer ≤ alarm.now outside) :
      Looked alarm alarmed outside true
        ⟨{ (alarmed.queue.promoteDue (alarm.now outside)).2 with
            timer := some (alarm.deadline timer) },
          some timer⟩

theorem looked
    (alarm : Alarm T ω)
    (alarmed : AlarmedQueue T α)
    (outside : ω) :
    alarmed.Looked alarm outside
      (alarmed.pollTimer alarm outside).1
      (alarmed.pollTimer alarm outside).2 := by
  cases next : alarmed.queue.nextDeadline? with
  | none =>
      have polled : alarmed.pollTimer alarm outside = (false, ⟨alarmed.queue.rearmed, none⟩) := by
        simp only [pollTimer, next, RetryQueue.pollTimer, RetryQueue.rearmed]
      rw [polled]
      exact .idle next
  | some deadline =>
      -- The alarm is set for the deadline before it is looked at, and looking does not move it.
      have same := alarm.deadline_look (alarm.armed alarmed.kept deadline) outside
      have punctual := @alarm.punctual (alarm.armed alarmed.kept deadline) outside
      rcases seen : alarm.look (alarm.armed alarmed.kept deadline) outside with ⟨fired, timer⟩
      rw [seen, alarm.deadline_armed] at same
      subst same
      cases fired with
      | false =>
          have polled :
              alarmed.pollTimer alarm outside = (false, ⟨alarmed.queue.rearmed, some timer⟩) := by
            simp only [pollTimer, next, seen, RetryQueue.pollTimer, RetryQueue.rearmed,
              Bool.false_eq_true, ↓reduceIte]
          rw [polled]
          exact .quiet next
      | true =>
          rw [seen, alarm.deadline_armed] at punctual
          have promoted := RetryQueue.pollTimer_fired next (punctual rfl)
          have woken : (alarmed.queue.pollTimer true (alarm.now outside)).1 = true := by
            simp only [RetryQueue.pollTimer, next, ↓reduceIte]
          have polled :
              alarmed.pollTimer alarm outside =
                (true,
                  ⟨{ (alarmed.queue.promoteDue (alarm.now outside)).2 with
                      timer := some (alarm.deadline timer) },
                    some timer⟩) := by
            simp only [pollTimer, next, seen, promoted, woken]
          rw [polled]
          exact .fired next (punctual rfl)

/-! ## What every request keeps -/

/-- A queue in order, with an alarm that is set as the queue has it. -/
structure Kept (alarm : Alarm T ω) (alarmed : AlarmedQueue T α) : Prop where
  ordered : alarmed.queue.Ordered
  set : alarmed.kept.map alarm.deadline = alarmed.queue.timer

namespace Kept

theorem empty : (AlarmedQueue.empty : AlarmedQueue T α).Kept alarm where
  ordered := .empty
  set := rfl

theorem pollTimer
    (kept : alarmed.Kept alarm)
    (outside : ω) :
    (alarmed.pollTimer alarm outside).2.Kept alarm := by
  have seen := alarmed.looked alarm outside
  rcases polled : alarmed.pollTimer alarm outside with ⟨ready, later⟩
  rw [polled] at seen
  cases seen with
  | idle nothing => exact ⟨kept.ordered.rearmed, nothing.symm⟩
  | quiet next => exact ⟨kept.ordered.rearmed, next.symm⟩
  | fired next punctual =>
      exact ⟨(kept.ordered.promoteDue _).sublist (List.Sublist.refl _) rfl, rfl⟩

theorem carryOut
    (kept : alarmed.Kept alarm)
    (request : Request ω α) :
    (alarmed.carryOut alarm request).Kept alarm := by
  cases request with
  | schedule payload delay now =>
      simp only [AlarmedQueue.carryOut]
      split
      · rename_i entry later scheduled
        obtain ⟨_, queue⟩ := RetryQueue.eq_of_schedule? scheduled
        refine ⟨kept.ordered.schedule? scheduled, ?_⟩
        rw [queue]
        exact kept.set
      · exact kept
  | promoteDue now => exact ⟨kept.ordered.promoteDue now, kept.set⟩
  | popReady =>
      simp only [AlarmedQueue.carryOut]
      split
      · rename_i entry rest popped
        refine ⟨kept.ordered.popReady? popped, ?_⟩
        rw [kept.set, RetryQueue.eq_of_popReady? popped]
      · exact kept
  | pollTimer outside => exact kept.pollTimer outside
  | clear => exact ⟨.clear alarmed.queue, rfl⟩

theorem after (alarm : Alarm T ω) (requests : List (Request ω α)) :
    (after alarm requests).Kept alarm := by
  have run (alarmed : AlarmedQueue T α) (kept : alarmed.Kept alarm) :
      (requests.foldl (AlarmedQueue.carryOut alarm) alarmed).Kept alarm := by
    induction requests generalizing alarmed with
    | nil => exact kept
    | cons request rest inductionHypothesis => exact inductionHypothesis _ (kept.carryOut request)
  exact run AlarmedQueue.empty .empty

end Kept

/-! ## Every look is right -/

/-- What looking at the alarm of a queue comes to, whatever was done to the queue before. -/
structure WellTimed (alarm : Alarm T ω) (alarmed : AlarmedQueue T α) : Prop where
  /-- Numbers tell in which order entries were scheduled: a new one has the greatest so far. -/
  newest :
    ∀ {payload delay now entry queue},
      alarmed.queue.schedule? payload delay now = some (entry, queue) →
      ∀ other ∈ alarmed.queue.scheduled, other.place.seq < entry.place.seq
  /-- Whoever is woken finds what is due by now, in the order of the places, and nothing else. -/
  rings :
    ∀ {outside later},
      alarmed.pollTimer alarm outside = (true, later) →
      ∃ due,
        due ≠ [] ∧
          (∀ entry,
            entry ∈ due ↔
              entry ∈ alarmed.queue.scheduled ∧
                entry.place.readyAt ≤ alarm.now outside) ∧
          due.Pairwise (fun first second => first.place.Before second.place) ∧
          later.queue.ready = alarmed.queue.ready ++ due ∧
          later.queue.scheduled =
            alarmed.queue.scheduled.filter fun entry =>
              !RetryQueue.isDue (alarm.now outside) entry
  /-- Whoever waits does so for the earliest entry, or there is none and no alarm is kept. -/
  waits :
    ∀ {outside later},
      alarmed.pollTimer alarm outside = (false, later) →
      later.queue.scheduled = alarmed.queue.scheduled ∧
        later.queue.ready = alarmed.queue.ready ∧
        ((later.queue.scheduled = [] ∧ later.kept = none) ∨
          ∃ timer,
            later.kept = some timer ∧
              IsLeast
                {instant | ∃ entry ∈ later.queue.scheduled, entry.place.readyAt = instant}
                (alarm.deadline timer))
  /-- The queue knows for which instant the alarm is set that it keeps, now and after a look. -/
  known :
    alarmed.kept.map alarm.deadline = alarmed.queue.timer ∧
      ∀ outside,
        (alarmed.pollTimer alarm outside).2.kept.map alarm.deadline =
          (alarmed.pollTimer alarm outside).2.queue.timer

theorem Kept.rings
    (kept : alarmed.Kept alarm)
    (looked : alarmed.pollTimer alarm outside = (true, later)) :
    ∃ due,
      due ≠ [] ∧
        (∀ entry,
          entry ∈ due ↔
            entry ∈ alarmed.queue.scheduled ∧ entry.place.readyAt ≤ alarm.now outside) ∧
        due.Pairwise (fun first second => first.place.Before second.place) ∧
        later.queue.ready = alarmed.queue.ready ++ due ∧
        later.queue.scheduled =
          alarmed.queue.scheduled.filter fun entry =>
            !RetryQueue.isDue (alarm.now outside) entry := by
  have sorted := kept.ordered.sorted
  obtain ⟨taken, dropped⟩ := RetryQueue.takeWhile_isDue sorted (alarm.now outside)
  have seen := alarmed.looked alarm outside
  rw [looked] at seen
  cases seen with
  | fired next punctual =>
      refine ⟨alarmed.queue.scheduled.filter (RetryQueue.isDue (alarm.now outside)),
        ?_, ?_, sorted.sublist List.filter_sublist, ?_, dropped⟩
      · -- The entry for which the alarm was set is due.
        obtain ⟨first, among, same⟩ := (kept.ordered.isLeast_of_nextDeadline? next).1
        rw [← same] at punctual
        exact List.ne_nil_of_mem (List.mem_filter.mpr ⟨among, decide_eq_true punctual⟩)
      · intro entry
        rw [List.mem_filter, RetryQueue.isDue, decide_eq_true_eq]
      · rw [← taken]
        rfl

theorem Kept.waits
    (kept : alarmed.Kept alarm)
    (looked : alarmed.pollTimer alarm outside = (false, later)) :
    later.queue.scheduled = alarmed.queue.scheduled ∧
      later.queue.ready = alarmed.queue.ready ∧
      ((later.queue.scheduled = [] ∧ later.kept = none) ∨
        ∃ timer,
          later.kept = some timer ∧
            IsLeast
              {instant | ∃ entry ∈ later.queue.scheduled, entry.place.readyAt = instant}
              (alarm.deadline timer)) := by
  have seen := alarmed.looked alarm outside
  rw [looked] at seen
  cases seen with
  | idle nothing =>
      have empty : alarmed.queue.scheduled = [] := by
        simpa [RetryQueue.nextDeadline?] using nothing
      exact ⟨rfl, rfl, .inl ⟨empty, rfl⟩⟩
  | quiet next =>
      exact ⟨rfl, rfl, .inr ⟨_, rfl, kept.ordered.isLeast_of_nextDeadline? next⟩⟩

/-- Whatever was done to a retry queue, its single alarm is right. -/
theorem wellTimed (alarm : Alarm T ω) (requests : List (Request ω α)) :
    (after alarm requests).WellTimed alarm := by
  have kept := Kept.after alarm requests
  constructor
  case newest =>
    intro payload delay now entry queue scheduled other member
    obtain ⟨placed, _⟩ := RetryQueue.eq_of_schedule? scheduled
    rw [placed]
    exact kept.ordered.numbered other member
  case rings => exact kept.rings
  case waits => exact kept.waits
  case known => exact ⟨kept.set, fun outside => (kept.pollTimer outside).set⟩

/--
The alarm is moved to an earlier entry, then on from one that was promoted without it, and once
more after it has gone off.
-/
example :
    let looks : List (List (Request Instant Nat)) := [
      [.schedule 1 (.ofMillis 50) ⟨0⟩, .pollTimer ⟨0⟩],
      [.schedule 2 (.ofMillis 20) ⟨0⟩, .pollTimer ⟨10000000⟩],
      [.promoteDue ⟨20000000⟩, .pollTimer ⟨30000000⟩],
      [.pollTimer ⟨50000000⟩],
      [.schedule 3 (.ofMillis 30) ⟨60000000⟩, .pollTimer ⟨60000000⟩]]
    (looks.inits.map fun requests => (after Alarm.prompt requests.flatten).kept) =
      [none, some (⟨50000000⟩, 0), some (⟨20000000⟩, 1), some (⟨50000000⟩, 2),
        some (⟨50000000⟩, 2), some (⟨90000000⟩, 3)] := by
  decide

end AlarmedQueue

end Resubmit
