import Mathlib.Order.Bounds.Defs
import Resubmit.Proofs.Rulings

namespace Resubmit

/-!
# Well-formed flows

In every state of a flow its slots are not overfilled and its waiting retries stand in the
order of their places.  The queue was not given that order once and for all: each retry is
put in place when it is scheduled, and promotion takes from the front.
-/

variable {σ Req Resp Ctx Fault Refusal : Type}

namespace Place

theorem before_iff {a b : Place} :
    a.Before b ↔
      a.readyAt.nanos < b.readyAt.nanos ∨
        (a.readyAt.nanos = b.readyAt.nanos ∧ a.seq < b.seq) := by
  rw [Before, Instant.lt_iff_nanos_lt, Instant.eq_iff_nanos_eq]

theorem Before.trans {a b c : Place} (first : a.Before b) (second : b.Before c) :
    a.Before c := by
  rw [before_iff] at *
  omega

theorem Before.readyAt_le {a b : Place} (before : a.Before b) : a.readyAt ≤ b.readyAt := by
  rw [before_iff] at before
  rw [Instant.le_iff_nanos_le]
  omega

/-- A smaller number comes first unless the other place comes before it. -/
theorem before_of_seq_lt
    {a b : Place}
    (smaller : a.seq < b.seq)
    (notBefore : ¬ b.Before a) :
    a.Before b := by
  rw [before_iff] at *
  omega

end Place

namespace RetryQueue

/-- The waiting entries stand in the order of their places, under numbers already given. -/
structure Ordered (queue : RetryQueue α) : Prop where
  sorted : queue.scheduled.Pairwise fun a b => a.place.Before b.place
  numbered : ∀ entry ∈ queue.scheduled, entry.place.seq < queue.nextSeq

/-- A new entry is put in its place. -/
theorem sorted_insert
    {entry : Waiting α}
    {entries : List (Waiting α)}
    (sorted : entries.Pairwise fun a b => a.place.Before b.place)
    (newest : ∀ other ∈ entries, other.place.seq < entry.place.seq) :
    (insert entry entries).Pairwise fun a b => a.place.Before b.place := by
  induction entries with
  | nil => exact List.pairwise_singleton _ _
  | cons other rest inductionHypothesis =>
      obtain ⟨first, others⟩ := List.pairwise_cons.mp sorted
      by_cases before : entry.place.Before other.place
      · rw [insert, if_pos before]
        refine List.pairwise_cons.mpr ⟨?_, sorted⟩
        intro later member
        rcases List.mem_cons.mp member with rfl | deeper
        · exact before
        · exact before.trans (first later deeper)
      · rw [insert, if_neg before]
        refine List.pairwise_cons.mpr ⟨?_, ?_⟩
        · intro later member
          have among := (insert_perm entry rest).mem_iff.mp member
          rcases List.mem_cons.mp among with rfl | deeper
          · exact Place.before_of_seq_lt (newest other List.mem_cons_self) before
          · exact first later deeper
        · apply inductionHypothesis others
          intro later member
          exact newest later (List.mem_cons_of_mem other member)

namespace Ordered

variable {queue : RetryQueue α}

theorem empty : (∅ : RetryQueue α).Ordered where
  sorted := .nil
  numbered _ member := nomatch member

theorem clear (queue : RetryQueue α) : queue.clear.Ordered where
  sorted := .nil
  numbered _ member := nomatch member

/-- Fewer entries are still in order. -/
theorem sublist
    (ordered : queue.Ordered)
    {after : RetryQueue α}
    (fewer : after.scheduled.Sublist queue.scheduled)
    (counted : after.nextSeq = queue.nextSeq) :
    after.Ordered where
  sorted := ordered.sorted.sublist fewer
  numbered entry member := by
    rw [counted]
    exact ordered.numbered entry (fewer.subset member)

theorem promoteDue (ordered : queue.Ordered) (now : Instant) :
    (queue.promoteDue now).2.Ordered :=
  ordered.sublist (List.dropWhile_sublist _) rfl

theorem rearmed (ordered : queue.Ordered) : queue.rearmed.Ordered :=
  ordered.sublist (List.Sublist.refl _) rfl

theorem pollTimer (ordered : queue.Ordered) (fired : Bool) (now : Instant) :
    (queue.pollTimer fired now).2.Ordered := by
  have same (timer : Option Instant) : ({ queue with timer := timer } : RetryQueue α).Ordered :=
    ordered.sublist (List.Sublist.refl _) rfl
  unfold RetryQueue.pollTimer
  split
  · exact same none
  · split
    · exact (same _).promoteDue _
    · exact same _

theorem popReady?
    (ordered : queue.Ordered)
    {entry : Waiting α}
    {rest : RetryQueue α}
    (popped : queue.popReady? = some (entry, rest)) :
    rest.Ordered := by
  unfold RetryQueue.popReady? at popped
  split at popped
  · cases popped
  · cases popped
    exact ordered.sublist (List.Sublist.refl _) rfl

theorem schedule?
    (ordered : queue.Ordered)
    {payload : α}
    {delay : Duration}
    {now : Instant}
    {entry : Waiting α}
    {after : RetryQueue α}
    (scheduled : queue.schedule? payload delay now = some (entry, after)) :
    after.Ordered := by
  unfold RetryQueue.schedule? at scheduled
  cases ends : now.after? delay with
  | none => simp [ends] at scheduled
  | some readyAt =>
      simp only [ends, Option.bind_eq_bind, Option.bind_some, Option.pure_def,
        Option.some.injEq, Prod.mk.injEq] at scheduled
      obtain ⟨rfl, rfl⟩ := scheduled
      constructor
      · exact sorted_insert ordered.sorted ordered.numbered
      · intro other member
        have among := (insert_perm _ queue.scheduled).mem_iff.mp member
        rcases List.mem_cons.mp among with rfl | earlier
        · exact Nat.lt_succ_self queue.nextSeq
        · exact Nat.lt_succ_of_lt (ordered.numbered other earlier)

/-- What still waits after promotion is not due. -/
theorem undue_of_promoteDue
    (ordered : queue.Ordered)
    (now : Instant) :
    ∀ entry ∈ (queue.promoteDue now).2.scheduled, now < entry.place.readyAt := by
  have sorted := ordered.sorted
  change ∀ entry ∈ queue.scheduled.dropWhile (isDue now), now < entry.place.readyAt
  generalize queue.scheduled = waiting at sorted
  induction waiting with
  | nil =>
      intro entry member
      cases member
  | cons first rest inductionHypothesis =>
      obtain ⟨ahead, others⟩ := List.pairwise_cons.mp sorted
      by_cases due : isDue now first = true
      · rw [List.dropWhile_cons_of_pos due]
        exact inductionHypothesis others
      · rw [List.dropWhile_cons_of_neg due]
        have early : ¬ first.place.readyAt ≤ now := by simpa [isDue] using due
        intro entry member
        have after : first.place.readyAt ≤ entry.place.readyAt := by
          rcases List.mem_cons.mp member with rfl | later
          · exact Nat.le_refl _
          · exact (ahead entry later).readyAt_le
        rw [Instant.le_iff_nanos_le] at early after
        rw [Instant.lt_iff_nanos_lt]
        omega

/-- The timer is set for the earliest instant for which an entry waits. -/
theorem isLeast_of_nextDeadline?
    (ordered : queue.Ordered)
    {deadline : Instant}
    (next : queue.nextDeadline? = some deadline) :
    IsLeast {instant | ∃ entry ∈ queue.scheduled, entry.place.readyAt = instant} deadline := by
  have sorted := ordered.sorted
  unfold nextDeadline? at next
  cases waiting : queue.scheduled with
  | nil => simp [waiting] at next
  | cons first rest =>
      rw [waiting] at sorted
      simp only [waiting, List.head?_cons, Option.map_some, Option.some.injEq] at next
      subst next
      constructor
      · exact ⟨first, List.mem_cons_self, rfl⟩
      · rintro instant ⟨entry, member, rfl⟩
        rcases List.mem_cons.mp member with rfl | later
        · exact Nat.le_refl _
        · exact ((List.pairwise_cons.mp sorted).1 entry later).readyAt_le

end Ordered

end RetryQueue

/-- A flow that uses no more slots than it has, with its retries in order. -/
structure Flow.WellFormed (flow : Flow Req Ctx) : Prop where
  slots : flow.inFlight.length ≤ flow.settings.parallelism
  ordered : flow.retries.Ordered

namespace Flow.WellFormed

variable {flow : Flow Req Ctx}

theorem start (settings : Settings) (random : ChaCha12) :
    (Flow.start settings random : Flow Req Ctx).WellFormed where
  slots := Nat.zero_le _
  ordered := .empty

theorem shutDown (flow : Flow Req Ctx) : flow.shutDown.WellFormed where
  slots := Nat.zero_le _
  ordered := .clear flow.retries

theorem launch
    (slot : flow.HasSlot)
    (ordered : flow.retries.Ordered)
    (attempt : Attempt Req Ctx)
    (place : Option Place) :
    (flow.launch attempt place).WellFormed where
  slots := by
    simp only [Flow.launch, List.length_append, List.length_singleton]
    exact slot
  ordered := ordered

theorem takes
    (wellFormed : flow.WellFormed)
    {env : Surroundings σ Req Resp Ctx Fault Refusal}
    {rest : Flow Req Ctx}
    {submission : Submission Req Ctx}
    {answer : Except Fault Resp}
    {later : σ}
    (taken : flow.Takes env submission answer later rest) :
    rest.WellFormed where
  slots := by
    have fewer := congrArg Multiset.card taken.inFlight_eq
    have slots := wellFormed.slots
    simp only [Multiset.coe_card, Multiset.card_cons] at fewer
    rw [taken.settings]
    omega
  ordered := by
    rw [taken.retries]
    exact wellFormed.ordered

end Flow.WellFormed

/-- Every deed keeps a flow well-formed. -/
theorem Deed.wellFormed
    {env : Surroundings σ Req Resp Ctx Fault Refusal}
    {station : Station}
    {before after : Scene Req Resp Ctx Fault Refusal}
    {next : Option (Next Resp Ctx Fault Refusal)}
    (deed : Deed env station before next after)
    (wellFormed : before.flow.WellFormed) :
    after.flow.WellFormed := by
  have slots := wellFormed.slots
  have ordered := wellFormed.ordered
  cases deed with
  | promote => exact ⟨slots, ordered.promoteDue _⟩
  | @resubmit flow _ _ retries _ slot popped =>
      have slot : ({ flow with retries := retries } : Flow Req Ctx).HasSlot := slot
      exact .launch slot (ordered.popReady? popped) _ _
  | pull slot => exact .launch slot ordered _ _
  | stageFault | refusal | exhaustionFault => exact .shutDown _
  | done taken | dropBranch taken | exhaust taken | branch taken => exact wellFormed.takes taken
  | schedule _ _ scheduled => exact ⟨slots, ordered.schedule? scheduled⟩
  | timerFires => exact ⟨slots, ordered.pollTimer _ _⟩
  | finish | wait => exact ⟨slots, ordered.rearmed⟩
  | leaveFeed | feedEnds | feedWaits | noAnswer | noDelay | clockOverflow | allScheduled =>
      exact ⟨slots, ordered⟩

namespace Session

variable {env : Surroundings σ Req Resp Ctx Fault Refusal}
variable {start run : Run σ Req Resp Ctx Fault Refusal}
variable {replies : List (Reply Resp Ctx Fault Refusal)}

theorem wellFormed
    (session : Session env start replies run)
    (fresh : start.flow.WellFormed) :
    run.flow.WellFormed :=
  session.keeps
    (fun flow _ => flow.WellFormed)
    fresh
    (fun _ wellFormed deed => deed.wellFormed wellFormed)
    (fun _ => .shutDown _)

theorem settings_eq
    (session : Session env start replies run) :
    run.flow.settings = start.flow.settings :=
  session.keeps
    (fun flow _ => flow.settings = start.flow.settings)
    rfl
    (fun _ same deed => deed.settings_eq.trans same)
    (fun same => same)

end Session

theorem Reached.wellFormed
    {env : Surroundings σ Req Resp Ctx Fault Refusal}
    {start run : Run σ Req Resp Ctx Fault Refusal}
    {position : Position}
    (reached : Reached env start position run)
    (fresh : start.flow.WellFormed) :
    run.flow.WellFormed :=
  reached.keeps
    (fun scene => scene.flow.WellFormed)
    fresh
    (fun _ _ _ wellFormed deed => deed.wellFormed wellFormed)
    (fun _ => .shutDown _)

end Resubmit
