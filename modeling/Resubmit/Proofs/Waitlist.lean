import Mathlib.Data.List.Sort
import Resubmit.Proofs.WellFormed

namespace Resubmit

/-!
# Waiting lists

A waiting list holds what has to wait for an instant and what has waited long enough.  Seen
from outside it answers four operations and shows how much it holds and for what it waits.

The plainest one is `Agenda`: it keeps what waits in the order in which it was scheduled, and
only when something is due does it sort, by instant and in a stable way.  Nothing that a
caller sees tells the retry queue of a flow from it.
-/

/-- Something that is done to a waiting list. -/
inductive Waitlist.Request (α : Type) where
  | schedule (payload : α) (delay : Duration) (now : Instant)
  | promoteDue (now : Instant)
  | popReady
  | clear

/-- What a waiting list answers. -/
inductive Waitlist.Answer (α : Type) where
  | scheduled
  /-- The clock cannot represent the end of the delay. -/
  | clockOverflow
  | promoted (count : Nat)
  | popped (payload? : Option α)
  | cleared
  deriving Repr, DecidableEq

/-- What is seen of a waiting list after an operation. -/
structure Waitlist.Sight (α : Type) where
  answer : Answer α
  size : Nat
  isEmpty : Bool
  earliest? : Option Instant
  deriving Repr, DecidableEq

/-- The operations of a waiting list whose states are of type `S`. -/
structure Waitlist (S α : Type) where
  start : S
  /-- Whether the clock can represent the end of the delay, and the state afterwards. -/
  schedule : S → α → Duration → Instant → Bool × S
  /-- How much has waited long enough by now. -/
  promoteDue : S → Instant → Nat × S
  popReady? : S → Option (α × S)
  clear : S → S
  size : S → Nat
  isEmpty : S → Bool
  /-- The earliest instant for which something waits. -/
  earliest? : S → Option Instant

namespace Waitlist

variable {S T α : Type}

/-- Carry out one operation. -/
def carryOut (list : Waitlist S α) (state : S) : Request α → Answer α × S
  | .schedule payload delay now =>
      let (represented, later) := list.schedule state payload delay now
      (if represented then .scheduled else .clockOverflow, later)
  | .promoteDue now =>
      let (count, later) := list.promoteDue state now
      (.promoted count, later)
  | .popReady =>
      match list.popReady? state with
      | some (payload, later) => (.popped (some payload), later)
      | none => (.popped none, state)
  | .clear => (.cleared, list.clear state)

/-- What is seen after each of several operations. -/
def sights (list : Waitlist S α) : S → List (Request α) → List (Sight α)
  | _, [] => []
  | state, request :: rest =>
      let (answer, later) := list.carryOut state request
      {
        answer := answer
        size := list.size later
        isEmpty := list.isEmpty later
        earliest? := list.earliest? later
      } :: list.sights later rest

/-- The state after several operations. -/
def after (list : Waitlist S α) : S → List (Request α) → S
  | state, [] => state
  | state, request :: rest => list.after (list.carryOut state request).2 rest

/-- Two waiting lists that go on looking alike in states that are related. -/
structure LooksLike
    (list : Waitlist S α)
    (other : Waitlist T α)
    (Related : S → T → Prop) :
    Prop where
  start : Related list.start other.start
  schedule :
    ∀ {state state'} (payload delay now),
      Related state state' →
      (list.schedule state payload delay now).1 = (other.schedule state' payload delay now).1 ∧
        Related (list.schedule state payload delay now).2
          (other.schedule state' payload delay now).2
  promoteDue :
    ∀ {state state'} (now),
      Related state state' →
      (list.promoteDue state now).1 = (other.promoteDue state' now).1 ∧
        Related (list.promoteDue state now).2 (other.promoteDue state' now).2
  popReady :
    ∀ {state state'},
      Related state state' →
      (list.popReady? state = none ∧ other.popReady? state' = none) ∨
        ∃ payload later later',
          list.popReady? state = some (payload, later) ∧
            other.popReady? state' = some (payload, later') ∧
            Related later later'
  clear : ∀ {state state'}, Related state state' → Related (list.clear state) (other.clear state')
  size : ∀ {state state'}, Related state state' → list.size state = other.size state'
  isEmpty : ∀ {state state'}, Related state state' → list.isEmpty state = other.isEmpty state'
  earliest :
    ∀ {state state'}, Related state state' → list.earliest? state = other.earliest? state'

namespace LooksLike

variable {list : Waitlist S α}
variable {other : Waitlist T α}
variable {Related : S → T → Prop}
variable {state : S}
variable {state' : T}

/-- One operation has the same answer and leads to related states. -/
theorem carryOut
    (alike : list.LooksLike other Related)
    (related : Related state state')
    (request : Request α) :
    (list.carryOut state request).1 = (other.carryOut state' request).1 ∧
      Related (list.carryOut state request).2 (other.carryOut state' request).2 := by
  cases request with
  | schedule payload delay now =>
      obtain ⟨same, later⟩ := alike.schedule payload delay now related
      exact ⟨by simp only [Waitlist.carryOut, same], later⟩
  | promoteDue now =>
      obtain ⟨same, later⟩ := alike.promoteDue now related
      exact ⟨congrArg Answer.promoted same, later⟩
  | popReady =>
      rcases alike.popReady related with ⟨none, none'⟩ | ⟨payload, later, later', some, some', next⟩
      · simp only [Waitlist.carryOut, none, none', true_and]
        exact related
      · simp only [Waitlist.carryOut, some, some', true_and]
        exact next
  | clear => exact ⟨rfl, alike.clear related⟩

theorem after
    (alike : list.LooksLike other Related)
    (related : Related state state')
    (requests : List (Request α)) :
    Related (list.after state requests) (other.after state' requests) := by
  induction requests generalizing state state' with
  | nil => exact related
  | cons request rest inductionHypothesis =>
      exact inductionHypothesis (alike.carryOut related request).2

/-- Whatever is done to them, the two lists look alike. -/
theorem sights_eq
    (alike : list.LooksLike other Related)
    (related : Related state state')
    (requests : List (Request α)) :
    list.sights state requests = other.sights state' requests := by
  induction requests generalizing state state' with
  | nil => rfl
  | cons request rest inductionHypothesis =>
      obtain ⟨same, later⟩ := alike.carryOut related request
      simp only [sights, same, alike.size later, alike.isEmpty later, alike.earliest later,
        inductionHypothesis later]

end LooksLike

end Waitlist

/-! ## The plain waiting list -/

/-- What waits, in the order in which it was scheduled, and what may be taken. -/
structure Agenda (α : Type) where
  waiting : List (Instant × α)
  ready : List α

namespace Agenda

variable {α : Type}

/-- Whether the instant of one thing is not after that of another. -/
def notAfter (a b : Instant × α) : Bool :=
  a.1 ≤ b.1

/-- Whether something has waited long enough. -/
def isDue (now : Instant) (waiting : Instant × α) : Bool :=
  waiting.1 ≤ now

/-- What is due leaves the list, sorted by instant; what is due at one instant keeps its order. -/
def promoteDue (agenda : Agenda α) (now : Instant) : Nat × Agenda α :=
  let due := agenda.waiting.filter (isDue now)
  (due.length, {
    waiting := agenda.waiting.filter fun waiting => !isDue now waiting
    ready := agenda.ready ++ (due.mergeSort notAfter).map Prod.snd
  })

/-- The operations of the plain waiting list. -/
def waitlist : Waitlist (Agenda α) α where
  start := ⟨[], []⟩
  schedule agenda payload delay now :=
    match Instant.after? now delay with
    | some readyAt => (true, { agenda with waiting := agenda.waiting ++ [(readyAt, payload)] })
    | none => (false, agenda)
  promoteDue := promoteDue
  popReady? agenda :=
    match agenda.ready with
    | [] => none
    | payload :: rest => some (payload, { agenda with ready := rest })
  clear _ := ⟨[], []⟩
  size agenda := agenda.waiting.length + agenda.ready.length
  isEmpty agenda := agenda.waiting.isEmpty && agenda.ready.isEmpty
  earliest? agenda := (agenda.waiting.map fun waiting => waiting.1.nanos).min?.map Instant.mk

end Agenda

/-! ## Sorted by place -/

namespace Waiting

variable {α : Type}

/-- Whether one entry waits for an instant that is not after that of another. -/
def notAfter (a b : Waiting α) : Bool :=
  a.place.readyAt ≤ b.place.readyAt

/-- An entry without its number. -/
def unnumbered (entry : Waiting α) : Instant × α :=
  (entry.place.readyAt, entry.payload)

theorem notAfter_trans (a b c : Waiting α) :
    a.notAfter b = true → b.notAfter c = true → a.notAfter c = true := by
  simp only [notAfter, decide_eq_true_eq, Instant.le_iff_nanos_le]
  omega

theorem notAfter_total (a b : Waiting α) : (a.notAfter b || b.notAfter a) = true := by
  simp only [notAfter, Bool.or_eq_true, decide_eq_true_eq, Instant.le_iff_nanos_le]
  omega

/-- Sorting by instant in a stable way is sorting by place, if numbers were given in order. -/
theorem pairwise_mergeSort_before
    {entries : List (Waiting α)}
    (numbered : entries.Pairwise fun a b => a.place.seq < b.place.seq) :
    (entries.mergeSort notAfter).Pairwise fun a b => a.place.Before b.place := by
  induction entries with
  | nil => simp
  | cons entry rest inductionHypothesis =>
      obtain ⟨oldest, others⟩ := List.pairwise_cons.mp numbered
      obtain ⟨left, right, whole, fewer, passed⟩ :=
        List.mergeSort_cons notAfter_trans notAfter_total entry rest
      have sorted := inductionHypothesis others
      have inOrder := List.pairwise_mergeSort notAfter_trans notAfter_total (entry :: rest)
      have among (other : Waiting α) (member : other ∈ left ++ right) : other ∈ rest := by
        rw [← fewer] at member
        exact List.mem_mergeSort.mp member
      rw [whole] at inOrder ⊢
      rw [fewer] at sorted
      obtain ⟨sortedLeft, sortedRight, across⟩ := List.pairwise_append.mp sorted
      obtain ⟨_, later, _⟩ := List.pairwise_append.mp inOrder
      have first (other : Waiting α) (member : other ∈ right) :
          entry.place.Before other.place := by
        have smaller := oldest other (among other (List.mem_append_right left member))
        have notLater := (List.pairwise_cons.mp later).1 other member
        simp only [notAfter, decide_eq_true_eq, Instant.le_iff_nanos_le] at notLater
        rw [Place.before_iff]
        omega
      have last (other : Waiting α) (member : other ∈ left) :
          other.place.Before entry.place := by
        have passed := passed other member
        simp only [notAfter, Bool.not_eq_true', decide_eq_false_iff_not,
          Instant.le_iff_nanos_le] at passed
        rw [Place.before_iff]
        omega
      refine List.pairwise_append.mpr
        ⟨sortedLeft, List.pairwise_cons.mpr ⟨first, sortedRight⟩, ?_⟩
      intro other member later among
      rcases List.mem_cons.mp among with rfl | deeper
      · exact last other member
      · exact across other member later deeper

/-- The entries in the order of their places are known from the entries. -/
theorem eq_mergeSort
    {entries sorted : List (Waiting α)}
    (numbered : entries.Pairwise fun a b => a.place.seq < b.place.seq)
    (inOrder : sorted.Pairwise fun a b => a.place.Before b.place)
    (same : sorted.Perm entries) :
    sorted = entries.mergeSort notAfter := by
  apply List.Perm.eq_of_pairwise ?_ inOrder (pairwise_mergeSort_before numbered)
    (same.trans (List.mergeSort_perm _ _).symm)
  intro a b _ _ before after
  rw [Place.before_iff] at before after
  omega

/-- Sorting pays no attention to numbers. -/
theorem map_unnumbered_mergeSort (entries : List (Waiting α)) :
    (entries.mergeSort notAfter).map unnumbered =
      (entries.map unnumbered).mergeSort Agenda.notAfter :=
  List.map_mergeSort fun _ _ _ _ => rfl

end Waiting

/-- What is due in a list in the order of places is its beginning. -/
theorem RetryQueue.takeWhile_isDue
    {α : Type}
    {scheduled : List (Waiting α)}
    (sorted : scheduled.Pairwise fun a b => a.place.Before b.place)
    (now : Instant) :
    scheduled.takeWhile (isDue now) = scheduled.filter (isDue now) ∧
      scheduled.dropWhile (isDue now) = scheduled.filter fun entry => !isDue now entry := by
  induction scheduled with
  | nil => exact ⟨rfl, rfl⟩
  | cons first rest inductionHypothesis =>
      obtain ⟨ahead, others⟩ := List.pairwise_cons.mp sorted
      obtain ⟨taken, dropped⟩ := inductionHypothesis others
      by_cases due : isDue now first = true
      · simp [due, taken, dropped]
      · have undue : ∀ entry ∈ rest, isDue now entry = false := by
          intro entry member
          have after := (ahead entry member).readyAt_le
          simp only [isDue, decide_eq_true_eq, decide_eq_false_iff_not,
            Instant.le_iff_nanos_le] at *
          omega
        have none : rest.filter (isDue now) = [] := by
          simpa using undue
        have all : (rest.filter fun entry => !isDue now entry) = rest := by
          simpa using undue
        simp [due, none, all]

/-! ## Agendas and sorted entries -/

namespace Agenda

variable {α : Type}

/--
The entries in the order of their places, with the number of the next one and what may be
taken, hold the same as the agenda.

The agenda has the entries in the order of their numbers, which is that of scheduling.
-/
structure Holds
    (agenda : Agenda α)
    (scheduled : List (Waiting α))
    (nextSeq : Nat)
    (ready : List α) :
    Prop where
  sorted : scheduled.Pairwise fun a b => a.place.Before b.place
  enrolled :
    ∃ entries : List (Waiting α),
      entries.Perm scheduled ∧
        entries.Pairwise (fun a b => a.place.seq < b.place.seq) ∧
        (∀ entry ∈ entries, entry.place.seq < nextSeq) ∧
        entries.map Waiting.unnumbered = agenda.waiting
  ready_eq : agenda.ready = ready

namespace Holds

variable {agenda : Agenda α}
variable {scheduled : List (Waiting α)}
variable {nextSeq : Nat}
variable {ready : List α}

theorem start (nextSeq : Nat) : (⟨[], []⟩ : Agenda α).Holds [] nextSeq [] where
  sorted := .nil
  enrolled := ⟨[], .nil, .nil, List.forall_mem_nil _, rfl⟩
  ready_eq := rfl

/-- Leaving a number out does no harm. -/
theorem skip (holds : agenda.Holds scheduled nextSeq ready) :
    agenda.Holds scheduled (nextSeq + 1) ready where
  sorted := holds.sorted
  enrolled := by
    obtain ⟨entries, same, numbered, below, waiting⟩ := holds.enrolled
    exact
      ⟨entries, same, numbered, fun entry member => Nat.lt_succ_of_lt (below entry member), waiting⟩
  ready_eq := holds.ready_eq

theorem numbered (holds : agenda.Holds scheduled nextSeq ready) :
    ∀ entry ∈ scheduled, entry.place.seq < nextSeq := by
  obtain ⟨entries, same, _, below, _⟩ := holds.enrolled
  intro entry member
  exact below entry (same.mem_iff.mpr member)

/-- No two entries have one number. -/
theorem distinct (holds : agenda.Holds scheduled nextSeq ready) :
    scheduled.Pairwise fun a b => a.place.seq ≠ b.place.seq := by
  obtain ⟨entries, same, numbered, _, _⟩ := holds.enrolled
  refine (same.pairwise_iff fun differ => differ.symm).mp (numbered.imp ?_)
  intro a b smaller
  exact Nat.ne_of_lt smaller

/-- A new entry is put in its place here and at the end there. -/
theorem schedule
    (holds : agenda.Holds scheduled nextSeq ready)
    (readyAt : Instant)
    (payload : α) :
    ({ agenda with waiting := agenda.waiting ++ [(readyAt, payload)] } : Agenda α).Holds
      (RetryQueue.insert ⟨⟨readyAt, nextSeq⟩, payload⟩ scheduled) (nextSeq + 1) ready where
  sorted := RetryQueue.sorted_insert holds.sorted holds.numbered
  enrolled := by
    obtain ⟨entries, same, numbered, below, waiting⟩ := holds.enrolled
    refine ⟨entries ++ [⟨⟨readyAt, nextSeq⟩, payload⟩], ?_, ?_, ?_, ?_⟩
    · exact (List.perm_append_singleton _ _).trans
        ((same.cons _).trans (RetryQueue.insert_perm _ _).symm)
    · refine List.pairwise_append.mpr ⟨numbered, List.pairwise_singleton _ _, ?_⟩
      intro entry member other last
      cases List.mem_singleton.mp last
      exact below entry member
    · intro entry member
      rcases List.mem_append.mp member with earlier | last
      · exact Nat.lt_succ_of_lt (below entry earlier)
      · cases List.mem_singleton.mp last
        exact Nat.lt_succ_self nextSeq
    · rw [List.map_append, waiting]
      rfl
  ready_eq := holds.ready_eq

/-- What is taken from the front here is sorted out there. -/
theorem promoteDue
    (holds : agenda.Holds scheduled nextSeq ready)
    (now : Instant) :
    (scheduled.takeWhile (RetryQueue.isDue now)).length = (agenda.promoteDue now).1 ∧
      (agenda.promoteDue now).2.Holds
        (scheduled.dropWhile (RetryQueue.isDue now))
        nextSeq
        (ready ++ (scheduled.takeWhile (RetryQueue.isDue now)).map Waiting.payload) := by
  obtain ⟨taken, dropped⟩ := RetryQueue.takeWhile_isDue holds.sorted now
  obtain ⟨entries, same, numbered, below, waiting⟩ := holds.enrolled
  have due :
      agenda.waiting.filter (isDue now) =
        (entries.filter (RetryQueue.isDue now)).map Waiting.unnumbered := by
    rw [← waiting, List.filter_map]
    rfl
  have undue :
      (agenda.waiting.filter fun waiting => !isDue now waiting) =
        (entries.filter fun entry => !RetryQueue.isDue now entry).map Waiting.unnumbered := by
    rw [← waiting, List.filter_map]
    rfl
  have inOrder :
      scheduled.filter (RetryQueue.isDue now) =
        (entries.filter (RetryQueue.isDue now)).mergeSort Waiting.notAfter :=
    Waiting.eq_mergeSort
      (numbered.sublist List.filter_sublist)
      (holds.sorted.sublist List.filter_sublist)
      (same.symm.filter _)
  constructor
  · rw [taken, Agenda.promoteDue, due, List.length_map]
    exact (same.symm.filter _).length_eq
  · constructor
    · exact holds.sorted.sublist (List.dropWhile_sublist _)
    · refine ⟨entries.filter fun entry => !RetryQueue.isDue now entry, ?_, ?_, ?_, undue.symm⟩
      · rw [dropped]
        exact same.filter _
      · exact numbered.sublist List.filter_sublist
      · intro entry member
        exact below entry (List.mem_of_mem_filter member)
    · rw [Agenda.promoteDue, due, ← Waiting.map_unnumbered_mergeSort, ← inOrder, taken,
        holds.ready_eq, List.map_map]
      rfl

theorem size_eq (holds : agenda.Holds scheduled nextSeq ready) :
    agenda.waiting.length = scheduled.length := by
  obtain ⟨entries, same, _, _, waiting⟩ := holds.enrolled
  rw [← waiting, List.length_map, same.length_eq]

/-- The first entry waits for the earliest instant. -/
theorem earliest_eq (holds : agenda.Holds scheduled nextSeq ready) :
    (scheduled.head?.map fun entry => entry.place.readyAt) = waitlist.earliest? agenda := by
  obtain ⟨entries, same, _, _, waiting⟩ := holds.enrolled
  have sorted := holds.sorted
  change _ = ((agenda.waiting.map fun waiting => waiting.1.nanos).min?).map Instant.mk
  have instants :
      (agenda.waiting.map fun waiting => waiting.1.nanos).Perm
        (scheduled.map fun entry => entry.place.readyAt.nanos) := by
    rw [← waiting, List.map_map]
    exact same.map _
  cases scheduled with
  | nil =>
      rw [List.map_nil, List.perm_nil] at instants
      rw [instants]
      rfl
  | cons first rest =>
      have least :
          (agenda.waiting.map fun waiting => waiting.1.nanos).min? =
            some first.place.readyAt.nanos := by
        apply List.min?_eq_some_iff.mpr
        constructor
        · exact instants.mem_iff.mpr List.mem_cons_self
        · intro nanos member
          obtain ⟨entry, among, rfl⟩ := List.mem_map.mp (instants.mem_iff.mp member)
          rcases List.mem_cons.mp among with rfl | later
          · exact Nat.le_refl _
          · exact ((List.pairwise_cons.mp sorted).1 entry later).readyAt_le
      rw [least]
      rfl

end Holds

end Agenda

/-! ## The retry queue as a waiting list -/

namespace RetryQueue

variable {α : Type}

/-- The operations of a retry queue, without those of its timer. -/
def waitlist : Waitlist (RetryQueue α) α where
  start := ∅
  schedule queue payload delay now :=
    match queue.schedule? payload delay now with
    | some (_, later) => (true, later)
    | none => (false, queue)
  promoteDue := RetryQueue.promoteDue
  popReady? queue := queue.popReady?.map fun (entry, rest) => (entry.payload, rest)
  clear := RetryQueue.clear
  size := RetryQueue.size
  isEmpty := RetryQueue.isEmpty
  earliest? := RetryQueue.nextDeadline?

/-- A retry queue and an agenda that hold the same. -/
def Mirrors (queue : RetryQueue α) (agenda : Agenda α) : Prop :=
  agenda.Holds queue.scheduled queue.nextSeq (queue.ready.map Waiting.payload)

/-- A retry queue looks like the plain waiting list. -/
theorem looksLike_agenda :
    (waitlist : Waitlist (RetryQueue α) α).LooksLike Agenda.waitlist Mirrors where
  start := .start 0
  schedule {queue agenda} payload delay now mirrors := by
    simp only [waitlist, Agenda.waitlist, schedule?]
    cases now.after? delay with
    | none => exact ⟨rfl, mirrors⟩
    | some readyAt => exact ⟨rfl, mirrors.schedule readyAt payload⟩
  promoteDue {queue agenda} now mirrors := by
    obtain ⟨count, later⟩ := mirrors.promoteDue now
    refine ⟨count, ?_⟩
    rw [← List.map_append] at later
    exact later
  popReady {queue agenda} mirrors := by
    have same := mirrors.ready_eq
    cases ready : queue.ready with
    | nil =>
        rw [ready, List.map_nil] at same
        left
        simp only [waitlist, Agenda.waitlist, popReady?, ready, same, Option.map_none, and_self]
    | cons entry rest =>
        rw [ready, List.map_cons] at same
        right
        simp only [waitlist, Agenda.waitlist, popReady?, ready, same]
        exact ⟨_, _, _, rfl, rfl, mirrors.sorted, mirrors.enrolled, rfl⟩
  clear {queue agenda} mirrors := .start queue.nextSeq
  size {queue agenda} mirrors := by
    change queue.scheduled.length + queue.ready.length =
      agenda.waiting.length + agenda.ready.length
    rw [mirrors.size_eq, mirrors.ready_eq, List.length_map]
  isEmpty {queue agenda} mirrors := by
    have waiting := mirrors.size_eq
    have ready := congrArg List.length mirrors.ready_eq
    rw [List.length_map] at ready
    change (queue.scheduled.length + queue.ready.length == 0) =
      (agenda.waiting.isEmpty && agenda.ready.isEmpty)
    rw [← waiting, ← ready]
    cases agenda.waiting <;> cases agenda.ready <;> simp
  earliest mirrors := mirrors.earliest_eq

end RetryQueue

end Resubmit
