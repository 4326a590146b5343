import Mathlib.Data.List.Pairwise
import Mathlib.Data.Multiset.Basic
import Resubmit.Proofs.Waitlist

namespace Resubmit

/-!
# Queues over a heap

A heap gives out the greatest of its elements.  When places are compared in reverse, this is
the entry that comes first, and taking from the heap for as long as its top is due sorts what
is due.  It does not matter how the heap does that: every such queue looks like the plain
waiting list, and so does the retry queue of a flow, whose sorted list is one of these heaps.
-/

/-- A heap with a greatest element on top, whatever it does inside. -/
structure MaxHeap (H β : Type) (order : β → β → Ordering) where
  empty : H
  push : β → H → H
  peek? : H → Option β
  pop? : H → Option (β × H)
  clear : H → H
  size : H → Nat
  /-- What a heap holds, in whatever order. -/
  contents : H → Multiset β
  contents_empty : contents empty = 0
  contents_push : ∀ element heap, contents (push element heap) = element ::ₘ contents heap
  contents_clear : ∀ heap, contents (clear heap) = 0
  size_eq : ∀ heap, size heap = (contents heap).card
  contents_of_peek?_none : ∀ {heap}, peek? heap = none → contents heap = 0
  greatest_of_peek? :
    ∀ {heap top}, peek? heap = some top →
      top ∈ contents heap ∧ ∀ other ∈ contents heap, order other top ≠ .gt
  contents_of_pop?_none : ∀ {heap}, pop? heap = none → contents heap = 0
  greatest_of_pop? :
    ∀ {heap top rest}, pop? heap = some (top, rest) →
      contents heap = top ::ₘ contents rest ∧ ∀ other ∈ contents heap, order other top ≠ .gt

namespace Place

/-- The comparison of places in reverse: what comes first is the greatest. -/
def reversed (a b : Place) : Ordering :=
  (compare b.readyAt.nanos a.readyAt.nanos).then (compare b.seq a.seq)

theorem reversed_eq_gt_iff {a b : Place} : a.reversed b = .gt ↔ a.Before b := by
  rw [reversed, Ordering.then_eq_gt, Nat.compare_eq_gt, Nat.compare_eq_eq, Nat.compare_eq_gt,
    before_iff]
  omega

theorem reversed_eq_lt_iff {a b : Place} : a.reversed b = .lt ↔ b.Before a := by
  rw [reversed, Ordering.then_eq_lt, Nat.compare_eq_lt, Nat.compare_eq_eq, Nat.compare_eq_lt,
    before_iff]

theorem not_before_self (a : Place) : ¬ a.Before a := by
  rw [before_iff]
  omega

/-- Places with different numbers are one before the other. -/
theorem before_or_before {a b : Place} (differ : a.seq ≠ b.seq) : a.Before b ∨ b.Before a := by
  rw [before_iff, before_iff]
  omega

/-- A place that does not come before another one comes after whatever that one follows. -/
theorem not_before_trans {a b c : Place} (first : ¬ b.Before a) (second : ¬ c.Before b) :
    ¬ c.Before a := by
  rw [before_iff] at *
  omega

end Place

namespace Waiting

variable {α : Type}

/-- The reversed comparison of entries, which is that of their places. -/
def reversed (a b : Waiting α) : Ordering :=
  a.place.reversed b.place

/--
Entries whose numbers tell them apart.

The reversed comparison then is a strict order in which any two of them are comparable.
-/
structure Ranked (entries : List (Waiting α)) (nextSeq : Nat) : Prop where
  distinct : entries.Pairwise fun a b => a.place.seq ≠ b.place.seq
  below : ∀ entry ∈ entries, entry.place.seq < nextSeq
  order :
    IsStrictTotalOrder {entry // entry ∈ entries} fun a b => a.val.reversed b.val = .lt

theorem Ranked.of_distinct
    {entries : List (Waiting α)}
    {nextSeq : Nat}
    (distinct : entries.Pairwise fun a b => a.place.seq ≠ b.place.seq)
    (below : ∀ entry ∈ entries, entry.place.seq < nextSeq) :
    Ranked entries nextSeq where
  distinct := distinct
  below := below
  order := {
    trichotomous a b notBelow notAbove := by
      have symmetric : Std.Symm fun a b : Waiting α => a.place.seq ≠ b.place.seq :=
        ⟨fun _ _ differ => differ.symm⟩
      by_contra differ
      have differ : a.val ≠ b.val := fun same => differ (Subtype.ext same)
      have numbers := distinct.forall a.property b.property differ
      rcases Place.before_or_before numbers with before | after
      · exact notAbove (Place.reversed_eq_lt_iff.mpr before)
      · exact notBelow (Place.reversed_eq_lt_iff.mpr after)
    irrefl a below := Place.not_before_self _ (Place.reversed_eq_lt_iff.mp below)
    trans a b c first second :=
      Place.reversed_eq_lt_iff.mpr
        ((Place.reversed_eq_lt_iff.mp second).trans (Place.reversed_eq_lt_iff.mp first))
  }

end Waiting

/-! ## The top of a heap of entries -/

namespace MaxHeap

variable {H α : Type}
variable {heap : MaxHeap H (Waiting α) Waiting.reversed}
variable {state : H}
variable {first : Waiting α}
variable {rest : List (Waiting α)}

/-- The greatest of some entries is the first one in the order of their places. -/
theorem eq_first
    {top : Waiting α}
    (sorted : (first :: rest).Pairwise fun a b => a.place.Before b.place)
    (among : top ∈ first :: rest)
    (greatest : ∀ other ∈ first :: rest, other.reversed top ≠ .gt) :
    top = first := by
  rcases List.mem_cons.mp among with same | later
  · exact same
  · have before := (List.pairwise_cons.mp sorted).1 top later
    exact (greatest first List.mem_cons_self (Place.reversed_eq_gt_iff.mpr before)).elim

theorem peek?_eq
    (sorted : (first :: rest).Pairwise fun a b => a.place.Before b.place)
    (held : heap.contents state = ↑(first :: rest)) :
    heap.peek? state = some first := by
  cases peeked : heap.peek? state with
  | none =>
      rw [heap.contents_of_peek?_none peeked] at held
      exact absurd (Multiset.coe_eq_zero _ |>.mp held.symm) (List.cons_ne_nil _ _)
  | some top =>
      obtain ⟨among, greatest⟩ := heap.greatest_of_peek? peeked
      rw [held] at among greatest
      rw [eq_first sorted among greatest]

theorem peek?_eq_none (held : heap.contents state = 0) : heap.peek? state = none := by
  cases peeked : heap.peek? state with
  | none => rfl
  | some top =>
      have among := (heap.greatest_of_peek? peeked).1
      rw [held] at among
      exact (Multiset.notMem_zero top among).elim

theorem pop?_eq
    (sorted : (first :: rest).Pairwise fun a b => a.place.Before b.place)
    (held : heap.contents state = ↑(first :: rest)) :
    ∃ later, heap.pop? state = some (first, later) ∧ heap.contents later = ↑rest := by
  cases popped : heap.pop? state with
  | none =>
      rw [heap.contents_of_pop?_none popped] at held
      exact absurd (Multiset.coe_eq_zero _ |>.mp held.symm) (List.cons_ne_nil _ _)
  | some taken =>
      obtain ⟨top, later⟩ := taken
      obtain ⟨split, greatest⟩ := heap.greatest_of_pop? popped
      rw [held] at split greatest
      have among : top ∈ first :: rest := by
        rw [← Multiset.mem_coe, split]
        exact Multiset.mem_cons_self top _
      cases eq_first sorted among greatest
      exact ⟨later, rfl, (Multiset.cons_inj_right first).mp split.symm⟩

theorem size_lt_of_pop?
    {top : Waiting α}
    {later : H}
    (popped : heap.pop? state = some (top, later)) :
    heap.size later < heap.size state := by
  rw [heap.size_eq, heap.size_eq, (heap.greatest_of_pop? popped).1, Multiset.card_cons]
  exact Nat.lt_succ_self _

end MaxHeap

/-! ## The queue -/

/-- Entries in a heap, what may be taken, and the number of the next entry. -/
structure HeapQueue (H α : Type) where
  scheduled : H
  ready : List α
  nextSeq : Nat

namespace HeapQueue

variable {H α : Type}

/-- Take from the heap for as long as its top has waited long enough; also count. -/
def promoteDue
    (heap : MaxHeap H (Waiting α) Waiting.reversed)
    (queue : HeapQueue H α)
    (now : Instant) :
    Nat × HeapQueue H α :=
  match heap.peek? queue.scheduled with
  | none => (0, queue)
  | some top =>
      if top.place.readyAt ≤ now then
        match _popped : heap.pop? queue.scheduled with
        | none => (0, queue)
        | some (entry, rest) =>
            let (count, later) := promoteDue heap
              { queue with
                scheduled := rest
                ready := queue.ready ++ [entry.payload] }
              now
            (count + 1, later)
      else
        (0, queue)
termination_by heap.size queue.scheduled
decreasing_by exact MaxHeap.size_lt_of_pop? _popped

/-- The operations of a queue over a heap; a number is used up even if the clock runs over. -/
def waitlist (heap : MaxHeap H (Waiting α) Waiting.reversed) : Waitlist (HeapQueue H α) α where
  start := ⟨heap.empty, [], 0⟩
  schedule queue payload delay now :=
    let counted := { queue with nextSeq := queue.nextSeq + 1 }
    match Instant.after? now delay with
    | some readyAt =>
        (true, { counted with
          scheduled := heap.push ⟨⟨readyAt, queue.nextSeq⟩, payload⟩ queue.scheduled })
    | none => (false, counted)
  promoteDue := promoteDue heap
  popReady? queue :=
    match queue.ready with
    | [] => none
    | payload :: rest => some (payload, { queue with ready := rest })
  clear queue := { queue with scheduled := heap.clear queue.scheduled, ready := [] }
  size queue := heap.size queue.scheduled + queue.ready.length
  isEmpty queue := heap.size queue.scheduled + queue.ready.length == 0
  earliest? queue := (heap.peek? queue.scheduled).map fun top => top.place.readyAt

variable {heap : MaxHeap H (Waiting α) Waiting.reversed}

/-- A queue whose heap holds the entries of a sorted list, and an agenda that holds the same. -/
def Mirrors
    (heap : MaxHeap H (Waiting α) Waiting.reversed)
    (queue : HeapQueue H α)
    (agenda : Agenda α) :
    Prop :=
  ∃ scheduled : List (Waiting α),
    heap.contents queue.scheduled = ↑scheduled ∧
      agenda.Holds scheduled queue.nextSeq queue.ready

/-- Taking from the top while it is due takes the beginning of the sorted list. -/
theorem promoteDue_eq
    {queue : HeapQueue H α}
    {scheduled : List (Waiting α)}
    (sorted : scheduled.Pairwise fun a b => a.place.Before b.place)
    (held : heap.contents queue.scheduled = ↑scheduled)
    (now : Instant) :
    (promoteDue heap queue now).1 = (scheduled.takeWhile (RetryQueue.isDue now)).length ∧
      heap.contents (promoteDue heap queue now).2.scheduled =
        ↑(scheduled.dropWhile (RetryQueue.isDue now)) ∧
      (promoteDue heap queue now).2.ready =
        queue.ready ++ (scheduled.takeWhile (RetryQueue.isDue now)).map Waiting.payload ∧
      (promoteDue heap queue now).2.nextSeq = queue.nextSeq := by
  induction scheduled generalizing queue with
  | nil =>
      have stop : promoteDue heap queue now = (0, queue) := by
        rw [promoteDue, MaxHeap.peek?_eq_none held]
      rw [stop]
      exact ⟨rfl, held, (List.append_nil _).symm, rfl⟩
  | cons first rest inductionHypothesis =>
      have top := MaxHeap.peek?_eq sorted held
      by_cases due : first.place.readyAt ≤ now
      · obtain ⟨later, popped, remaining⟩ := MaxHeap.pop?_eq sorted held
        have isDue : RetryQueue.isDue now first = true := decide_eq_true due
        have go :
            promoteDue heap queue now =
              ((promoteDue heap
                  ⟨later, queue.ready ++ [first.payload], queue.nextSeq⟩ now).1 + 1,
                (promoteDue heap
                  ⟨later, queue.ready ++ [first.payload], queue.nextSeq⟩ now).2) := by
          rw [promoteDue, top]
          simp only [due, ↓reduceIte]
          split
          · rename_i nothing
            rw [popped] at nothing
            cases nothing
          · rename_i same
            rw [popped] at same
            cases same
            rfl
        obtain ⟨count, contents, ready, number⟩ :=
          @inductionHypothesis ⟨later, queue.ready ++ [first.payload], queue.nextSeq⟩
            (List.pairwise_cons.mp sorted).2 remaining
        rw [go, List.takeWhile_cons_of_pos isDue, List.dropWhile_cons_of_pos isDue]
        refine ⟨by rw [count, List.length_cons], contents, ?_, number⟩
        rw [ready, List.map_cons, List.append_assoc, List.singleton_append]
      · have notDue : ¬ RetryQueue.isDue now first = true := by
          rw [RetryQueue.isDue, decide_eq_true_eq]
          exact due
        have stop : promoteDue heap queue now = (0, queue) := by
          rw [promoteDue, top]
          simp only [due, ↓reduceIte]
        rw [stop, List.takeWhile_cons_of_neg notDue, List.dropWhile_cons_of_neg notDue]
        exact ⟨rfl, held, (List.append_nil _).symm, rfl⟩

/-- A queue over a heap looks like the plain waiting list. -/
theorem looksLike_agenda (heap : MaxHeap H (Waiting α) Waiting.reversed) :
    (waitlist heap).LooksLike Agenda.waitlist (Mirrors heap) where
  start := ⟨[], heap.contents_empty, .start 0⟩
  schedule {queue agenda} payload delay now mirrors := by
    obtain ⟨scheduled, held, holds⟩ := mirrors
    simp only [waitlist, Agenda.waitlist]
    cases now.after? delay with
    | none => exact ⟨rfl, scheduled, held, holds.skip⟩
    | some readyAt =>
        refine ⟨rfl, _, ?_, holds.schedule readyAt payload⟩
        rw [heap.contents_push, held]
        exact Multiset.coe_eq_coe.mpr (RetryQueue.insert_perm _ _).symm
  promoteDue {queue agenda} now mirrors := by
    obtain ⟨scheduled, held, holds⟩ := mirrors
    obtain ⟨count, contents, ready, number⟩ := promoteDue_eq holds.sorted held now
    obtain ⟨same, later⟩ := holds.promoteDue now
    refine ⟨count.trans same, _, contents, ?_⟩
    change (agenda.promoteDue now).2.Holds _ (promoteDue heap queue now).2.nextSeq
      (promoteDue heap queue now).2.ready
    rw [ready, number]
    exact later
  popReady {queue agenda} mirrors := by
    obtain ⟨scheduled, held, holds⟩ := mirrors
    have same := holds.ready_eq
    cases ready : queue.ready with
    | nil =>
        rw [ready] at same
        left
        simp only [waitlist, Agenda.waitlist, ready, same, and_self]
    | cons payload rest =>
        rw [ready] at same
        right
        simp only [waitlist, Agenda.waitlist, ready, same]
        exact ⟨_, _, _, rfl, rfl, scheduled, held, holds.sorted, holds.enrolled, rfl⟩
  clear {queue agenda} mirrors := ⟨[], heap.contents_clear _, .start queue.nextSeq⟩
  size {queue agenda} mirrors := by
    obtain ⟨scheduled, held, holds⟩ := mirrors
    change heap.size queue.scheduled + queue.ready.length =
      agenda.waiting.length + agenda.ready.length
    rw [heap.size_eq, held, holds.size_eq, holds.ready_eq, Multiset.coe_card]
  isEmpty {queue agenda} mirrors := by
    obtain ⟨scheduled, held, holds⟩ := mirrors
    change (heap.size queue.scheduled + queue.ready.length == 0) =
      (agenda.waiting.isEmpty && agenda.ready.isEmpty)
    rw [heap.size_eq, held, Multiset.coe_card, ← holds.size_eq, ← holds.ready_eq]
    cases agenda.waiting <;> cases agenda.ready <;> simp
  earliest {queue agenda} mirrors := by
    obtain ⟨scheduled, held, holds⟩ := mirrors
    rw [← holds.earliest_eq]
    change (heap.peek? queue.scheduled).map _ = _
    have sorted := holds.sorted
    cases scheduled with
    | nil => rw [MaxHeap.peek?_eq_none held]; rfl
    | cons first rest => rw [MaxHeap.peek?_eq sorted held]; rfl

end HeapQueue

/-! ## The list of a retry queue is a heap -/

namespace RetryQueue

variable {α : Type}

/-- Entries none of which comes before an earlier one of the list. -/
def SortedEntries (α : Type) : Type :=
  {entries : List (Waiting α) // entries.Pairwise fun a b => ¬ b.place.Before a.place}

/-- The first of sorted entries is one of the greatest. -/
theorem reversed_first
    {first : Waiting α}
    {rest : List (Waiting α)}
    (sorted : (first :: rest).Pairwise fun a b => ¬ b.place.Before a.place) :
    ∀ other ∈ first :: rest, other.reversed first ≠ .gt := by
  intro other member
  rw [Waiting.reversed, Ne, Place.reversed_eq_gt_iff]
  rcases List.mem_cons.mp member with rfl | later
  · exact Place.not_before_self _
  · exact (List.pairwise_cons.mp sorted).1 other later

theorem pairwise_insert
    {entries : List (Waiting α)}
    (sorted : entries.Pairwise fun a b => ¬ b.place.Before a.place)
    (entry : Waiting α) :
    (insert entry entries).Pairwise fun a b => ¬ b.place.Before a.place := by
  induction entries with
  | nil => exact List.pairwise_singleton _ _
  | cons other rest inductionHypothesis =>
      obtain ⟨first, others⟩ := List.pairwise_cons.mp sorted
      by_cases before : entry.place.Before other.place
      · rw [insert, if_pos before]
        refine List.pairwise_cons.mpr ⟨?_, sorted⟩
        intro later member
        have notBefore : ¬ other.place.Before entry.place :=
          fun after => Place.not_before_self _ (before.trans after)
        rcases List.mem_cons.mp member with rfl | deeper
        · exact notBefore
        · exact Place.not_before_trans notBefore (first later deeper)
      · rw [insert, if_neg before]
        refine List.pairwise_cons.mpr ⟨?_, inductionHypothesis others⟩
        intro later member
        rcases List.mem_cons.mp ((insert_perm entry rest).mem_iff.mp member) with rfl | deeper
        · exact before
        · exact first later deeper

/-- Sorted entries are a heap whose top is the first of them. -/
def heap : MaxHeap (SortedEntries α) (Waiting α) Waiting.reversed where
  empty := ⟨[], .nil⟩
  push entry entries := ⟨insert entry entries.val, pairwise_insert entries.property entry⟩
  peek? entries := entries.val.head?
  pop? entries :=
    match entries with
    | ⟨[], _⟩ => none
    | ⟨first :: rest, sorted⟩ => some (first, ⟨rest, (List.pairwise_cons.mp sorted).2⟩)
  clear _ := ⟨[], .nil⟩
  size entries := entries.val.length
  contents entries := ↑entries.val
  contents_empty := rfl
  contents_push entry entries := Multiset.coe_eq_coe.mpr (insert_perm entry entries.val)
  contents_clear _ := rfl
  size_eq _ := rfl
  contents_of_peek?_none {entries} none := by
    rw [List.head?_eq_none_iff.mp none]
    rfl
  greatest_of_peek? {entries top} peeked := by
    obtain ⟨entries, sorted⟩ := entries
    cases entries with
    | nil => cases peeked
    | cons first rest =>
        cases peeked
        exact ⟨List.mem_cons_self, reversed_first sorted⟩
  contents_of_pop?_none {entries} none := by
    obtain ⟨_ | ⟨first, rest⟩, sorted⟩ := entries
    · rfl
    · cases none
  greatest_of_pop? {entries top rest} popped := by
    obtain ⟨_ | ⟨first, rest⟩, sorted⟩ := entries
    · cases popped
    · cases popped
      exact ⟨rfl, reversed_first sorted⟩

end RetryQueue

/-! ## What every queue has in common -/

namespace Waitlist

variable {S T α : Type}

/-- How the size of a waiting list changes. -/
structure Counts (list : Waitlist S α) (state : S) : Prop where
  schedule :
    ∀ payload delay now,
      (list.schedule state payload delay now).1 = true →
      list.size (list.schedule state payload delay now).2 = list.size state + 1
  promoteDue : ∀ now, list.size (list.promoteDue state now).2 = list.size state
  popReady :
    ∀ payload later,
      list.popReady? state = some (payload, later) → list.size later + 1 = list.size state

/-- Waiting lists that look alike count alike. -/
theorem LooksLike.counts
    {list : Waitlist S α}
    {other : Waitlist T α}
    {Related : S → T → Prop}
    {state : S}
    {state' : T}
    (alike : list.LooksLike other Related)
    (related : Related state state')
    (counts : other.Counts state') :
    list.Counts state where
  schedule payload delay now represented := by
    obtain ⟨same, next⟩ := alike.schedule payload delay now related
    rw [alike.size next, alike.size related]
    exact counts.schedule payload delay now (same ▸ represented)
  promoteDue now := by
    rw [alike.size (alike.promoteDue now related).2, alike.size related]
    exact counts.promoteDue now
  popReady payload later popped := by
    rcases alike.popReady related with ⟨none, _⟩ | ⟨_, _, later', some, some', next⟩
    · rw [none] at popped
      cases popped
    · rw [some] at popped
      cases popped
      rw [alike.size next, alike.size related]
      exact counts.popReady payload later' some'

end Waitlist

namespace Agenda

variable {α : Type}

theorem counts (agenda : Agenda α) : waitlist.Counts agenda where
  schedule payload delay now represented := by
    simp only [waitlist] at represented ⊢
    cases readyAt : now.after? delay with
    | none =>
        rw [readyAt] at represented
        cases represented
    | some instant =>
        simp only [List.length_append, List.length_singleton]
        omega
  promoteDue now := by
    have split := List.length_eq_length_filter_add (l := agenda.waiting) (isDue now)
    simp only [waitlist, promoteDue, List.length_append, List.length_map, List.length_mergeSort]
    omega
  popReady payload later popped := by
    simp only [waitlist] at popped ⊢
    split at popped
    · cases popped
    · rename_i ready
      cases popped
      simp only [ready, List.length_cons]
      omega

end Agenda

/--
A queue that nobody can tell from one which sorts, in a stable way, what is due.

This is about the queue after some operations from the start: what was seen on the way, what
is left to wait, and how the next operation changes the size.
-/
structure StablySorted
    {S α : Type}
    (list : Waitlist S α)
    (scheduled : S → Multiset (Waiting α))
    (nextSeq : S → Nat)
    (requests : List (Waitlist.Request α)) :
    Prop where
  sights :
    list.sights list.start requests = Agenda.waitlist.sights Agenda.waitlist.start requests
  ranked :
    ∃ entries : List (Waiting α),
      scheduled (list.after list.start requests) = ↑entries ∧
        Waiting.Ranked entries (nextSeq (list.after list.start requests))
  counts : list.Counts (list.after list.start requests)

namespace RetryQueue

variable {α : Type}

/-- The retry queue sorts in a stable way, and so does a queue over whatever heap. -/
theorem stablySorted (requests : List (Waitlist.Request α)) :
    StablySorted waitlist (fun queue => ↑queue.scheduled) RetryQueue.nextSeq requests ∧
      ∀ {H : Type} (heap : MaxHeap H (Waiting α) Waiting.reversed),
        StablySorted
          (HeapQueue.waitlist heap)
          (fun queue => heap.contents queue.scheduled)
          HeapQueue.nextSeq
          requests := by
  constructor
  · have mirrors := looksLike_agenda.after looksLike_agenda.start requests
    exact {
      sights := looksLike_agenda.sights_eq looksLike_agenda.start requests
      ranked := ⟨_, rfl, .of_distinct mirrors.distinct mirrors.numbered⟩
      counts := looksLike_agenda.counts mirrors (Agenda.counts _)
    }
  · intro H heap
    have alike := HeapQueue.looksLike_agenda heap
    have mirrors := alike.after alike.start requests
    obtain ⟨entries, held, holds⟩ := id mirrors
    exact {
      sights := alike.sights_eq alike.start requests
      ranked := ⟨entries, held, .of_distinct holds.distinct holds.numbered⟩
      counts := alike.counts mirrors (Agenda.counts _)
    }

/-- Entries for one instant keep their order, and the earlier one that came last goes first. -/
example :
    (HeapQueue.waitlist heap).sights (HeapQueue.waitlist heap).start
        [.schedule 1 (.ofMillis 5) ⟨0⟩, .schedule 2 (.ofMillis 5) ⟨0⟩,
          .schedule 3 (.ofMillis 1) ⟨0⟩, .promoteDue ⟨5000000⟩, .popReady] =
      [⟨.scheduled, 1, false, some ⟨5000000⟩⟩, ⟨.scheduled, 2, false, some ⟨5000000⟩⟩,
        ⟨.scheduled, 3, false, some ⟨1000000⟩⟩, ⟨.promoted 3, 3, false, none⟩,
        ⟨.popped (some 3), 2, false, none⟩] := by
  have alike := HeapQueue.looksLike_agenda (heap (α := Nat))
  rw [alike.sights_eq alike.start, ← looksLike_agenda.sights_eq looksLike_agenda.start]
  rfl

end RetryQueue

end Resubmit
