import Resubmit.Instant

namespace Resubmit

/-!
# Retries that wait

A retry queue holds what has to wait for an instant, and what has waited long
enough and may be taken.  Waiting entries are kept in the order of their places:
the earlier instant first, of equal instants the one scheduled first.  One timer
is armed for the first waiting entry.
-/

/-- A place among the waiting entries: an instant, and a number that breaks ties. -/
structure Place where
  readyAt : Instant
  seq : Nat
  deriving Repr, DecidableEq

namespace Place

/-- The order of places: by instant, then by number. -/
def Before (a b : Place) : Prop :=
  a.readyAt < b.readyAt ∨ (a.readyAt = b.readyAt ∧ a.seq < b.seq)

instance (a b : Place) : Decidable (a.Before b) :=
  inferInstanceAs (Decidable (_ ∨ _))

end Place

/-- Something that waits at a place. -/
structure Waiting (α : Type) where
  place : Place
  payload : α
  deriving Repr, DecidableEq

/-- Waiting entries, entries that may be taken, and the timer. -/
structure RetryQueue (α : Type) where
  /-- The waiting entries in the order of their places. -/
  scheduled : List (Waiting α)
  /-- The entries that may be taken, the first one first. -/
  ready : List (Waiting α)
  /-- The number of the next entry to be scheduled. -/
  nextSeq : Nat
  /-- The deadline of the timer, if it is armed. -/
  timer : Option Instant
  deriving Repr, DecidableEq

namespace RetryQueue

def empty : RetryQueue α where
  scheduled := []
  ready := []
  nextSeq := 0
  timer := none

instance : EmptyCollection (RetryQueue α) where
  emptyCollection := empty

def size (queue : RetryQueue α) : Nat :=
  queue.scheduled.length + queue.ready.length

def isEmpty (queue : RetryQueue α) : Bool :=
  queue.size == 0

/-- The instant for which the first waiting entry waits. -/
def nextDeadline? (queue : RetryQueue α) : Option Instant :=
  queue.scheduled.head?.map fun entry => entry.place.readyAt

/-- Put an entry before the first one whose place comes after its own. -/
def insert (entry : Waiting α) : List (Waiting α) → List (Waiting α)
  | [] => [entry]
  | other :: rest =>
      if entry.place.Before other.place then
        entry :: other :: rest
      else
        other :: insert entry rest

/--
Let a payload wait for a delay from now.

There is no result when the clock cannot represent the end of the delay.
-/
def schedule?
    (queue : RetryQueue α)
    (payload : α)
    (delay : Duration)
    (now : Instant) :
    Option (Waiting α × RetryQueue α) := do
  let readyAt ← Instant.after? now delay
  let entry : Waiting α := {
    place := { readyAt := readyAt, seq := queue.nextSeq }
    payload := payload
  }
  return (entry, {
    queue with
    scheduled := insert entry queue.scheduled
    nextSeq := queue.nextSeq + 1
  })

/-- Whether an entry has waited long enough. -/
def isDue (now : Instant) (entry : Waiting α) : Bool :=
  entry.place.readyAt ≤ now

/-- Make every entry that is due takeable, in the order of their places; also count them. -/
def promoteDue (queue : RetryQueue α) (now : Instant) : Nat × RetryQueue α :=
  let due := queue.scheduled.takeWhile (isDue now)
  (due.length, {
    queue with
    scheduled := queue.scheduled.dropWhile (isDue now)
    ready := queue.ready ++ due
  })

/-- Take the first entry that may be taken. -/
def popReady? (queue : RetryQueue α) : Option (Waiting α × RetryQueue α) :=
  match queue.ready with
  | [] => none
  | entry :: rest => some (entry, { queue with ready := rest })

/--
Look at the timer of the first waiting entry, arming or moving it first.

`fired` tells whether a timer with that deadline has gone off.  If so, every entry
is promoted that is due by now or by the deadline, whichever is later.  Without a
waiting entry no timer is kept.
-/
def pollTimer
    (queue : RetryQueue α)
    (fired : Bool)
    (now : Instant) :
    Bool × RetryQueue α :=
  match queue.nextDeadline? with
  | none => (false, { queue with timer := none })
  | some deadline =>
      let armed := { queue with timer := some deadline }
      if fired then
        (true, (armed.promoteDue (max now deadline)).2)
      else
        (false, armed)

/-- Forget every entry and the timer. -/
def clear (queue : RetryQueue α) : RetryQueue α where
  scheduled := []
  ready := []
  nextSeq := queue.nextSeq
  timer := none

/-! ## Sizes -/

@[simp] theorem length_insert (entry : Waiting α) (entries : List (Waiting α)) :
    (insert entry entries).length = entries.length + 1 := by
  induction entries with
  | nil => rfl
  | cons other rest inductionHypothesis =>
      unfold insert
      split <;> simp [inductionHypothesis]

@[simp] theorem size_promoteDue (queue : RetryQueue α) (now : Instant) :
    (queue.promoteDue now).2.size = queue.size := by
  have split :=
    congrArg List.length
      (List.takeWhile_append_dropWhile (p := isDue now) (l := queue.scheduled))
  simp only [List.length_append] at split
  simp only [promoteDue, size, List.length_append]
  omega

@[simp] theorem size_clear (queue : RetryQueue α) : queue.clear.size = 0 :=
  rfl

end RetryQueue

end Resubmit
