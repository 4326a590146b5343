import Resubmit.Duration

namespace Resubmit

/-!
# Instants

An instant is the time since the clock started, in nanoseconds.  The clock counts
whole seconds in a signed word of sixty-four bits and cannot represent what lies
beyond.  Timers work on ticks of one millisecond, which an unsigned word of
sixty-four bits counts up to a last one.
-/

/-- The time on a clock. -/
structure Instant where
  /-- The nanoseconds since the clock started. -/
  nanos : Nat
  deriving Repr, DecidableEq

namespace Instant

/-- The start of the clock. -/
def zero : Instant where
  nanos := 0

instance : Inhabited Instant where
  default := zero

instance : LE Instant where
  le a b := a.nanos ≤ b.nanos

instance : LT Instant where
  lt a b := a.nanos < b.nanos

instance (a b : Instant) : Decidable (a ≤ b) :=
  inferInstanceAs (Decidable (a.nanos ≤ b.nanos))

instance (a b : Instant) : Decidable (a < b) :=
  inferInstanceAs (Decidable (a.nanos < b.nanos))

instance : Max Instant where
  max a b := if a ≤ b then b else a

instance : Min Instant where
  min a b := if a ≤ b then a else b

instance : HAdd Instant Duration Instant where
  hAdd now span := ⟨now.nanos + span.toNanos⟩

/-- Instants are ordered by their nanoseconds. -/
theorem le_iff_nanos_le {a b : Instant} : a ≤ b ↔ a.nanos ≤ b.nanos :=
  Iff.rfl

/-- Instants are strictly ordered by their nanoseconds. -/
theorem lt_iff_nanos_lt {a b : Instant} : a < b ↔ a.nanos < b.nanos :=
  Iff.rfl

/-- Two instants of equally many nanoseconds are the same. -/
theorem eq_iff_nanos_eq {a b : Instant} : a = b ↔ a.nanos = b.nanos := by
  cases a
  cases b
  simp

/-- A span leads as many nanoseconds on as it has. -/
@[simp] theorem nanos_add (now : Instant) (span : Duration) :
    (now + span).nanos = now.nanos + span.toNanos :=
  rfl

/-- The later of two instants has the greater number of nanoseconds. -/
@[simp] theorem nanos_max (a b : Instant) : (max a b).nanos = max a.nanos b.nanos := by
  change (if a ≤ b then b else a).nanos = _
  split <;> rename_i h <;> rw [le_iff_nanos_le] at h <;> omega

/-! ## The range of the clock -/

/-- One more than the greatest number of whole seconds that the clock can count. -/
def secondsLimit : Nat := 0x8000000000000000

/-- The instant so many nanoseconds later, if the clock can represent it. -/
def later? (now : Instant) (nanos : Nat) : Option Instant :=
  if now.nanos + nanos < secondsLimit * nanosPerSecond then
    some ⟨now.nanos + nanos⟩
  else
    none

/-- The instant after a delay, if the clock can represent it. -/
def after? (now : Instant) (delay : Duration) : Option Instant :=
  now.later? delay.toNanos

/-- Thirty years of three hundred and sixty-five days. -/
def thirtyYears : Duration :=
  { Duration.zero with secs := 946080000 }

/--
The end of a sleep, if the clock can represent it.

A sleep never lasts longer than thirty years.
-/
def sleepEnd? (now : Instant) (length : Duration) : Option Instant :=
  now.after? (min length thirtyYears)

/-- A later instant is that many nanoseconds on. -/
theorem nanos_of_later? {now after : Instant} {nanos : Nat} (h : now.later? nanos = some after) :
    after.nanos = now.nanos + nanos := by
  unfold later? at h
  split at h
  · cases h
    rfl
  · cases h

/-- A sleep never ends before it begins. -/
theorem le_of_sleepEnd?
    {now deadline : Instant}
    {length : Duration}
    (h : now.sleepEnd? length = some deadline) :
    now ≤ deadline := by
  have later : deadline.nanos = now.nanos + (min length thirtyYears).toNanos :=
    nanos_of_later? h
  rw [le_iff_nanos_le]
  omega

/-! ## Timers -/

/-- The nanoseconds in a tick. -/
def nanosPerTick : Nat := 1000000

/-- The last tick, at which all later times fall together. -/
def lastTick : Nat := 0xfffffffffffffffd

/-- The last tick that has been reached at an instant. -/
def ticksReached (now : Instant) : Nat :=
  min lastTick (now.nanos / nanosPerTick)

/-- The first tick that is not before an instant, or the last one. -/
def tickAtOrAfter (deadline : Instant) : Nat :=
  min lastTick ((deadline.nanos + (nanosPerTick - 1)) / nanosPerTick)

/-- Whether a timer set for the deadline has gone off. -/
def timerOver (now deadline : Instant) : Bool :=
  deadline.tickAtOrAfter ≤ now.ticksReached

/-- The instant at the first tick that is not before the given one. -/
def roundedUp (deadline : Instant) : Instant where
  nanos := deadline.tickAtOrAfter * nanosPerTick

/-- Before the last tick no timer goes off before its deadline. -/
theorem le_of_timerOver
    {now deadline : Instant}
    (before : now.ticksReached < lastTick)
    (h : timerOver now deadline = true) :
    deadline ≤ now := by
  have reached : deadline.tickAtOrAfter ≤ now.ticksReached := of_decide_eq_true h
  simp only [tickAtOrAfter, ticksReached, nanosPerTick] at before reached
  rw [le_iff_nanos_le]
  omega

/-- At the last tick every timer has gone off. -/
theorem timerOver_of_lastTick
    {now : Instant}
    (deadline : Instant)
    (last : now.ticksReached = lastTick) :
    timerOver now deadline = true := by
  simp only [timerOver, last, tickAtOrAfter, decide_eq_true_eq]
  omega

/-- Up to the last tick the clock can represent the end of every sleep. -/
theorem sleepEnd?_of_le_lastTick
    {now : Instant}
    (length : Duration)
    (within : now.nanos ≤ lastTick * nanosPerTick) :
    now.sleepEnd? length = some (now + min length thirtyYears) := by
  have shorter : (min length thirtyYears).toNanos ≤ thirtyYears.toNanos := by
    rw [Duration.toNanos_min]
    omega
  have years : thirtyYears.toNanos = 946080000000000000 := by decide
  have limit :
      now.nanos + (min length thirtyYears).toNanos < secondsLimit * nanosPerSecond := by
    simp only [lastTick, nanosPerTick, nanosPerSecond, secondsLimit] at *
    omega
  simp only [sleepEnd?, after?, later?, if_pos limit]
  rfl

end Instant

end Resubmit
