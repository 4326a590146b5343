namespace Resubmit

/-!
# Spans of time

A duration is a count of whole seconds together with a fraction in nanoseconds
that stays below one second.  Its view `Duration.toNanos` is the exact number of
nanoseconds; comparison, minimum and zero are those of that number.
-/

/-- The number of nanoseconds in one second. -/
def nanosPerSecond : Nat := 1000000000

/-- Whole seconds and a fraction of a second in nanoseconds. -/
structure Duration where
  secs : UInt64
  nanos : UInt32
  nanos_lt : nanos.toNat < nanosPerSecond
  deriving DecidableEq, Repr

namespace Duration

/-- The exact number of nanoseconds in a duration. -/
def toNanos (d : Duration) : Nat :=
  nanosPerSecond * d.secs.toNat + d.nanos.toNat

/-- One more than the largest number of whole seconds a duration can hold. -/
def secsLimit : Nat := 0x10000000000000000

/-- One more than the largest number of nanoseconds a duration can hold. -/
def nanosLimit : Nat := secsLimit * nanosPerSecond

theorem toNanos_lt (d : Duration) : d.toNanos < nanosLimit := by
  have hs := d.secs.toNat_lt
  have hn := d.nanos_lt
  simp only [toNanos, nanosLimit, secsLimit, nanosPerSecond] at *
  omega

theorem toNanos_inj {a b : Duration} : a.toNanos = b.toNanos ↔ a = b := by
  constructor
  · intro h
    obtain ⟨as, an, ha⟩ := a
    obtain ⟨bs, bn, hb⟩ := b
    simp only [toNanos] at h
    simp only [nanosPerSecond] at h ha hb
    have hs : as.toNat = bs.toNat := by omega
    have hn : an.toNat = bn.toNat := by omega
    cases UInt64.toNat_inj.1 hs
    cases UInt32.toNat_inj.1 hn
    rfl
  · rintro rfl
    rfl

def zero : Duration where
  secs := 0
  nanos := 0
  nanos_lt := by decide

def longest : Duration where
  secs := 18446744073709551615
  nanos := 999999999
  nanos_lt := by decide

/--
Seconds plus nanoseconds, where a second or more of nanoseconds carries over.

There is no result when the carry leaves the range of the seconds.
-/
def ofParts? (secs : UInt64) (nanos : UInt32) : Option Duration :=
  let carried := secs.toNat + nanos.toNat / nanosPerSecond
  if carried < secsLimit then
    some {
      secs := UInt64.ofNat carried
      nanos := UInt32.ofNat (nanos.toNat % nanosPerSecond)
      nanos_lt := by
        have h : nanos.toNat % nanosPerSecond < nanosPerSecond :=
          Nat.mod_lt _ (by decide)
        simp only [UInt32.toNat_ofNat', nanosPerSecond] at *
        omega
    }
  else
    none

/-- The duration of exactly `n` nanoseconds, if one is long enough. -/
def ofNanos? (n : Nat) : Option Duration :=
  if n < nanosLimit then
    some {
      secs := UInt64.ofNat (n / nanosPerSecond)
      nanos := UInt32.ofNat (n % nanosPerSecond)
      nanos_lt := by
        have h : n % nanosPerSecond < nanosPerSecond :=
          Nat.mod_lt _ (by decide)
        simp only [UInt32.toNat_ofNat', nanosPerSecond] at *
        omega
    }
  else
    none

theorem toNanos_of_ofNanos? {n : Nat} {d : Duration} (h : ofNanos? n = some d) :
    d.toNanos = n := by
  unfold ofNanos? at h
  split at h
  · rename_i hn
    cases h
    simp only [toNanos, nanosLimit, secsLimit, nanosPerSecond, UInt64.toNat_ofNat',
      UInt32.toNat_ofNat'] at *
    omega
  · cases h

theorem ofNanos?_toNanos (d : Duration) : ofNanos? d.toNanos = some d := by
  have h : ∃ e, ofNanos? d.toNanos = some e := by
    unfold ofNanos?
    rw [if_pos d.toNanos_lt]
    exact ⟨_, rfl⟩
  obtain ⟨e, he⟩ := h
  rw [he, toNanos_inj.1 (toNanos_of_ofNanos? he)]

/-- The duration of `n` milliseconds, for the short spans of a program text. -/
def ofMillis (n : UInt32) : Duration where
  secs := UInt64.ofNat (n.toNat / 1000)
  nanos := UInt32.ofNat (n.toNat % 1000 * 1000000)
  nanos_lt := by
    have h : n.toNat % 1000 < 1000 := Nat.mod_lt _ (by decide)
    simp only [UInt32.toNat_ofNat', nanosPerSecond]
    rw [Nat.mod_eq_of_lt (by omega)]
    omega

def isZero (d : Duration) : Bool :=
  d.toNanos == 0

instance : LE Duration where
  le a b := a.toNanos ≤ b.toNanos

instance : LT Duration where
  lt a b := a.toNanos < b.toNanos

instance (a b : Duration) : Decidable (a ≤ b) :=
  inferInstanceAs (Decidable (a.toNanos ≤ b.toNanos))

instance (a b : Duration) : Decidable (a < b) :=
  inferInstanceAs (Decidable (a.toNanos < b.toNanos))

instance : Min Duration where
  min a b := if a ≤ b then a else b

instance : Inhabited Duration where
  default := zero

theorem le_iff_toNanos_le {a b : Duration} : a ≤ b ↔ a.toNanos ≤ b.toNanos :=
  Iff.rfl

theorem le_longest (d : Duration) : d ≤ longest := by
  have h := d.toNanos_lt
  have hl : longest.toNanos + 1 = nanosLimit := by decide
  rw [le_iff_toNanos_le]
  omega

theorem toNanos_min (a b : Duration) :
    (min a b).toNanos = min a.toNanos b.toNanos := by
  change (if a ≤ b then a else b).toNanos = _
  split <;> rename_i h <;> rw [le_iff_toNanos_le] at h <;> omega

end Duration

end Resubmit
