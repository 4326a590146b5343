import Resubmit.Proofs.Rounding

namespace Resubmit.Binary64

/-!
# Doubles and their bits

The bits of a finite double are its sign, and then a number in which the exponent and the
significand are added up.  From them the double is had back.
-/

open Float.Model UnpackedFloat Decimal

/-! ## The parts of a pattern -/

theorem toNat_unpackExponent (bits : BitVec 64) :
    (@unpackExponent .binary64 bits).toNat = bits.toNat / 2 ^ 52 % 2 ^ 11 := by
  simp [unpackExponent, BitVec.extractLsb_toNat, Nat.shiftRight_eq_div_pow]

theorem toNat_unpackMantissa (bits : BitVec 64) :
    (@unpackMantissa .binary64 bits).toNat = bits.toNat % 2 ^ 52 := by
  simp [unpackMantissa, BitVec.extractLsb_toNat]

/-- The sign of a number, which may be negative. -/
def signOf (negative : Bool) : Sign :=
  if negative then .negative else .positive

theorem ofBitVec_unpackSign (bits : BitVec 64) :
    Sign.ofBitVec (@unpackSign .binary64 bits) = signOf (decide (2 ^ 63 ≤ bits.toNat)) := by
  have bit : (@unpackSign .binary64 bits).toNat = bits.toNat / 2 ^ 63 % 2 := by
    change (BitVec.extractLsb 63 63 bits).toNat = _
    simp [BitVec.extractLsb_toNat, Nat.shiftRight_eq_div_pow]
  have bound := bits.isLt
  unfold Sign.ofBitVec signOf
  by_cases high : 2 ^ 63 ≤ bits.toNat
  · have one : @unpackSign .binary64 bits ≠ 0#1 := by
      intro same
      have zero : bits.toNat / 2 ^ 63 % 2 = 0 := by
        rw [← bit, same]
        rfl
      omega
    rw [if_neg one, if_pos (decide_eq_true high)]
  · have zero : @unpackSign .binary64 bits = 0#1 := by
      apply BitVec.eq_of_toNat_eq
      rw [bit]
      change _ = 0
      omega
    rw [if_pos zero, if_neg (by simpa using high)]

theorem toNat_signOf (negative : Bool) : (signOf negative).toBitVec.toNat = negative.toNat := by
  cases negative <;> rfl

theorem toNat_packComponents
    (sign : Sign)
    (exponent : BitVec 11)
    (mantissa : BitVec 52) :
    (packComponents .binary64 sign exponent mantissa).toNat =
      sign.toBitVec.toNat * 2 ^ 63 + exponent.toNat * 2 ^ 52 + mantissa.toNat := by
  unfold packComponents
  rw [BitVec.toNat_append, BitVec.toNat_append, ← Nat.shiftLeft_add_eq_or_of_lt mantissa.isLt,
    ← Nat.shiftLeft_add_eq_or_of_lt exponent.isLt]
  simp only [Nat.shiftLeft_eq]
  ring

/-! ## Doubles -/

/-- The pattern of a sign and a magnitude. -/
def wordOf (negative : Bool) (m : Magnitude) : Nat :=
  negative.toNat * 2 ^ 63 + ((m.exponent + 1074).toNat * 2 ^ 52 + m.significand)

theorem toNat_pack
    {m : Magnitude}
    (canonical : Canonical m)
    (negative : Bool) :
    (pack (.finite (signOf negative) m.significand m.exponent canonical.pos)).toBits.toNat =
      wordOf negative m := by
  obtain ⟨pos, bits, least, most, normal, _⟩ := canonical
  have bias : (Format.binary64.exponentBias : Int) = 1023 := by decide
  have shortBits := Nat.log2_lt (Nat.ne_of_gt pos) (k := 52)
  have longBits := Nat.log2_lt (Nat.ne_of_gt pos) (k := 53)
  change (UnpackedFloat.pack .binary64 _).toNat = _
  unfold UnpackedFloat.pack
  dsimp only
  have bitsEq : Format.binary64.mantissaBits = 53 := rfl
  rw [if_neg, bias, bitsEq]
  · split
    · rw [toNat_packComponents, BitVec.toNat_ofNat, BitVec.toNat_ofNat, toNat_signOf, wordOf]
      omega
    · rw [toNat_packComponents, BitVec.toNat_ofNat, BitVec.toNat_ofNat, toNat_signOf, wordOf]
      omega
  · rw [bias]
    change ¬ 2 ^ 11 ≤ (m.exponent + 1023 + 52).toNat + 1
    omega

theorem negative_wordOf
    {m : Magnitude}
    (canonical : Canonical m)
    (negative : Bool) :
    decide (2 ^ 63 ≤ wordOf negative m) = negative := by
  obtain ⟨_, bits, _, most, _, _⟩ := canonical
  unfold wordOf
  cases negative with
  | false =>
      apply decide_eq_false
      rw [Bool.toNat_false]
      omega
  | true =>
      apply decide_eq_true
      rw [Bool.toNat_true]
      omega

/-- A double is unpacked from the pattern of its sign and its magnitude. -/
theorem unpack_of_toNat
    {m : Magnitude}
    {number : Float.Model}
    {negative : Bool}
    (canonical : Canonical m)
    (word : number.toBits.toNat = wordOf negative m) :
    number.unpack = .finite (signOf negative) m.significand m.exponent canonical.pos := by
  have signed : Sign.ofBitVec (@unpackSign .binary64 number.toBits.toBitVec) = signOf negative := by
    rw [ofBitVec_unpackSign]
    change signOf (decide (2 ^ 63 ≤ number.toBits.toNat)) = _
    rw [word, negative_wordOf canonical]
  have exponent := toNat_unpackExponent number.toBits.toBitVec
  have mantissa := toNat_unpackMantissa number.toBits.toBitVec
  change _ = number.toBits.toNat / 2 ^ 52 % 2 ^ 11 at exponent
  change _ = number.toBits.toNat % 2 ^ 52 at mantissa
  obtain ⟨pos, bits, least, most, normal, _⟩ := canonical
  have bias : (Format.binary64.exponentBias : Int) = 1023 := by decide
  rw [word, wordOf] at exponent mantissa
  change UnpackedFloat.unpack .binary64 number.toBits.toBitVec = _
  unfold UnpackedFloat.unpack
  dsimp only
  rw [signed, bias, if_neg]
  · by_cases low : @unpackExponent .binary64 number.toBits.toBitVec = 0#11
    · rw [low] at exponent
      change 0 = _ at exponent
      rw [if_pos low, dif_neg]
      · refine finite_congr ?_ ?_
        · rw [mantissa]
          omega
        · rw [low]
          change ((0 : Nat) : Int) - (1023 + 52) + 1 = _
          omega
      · intro none
        rw [none] at mantissa
        change 0 = _ at mantissa
        omega
    · have positive : (@unpackExponent .binary64 number.toBits.toBitVec).toNat ≠ 0 :=
        fun same => low (BitVec.eq_of_toNat_eq same)
      rw [if_neg low]
      refine finite_congr ?_ ?_
      · rw [toNat_leading, mantissa]
        omega
      · rw [exponent]
        change ((_ : Nat) : Int) - (1023 + 52) = _
        omega
  · intro all
    rw [all] at exponent
    change 2047 = _ at exponent
    omega

theorem unpack_pack
    {m : Magnitude}
    (canonical : Canonical m)
    (negative : Bool) :
    (pack (.finite (signOf negative) m.significand m.exponent canonical.pos)).unpack =
      .finite (signOf negative) m.significand m.exponent canonical.pos :=
  unpack_of_toNat canonical (toNat_pack canonical negative)

/-! ## Finite doubles -/

theorem eq_of_toNat
    {number other : Float.Model}
    (same : number.toBits.toNat = other.toBits.toNat) :
    number = other := by
  obtain ⟨bits, valid⟩ := number
  obtain ⟨otherBits, otherValid⟩ := other
  cases UInt64.toNat_inj.mp same
  rfl

theorem field_ne_of_isFinite
    {number : Float.Model}
    (finite : number.isFinite = true) :
    number.toBits.toNat / 2 ^ 52 % 2 ^ 11 ≠ 2047 := by
  intro all
  have exponent : @unpackExponent .binary64 number.toBits.toBitVec = -1 := by
    apply BitVec.eq_of_toNat_eq
    rw [toNat_unpackExponent]
    exact all
  by_cases none : @unpackMantissa .binary64 number.toBits.toBitVec = 0
  · have infinite : number.unpack = .infinity _ := (if_pos exponent).trans (if_pos none)
    rw [Float.Model.isFinite, infinite] at finite
    cases finite
  · have noNumber : number.unpack = .notANumber := (if_pos exponent).trans (if_neg none)
    rw [Float.Model.isFinite, noNumber] at finite
    cases finite

/-- The magnitude of the zeros. -/
def zeroMagnitude : Magnitude where
  significand := 0
  exponent := -1074
  narrowBelow := false

theorem canonical_subnormal
    {fraction : Nat}
    (some : fraction ≠ 0)
    (bound : fraction < 2 ^ 52) :
    Canonical ⟨fraction, -1074, false⟩ where
  pos := Nat.pos_of_ne_zero some
  bits := bound.trans (by decide)
  least := le_rfl
  most := show (-1074 : Int) ≤ 971 by decide
  normal := fun above => (lt_irrefl _ above).elim
  narrowBelow := by simp

theorem canonical_normal
    {field fraction : Nat}
    (some : field ≠ 0)
    (below : field < 2047)
    (bound : fraction < 2 ^ 52) :
    Canonical ⟨2 ^ 52 + fraction, (field : Int) - 1075, fraction = 0 ∧ 1 < field⟩ where
  pos := Nat.add_pos_left (by decide) fraction
  bits := by
    dsimp only
    omega
  least := by
    dsimp only
    omega
  most := by
    dsimp only
    omega
  normal := fun _ => Nat.le_add_right _ fraction
  narrowBelow := by
    rw [decide_eq_true_eq]
    dsimp only
    omega

theorem toNat_pack_zero (negative : Bool) :
    (pack (.zero (signOf negative))).toBits.toNat = negative.toNat * 2 ^ 63 := by
  cases negative <;> rfl

section

variable {bits : UInt64}

theorem ofBits_subnormal (low : bits.toNat / Decimal.Binary64.hiddenBit % 0x800 = 0) :
    Decimal.Binary64.ofBits bits =
      .finite (0x8000000000000000 ≤ bits.toNat)
        ⟨bits.toNat % Decimal.Binary64.hiddenBit, -1074, false⟩ :=
  (if_neg (by omega)).trans (if_pos low)

theorem ofBits_normal
    (high : bits.toNat / Decimal.Binary64.hiddenBit % 0x800 ≠ 0)
    (below : bits.toNat / Decimal.Binary64.hiddenBit % 0x800 ≠ 2047) :
    Decimal.Binary64.ofBits bits =
      .finite (0x8000000000000000 ≤ bits.toNat)
        ⟨Decimal.Binary64.hiddenBit + bits.toNat % Decimal.Binary64.hiddenBit,
          (bits.toNat / Decimal.Binary64.hiddenBit % 0x800 : Nat) - 1075,
          bits.toNat % Decimal.Binary64.hiddenBit = 0 ∧
            1 < bits.toNat / Decimal.Binary64.hiddenBit % 0x800⟩ :=
  (if_neg below).trans (if_neg high)

end

/-- A finite double is a zero, or it has a sign and a magnitude. -/
theorem ofFloat_cases {x : Float} (finite : x.isFinite = true) :
    ∃ negative m,
      Decimal.Binary64.ofFloat x = .finite negative m ∧
        (m = zeroMagnitude ∧ x.toModel = pack (.zero (signOf negative)) ∨
          ∃ canonical : Canonical m,
            x.toModel =
              pack (.finite (signOf negative) m.significand m.exponent canonical.pos)) := by
  have below : x.toBits.toNat / Decimal.Binary64.hiddenBit % 0x800 ≠ 2047 :=
    field_ne_of_isFinite finite
  have bound := x.toBits.toNat_lt
  have hidden : Decimal.Binary64.hiddenBit = 2 ^ 52 := rfl
  have sign : (decide (0x8000000000000000 ≤ x.toBits.toNat)).toNat = x.toBits.toNat / 2 ^ 63 := by
    by_cases negative : 0x8000000000000000 ≤ x.toBits.toNat
    · rw [decide_eq_true negative, Bool.toNat_true]
      omega
    · rw [decide_eq_false negative, Bool.toNat_false]
      omega
  have packed {m : Magnitude} (canonical : Canonical m)
      (word : x.toBits.toNat =
        x.toBits.toNat / 2 ^ 63 * 2 ^ 63 + ((m.exponent + 1074).toNat * 2 ^ 52 + m.significand)) :
      ∃ canonical : Canonical m,
        x.toModel =
          pack (.finite (signOf (0x8000000000000000 ≤ x.toBits.toNat)) m.significand m.exponent
            canonical.pos) := by
    refine ⟨canonical, eq_of_toNat ?_⟩
    rw [toNat_pack canonical, wordOf, sign]
    exact word
  by_cases low : x.toBits.toNat / Decimal.Binary64.hiddenBit % 0x800 = 0
  · refine ⟨_, _, ofBits_subnormal low, ?_⟩
    rw [hidden] at low ⊢
    rcases Nat.eq_zero_or_pos (x.toBits.toNat % 2 ^ 52) with none | some
    · refine .inl ⟨by rw [none, zeroMagnitude], eq_of_toNat ?_⟩
      rw [toNat_pack_zero, sign]
      change x.toBits.toNat = _
      omega
    · refine .inr (packed (canonical_subnormal (Nat.ne_of_gt some) (Nat.mod_lt _ (by decide))) ?_)
      dsimp only
      omega
  · refine ⟨_, _, ofBits_normal low below, .inr ?_⟩
    rw [hidden] at low below ⊢
    refine packed (canonical_normal low (by omega) (Nat.mod_lt _ (by decide))) ?_
    dsimp only
    omega

/-! ## Powers of two -/

/-- A number is below a power of two if its leading bit is at a lower place. -/
theorem lt_power_iff
    {m : Magnitude}
    {place : Int}
    (canonical : Canonical m)
    (normal : -1074 < place) :
    UnpackedFloat.lt (.finite .positive m.significand m.exponent canonical.pos)
        (.finite .positive 4503599627370496 place (by decide)) = true ↔
      m.exponent < place := by
  change
    (some ((compare m.exponent place).then (compare m.significand 4503599627370496)) ==
      some .lt) = true ↔ _
  rcases Int.lt_trichotomy m.exponent place with below | same | above
  · rw [Int.compare_eq_lt.mpr below]
    exact iff_of_true rfl below
  · have long := canonical.normal (same ▸ normal)
    have order : compare m.significand 4503599627370496 ≠ .lt :=
      fun less => absurd (Nat.compare_eq_lt.mp less) (Nat.not_lt.mpr long)
    rw [Int.compare_eq_eq.mpr same]
    refine iff_of_false (fun less => order ?_) (same ▸ Int.lt_irrefl place)
    exact Option.some.inj (eq_of_beq less)
  · rw [Int.compare_eq_gt.mpr above]
    exact iff_of_false (fun less => nomatch less) (Int.lt_asymm above)

end Resubmit.Binary64
