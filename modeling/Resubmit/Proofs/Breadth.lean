import Resubmit.Proofs.Bits
import Resubmit.Proofs.Spread

namespace Resubmit

/-!
# How broad a spread may be

Delays can be asked of any policy, accepted or not.  Whatever the jitter is, a delay is exact or
it is scaled by one word, and it is never longer than the longest one of the policy.  There is
one gap: the range of a jitter is twice as wide as the jitter, so that it may not be finite while
the jitter still is, and from such a range nothing can be drawn.
-/

open Float.Model UnpackedFloat

namespace Binary64

variable {m : Decimal.Magnitude}

theorem isFinite_eq_false_iff {x : Float} :
    x.isFinite = false ↔ x.isNaN = true ∨ x.isInf = true := by
  change x.toModel.unpack.isFinite = false ↔
    x.toModel.unpack.isNaN = true ∨ x.toModel.unpack.isInf = true
  cases x.toModel.unpack with
  | notANumber => exact iff_of_true rfl (.inl rfl)
  | infinity => exact iff_of_true rfl (.inr rfl)
  | zero | finite =>
      refine iff_of_false Bool.noConfusion ?_
      rintro (noNumber | infinite)
      · cases noNumber
      · cases infinite

/-- A finite number above zero has a magnitude. -/
theorem exists_magnitude
    {x : Float}
    (finite : x.isFinite = true)
    (positive : ¬ x ≤ 0.0) :
    ∃ m, ∃ canonical : Canonical m,
      x.toModel.unpack = .finite .positive m.significand m.exponent canonical.pos := by
  have positive : ¬ UnpackedFloat.le x.toModel.unpack (.zero .positive) = true :=
    fun least => positive (decide_eq_true least)
  obtain ⟨negative, m, _, ⟨_, zero⟩ | ⟨canonical, packed⟩⟩ := ofFloat_cases finite
  · rw [zero] at positive
    cases negative <;> exact (positive rfl).elim
  · rw [packed, unpack_pack canonical] at positive ⊢
    cases negative with
    | false => exact ⟨m, canonical, rfl⟩
    | true => exact (positive rfl).elim

/-! ## Doubles of numbers -/

/-- A number with too large an exponent becomes infinite. -/
theorem pack_of_lt
    {mantissa : Nat}
    {exponent : Int}
    (sign : Sign)
    (pos : 0 < mantissa)
    (large : 971 < exponent) :
    pack (.finite sign mantissa exponent pos) = pack (.infinity sign) := by
  have bias : (Format.binary64.exponentBias : Int) = 1023 := by decide
  have overflows :
      UnpackedFloat.pack .binary64 (.finite sign mantissa exponent pos) =
        packedInfinity .binary64 sign := by
    unfold UnpackedFloat.pack
    dsimp only
    rw [if_pos]
    rw [bias]
    change 2 ^ 11 ≤ (exponent + 1023 + 52).toNat + 1
    omega
  apply eq_of_toNat
  change (UnpackedFloat.pack .binary64 _).toNat = _
  rw [overflows]
  rfl

theorem isFinite_pack_iff
    {mantissa : Nat}
    {exponent : Int}
    (sign : Sign)
    (pos : 0 < mantissa) :
    (pack (.finite sign mantissa exponent pos)).isFinite = true ↔ exponent ≤ 971 := by
  refine ⟨fun finite => Int.not_lt.mp fun large => ?_, isFinite_pack sign pos⟩
  rw [pack_of_lt sign pos large] at finite
  cases sign <;> cases finite

/-- The double of a number of 53 bits has the same bits, one place higher. -/
theorem round_double
    {mantissa : Nat}
    {exponent : Int}
    (sign : Sign)
    (pos : 0 < mantissa)
    (long : 2 ^ 52 ≤ mantissa)
    (bits : mantissa < 2 ^ 53)
    (least : -1074 ≤ exponent) :
    UnpackedFloat.round .binary64 sign (mantissa + mantissa) exponent =
      .finite sign mantissa (exponent + 1) pos := by
  have length : mantissa.log2 = 52 :=
    (Nat.log2_eq_iff (Nat.ne_of_gt pos)).mpr ⟨long, bits⟩
  have doubleLength : (mantissa + mantissa).log2 = 53 :=
    (Nat.log2_eq_iff (by omega)).mpr ⟨by omega, by omega⟩
  have none :
      (exponent - Format.binary64.targetExponent
        (totalExponent (mantissa + mantissa) exponent)).toNat = 0 := by
    rw [targetExponent_eq, totalExponent, doubleLength]
    omega
  have place :
      (shiftToTargetExponent .binary64 (mantissa + mantissa) exponent .exact).2 =
        exponent + 1 := by
    rw [exponent_shiftToTargetExponent, doubleLength]
    omega
  have half :
      (((mantissa + mantissa : Nat) : ℚ) + 0) * 2 ^ exponent / 2 ^ (exponent + 1) =
        mantissa := by
    rw [zpow_add_one₀ two_ne_zero]
    have := zpow_ne_zero exponent (show (2 : ℚ) ≠ 0 from two_ne_zero)
    push_cast
    field_simp
    ring
  have whole : Accords .exact 0 := rfl
  have describes := describes_shiftToTargetExponent whole (mantissa + mantissa) exponent
  dsimp only at describes
  rw [place, half] at describes
  have rounded :
      (shiftToTargetExponent .binary64 (mantissa + mantissa) exponent .exact).1.roundedMantissa =
        mantissa :=
    roundedMantissa_eq describes (by linarith) (by linarith)
      fun _ => ⟨by linarith, by linarith⟩
  unfold UnpackedFloat.round
  dsimp only [decreaseExponent]
  rw [none, Nat.shiftLeft_zero, Int.natCast_zero, Int.sub_zero]
  refine roundWithAccuracy_of_shifts rfl rounded ?_ ?_ pos sign
  · rw [place, length]
    omega
  · rw [place, Int.sub_self]
    exact Nat.div_one mantissa

/-- From a number to its opposite it is a finite way if the exponent can be one higher. -/
theorem isFinite_sub_neg_iff
    {x : Float}
    (canonical : Canonical m)
    (unpacked : x.toModel.unpack = .finite .positive m.significand m.exponent canonical.pos) :
    (x - -x).isFinite = true ↔ m.exponent ≤ 970 := by
  have opposite :
      (-x).toModel.unpack = .finite .negative m.significand m.exponent canonical.pos := by
    change (pack x.toModel.unpack.neg).unpack = _
    rw [unpacked]
    exact unpack_pack canonical true
  have double :
      UnpackedFloat.sub .binary64 x.toModel.unpack (-x).toModel.unpack =
        UnpackedFloat.round .binary64 .positive (m.significand + m.significand) m.exponent := by
    have some := canonical.pos
    have sum :
        ((m.significand : Int) - -(m.significand : Int)).toNat =
          m.significand + m.significand := by
      omega
    have positive : compare ((m.significand : Int) - -(m.significand : Int)) 0 = .gt :=
      Int.compare_eq_gt.mpr (by omega)
    rw [unpacked, opposite]
    unfold UnpackedFloat.sub UnpackedFloat.normalize
    dsimp only [decreaseExponent, Sign.apply]
    rw [min_self, Int.sub_self, Int.toNat_zero, Nat.shiftLeft_zero, positive, sum]
  change
    (pack (UnpackedFloat.sub .binary64 x.toModel.unpack (-x).toModel.unpack)).isFinite = true ↔ _
  rw [double]
  obtain ⟨pos, bits, least, most, normal, _⟩ := canonical
  rcases Int.lt_or_eq_of_le least with above | lowest
  · rw [round_double .positive pos (normal above) bits least, isFinite_pack_iff]
    omega
  · have size : m.significand + m.significand ≤ 2 ^ (54 + 0) := by omega
    exact iff_of_true (isFinite_round size (by omega)) (by omega)

/-- The largest power of two, of which the double is not finite. -/
def largestPower : Float :=
  Float.ofBits 0x7fe0000000000000

theorem lt_largestPower_iff
    {x : Float}
    (canonical : Canonical m)
    (unpacked : x.toModel.unpack = .finite .positive m.significand m.exponent canonical.pos) :
    x < largestPower ↔ m.exponent ≤ 970 := by
  change
    decide (UnpackedFloat.lt x.toModel.unpack
      (.finite .positive 4503599627370496 971 (by decide)) = true) = true ↔ _
  rw [unpacked, decide_eq_true_eq, lt_power_iff canonical (by decide)]
  omega

/-! ## What is a number -/

theorem isNaN_of_isFinite {number : UnpackedFloat} (finite : number.isFinite = true) :
    number.isNaN = false := by
  cases number with
  | notANumber => cases finite
  | infinity | zero | finite => rfl

/-- What is a number stays one when it is written in bits, though it may become infinite. -/
theorem isNaN_pack {number : UnpackedFloat} (some : number.isNaN = false) :
    (pack number).unpack.isNaN = false := by
  cases number with
  | notANumber => cases some
  | infinity sign => cases sign <;> rfl
  | zero sign => cases sign <;> rfl
  | finite sign mantissa exponent pos =>
      by_cases low : exponent ≤ 971
      · exact isNaN_of_isFinite (isFinite_pack sign pos low)
      · rw [pack_of_lt sign pos (Int.not_le.mp low)]
        cases sign <;> rfl

theorem isNaN_round
    (sign : Sign)
    (mantissa : Nat)
    (exponent : Int) :
    (UnpackedFloat.round .binary64 sign mantissa exponent).isNaN = false := by
  rcases round_eq sign mantissa exponent with zero | ⟨_, _, _, finite⟩
  · rw [zero]
    rfl
  · rw [finite]
    rfl

theorem isNaN_normalize
    (mantissa exponent : Int)
    (sign : Sign) :
    (UnpackedFloat.normalize .binary64 mantissa exponent sign).isNaN = false := by
  unfold UnpackedFloat.normalize
  split
  · exact isNaN_round _ _ _
  · rfl
  · exact isNaN_round _ _ _

theorem zero_or_finite {number : UnpackedFloat} (finite : number.isFinite = true) :
    (∃ sign, number = .zero sign) ∨
      ∃ sign mantissa exponent pos, number = .finite sign mantissa exponent pos := by
  cases number with
  | notANumber | infinity => cases finite
  | zero sign => exact .inl ⟨sign, rfl⟩
  | finite sign mantissa exponent pos => exact .inr ⟨sign, mantissa, exponent, pos, rfl⟩

/-- A product of finite numbers is a number. -/
theorem isNaN_mul
    {x y : Float}
    (finite : x.isFinite = true)
    (finite' : y.isFinite = true) :
    (x * y).isNaN = false := by
  change x.toModel.unpack.isFinite = true at finite
  change y.toModel.unpack.isFinite = true at finite'
  apply isNaN_pack
  rcases zero_or_finite finite with ⟨_, first⟩ | ⟨sign, mantissa, exponent, _, first⟩
  · rcases zero_or_finite finite' with ⟨_, second⟩ | ⟨_, _, _, _, second⟩
    · rw [first, second]
      rfl
    · rw [first, second]
      rfl
  · rcases zero_or_finite finite' with ⟨_, second⟩ | ⟨sign', mantissa', exponent', _, second⟩
    · rw [first, second]
      rfl
    · rw [first, second]
      rcases roundWithAccuracy_eq (sign * sign') (mantissa * mantissa') (exponent + exponent')
        .exact with zero | ⟨_, finite⟩
      · exact congrArg UnpackedFloat.isNaN zero
      · exact congrArg UnpackedFloat.isNaN finite

/-- A sum of numbers is a number if they are not both infinite. -/
theorem isNaN_add
    {x y : Float}
    (some : x.isNaN = false)
    (some' : y.isNaN = false)
    (finite : x.isFinite = true ∨ y.isFinite = true) :
    (x + y).isNaN = false := by
  change x.toModel.unpack.isNaN = false at some
  change y.toModel.unpack.isNaN = false at some'
  change x.toModel.unpack.isFinite = true ∨ y.toModel.unpack.isFinite = true at finite
  apply isNaN_pack
  generalize x.toModel.unpack = first at some finite
  generalize y.toModel.unpack = second at some' finite
  cases first with
  | notANumber => cases some
  | infinity =>
      cases second with
      | notANumber => cases some'
      | infinity => rcases finite with finite | finite <;> cases finite
      | zero | finite => rfl
  | zero sign =>
      cases second with
      | notANumber => cases some'
      | infinity | finite => rfl
      | zero sign' => cases sign <;> cases sign' <;> rfl
  | finite =>
      cases second with
      | notANumber => cases some'
      | infinity | zero => rfl
      | finite => exact isNaN_normalize _ _ _

theorem isFinite_neg {x : Float} (finite : x.isFinite = true) : (-x).isFinite = true := by
  change (pack x.toModel.unpack.neg).isFinite = true
  obtain ⟨negative, m, _, ⟨_, zero⟩ | ⟨canonical, packed⟩⟩ := ofFloat_cases finite
  · rw [zero]
    cases negative <;> rfl
  · rw [packed, unpack_pack canonical]
    exact isFinite_pack _ canonical.pos canonical.most

/-- A number that is not below zero is at least zero. -/
theorem zero_le_of_not_lt
    {x : Float}
    (some : x.isNaN = false)
    (notBelow : ¬ x < 0.0) :
    0.0 ≤ x := by
  change x.toModel.unpack.isNaN = false at some
  change ¬ decide (UnpackedFloat.lt x.toModel.unpack (.zero .positive) = true) = true at notBelow
  change decide (UnpackedFloat.le (.zero .positive) x.toModel.unpack = true) = true
  generalize x.toModel.unpack = number at some notBelow
  cases number with
  | notANumber => cases some
  | zero => rfl
  | infinity sign | finite sign =>
      cases sign with
      | positive => rfl
      | negative => exact (notBelow rfl).elim

end Binary64

theorem Duration.isZero_iff {delay : Duration} : delay.isZero = true ↔ delay = .zero := by
  rw [isZero, beq_iff_eq, ← toNanos_inj]
  rfl

namespace Policy

variable {policy : Policy}
variable {attempt : UInt32}

/-- Whether the delay before an attempt is left as it is, because there is no spread in it. -/
def Steady (policy : Policy) (attempt : UInt32) : Prop :=
  policy.jitter ≤ 0.0 ∨
    policy.jitter.isNaN = true ∨
    policy.jitter.isInf = true ∨
    policy.backoff attempt = .zero

theorem isExact_eq_true_iff : policy.isExact attempt = true ↔ policy.Steady attempt := by
  rw [isExact, Bool.or_eq_true, Bool.or_eq_true, decide_eq_true_eq, Bool.not_eq_true',
    Binary64.isFinite_eq_false_iff, Duration.isZero_iff, Steady]
  tauto

theorem isFinite_of_not_steady (unsteady : ¬ policy.Steady attempt) :
    policy.jitter.isFinite = true := by
  rw [← Bool.not_eq_false]
  intro infinite
  rcases Binary64.isFinite_eq_false_iff.mp infinite with noNumber | infinite
  · exact unsteady (.inr (.inl noNumber))
  · exact unsteady (.inr (.inr (.inl infinite)))

/-- The range of a jitter is finite just below the largest power of two. -/
theorem isFinite_jitterRange_iff (unsteady : ¬ policy.Steady attempt) :
    policy.jitterRange.isFinite = true ↔ policy.jitter < Binary64.largestPower := by
  have positive : ¬ policy.jitter ≤ 0.0 := fun least => unsteady (.inl least)
  obtain ⟨m, canonical, unpacked⟩ :=
    Binary64.exists_magnitude (isFinite_of_not_steady unsteady) positive
  rw [Binary64.lt_largestPower_iff canonical unpacked]
  exact Binary64.isFinite_sub_neg_iff canonical unpacked

theorem fraction_lt (word : UInt64) : word.toNat / 2 ^ 12 < 2 ^ 52 := by
  have := word.toNat_lt
  omega

/-- The upper bits of a word are the fraction of a number from one up to two. -/
theorem toNat_pattern (word : UInt64) :
    ((0x3ff0000000000000 : UInt64) ||| (word >>> 12)).toNat =
      1023 * 2 ^ 52 + word.toNat / 2 ^ 12 := by
  have shifted : (word >>> 12).toNat = word.toNat / 2 ^ 12 := by
    rw [UInt64.toNat_shiftRight]
    exact Nat.shiftRight_eq_div_pow _ _
  rw [UInt64.toNat_or, shifted, ← Nat.shiftLeft_eq,
    Nat.shiftLeft_add_eq_or_of_lt (fraction_lt word)]
  rfl

theorem isFinite_unitInterval (word : UInt64) : (unitInterval word).isFinite = true := by
  let m : Decimal.Magnitude :=
    ⟨2 ^ 52 + word.toNat / 2 ^ 12, (1023 : Nat) - 1075, word.toNat / 2 ^ 12 = 0 ∧ 1 < 1023⟩
  have canonical : Binary64.Canonical m :=
    Binary64.canonical_normal (by decide) (by decide) (fraction_lt word)
  have low : m.exponent ≤ 0 := by
    change ((1023 : Nat) : Int) - 1075 ≤ 0
    decide
  have pattern :
      (0x3ff0000000000000 : UInt64) ||| (word >>> 12) =
        (pack (.finite (Binary64.signOf false) m.significand m.exponent canonical.pos)).toBits := by
    rw [← UInt64.toNat_inj, Binary64.toNat_pack canonical, toNat_pattern]
    change 1023 * 2 ^ 52 + word.toNat / 2 ^ 12 =
      0 * 2 ^ 63 + (1022 * 2 ^ 52 + (2 ^ 52 + word.toNat / 2 ^ 12))
    omega
  have upper :
      Binary64.Small
        (Float.ofBits ((0x3ff0000000000000 : UInt64) ||| (word >>> 12))).toModel.unpack := by
    rw [pattern]
    change Binary64.Small (Float.Model.pack (Float.Model.pack _).unpack).unpack
    rw [Binary64.unpack_pack canonical, Binary64.unpack_pack canonical]
    exact ⟨canonical.bits, canonical.least, low⟩
  have one : Binary64.Small (1.0 : Float).toModel.unpack := by
    change Binary64.Small (.finite .positive 4503599627370496 (-52) (by decide))
    exact ⟨by decide, by decide, by decide⟩
  exact Binary64.isFinite_sub upper one

/-- The factor that a word selects from a finite range is a number and not below zero. -/
theorem zero_le_jitterFactor
    (unsteady : ¬ policy.Steady attempt)
    (narrow : policy.jitter < Binary64.largestPower)
    (word : UInt64) :
    0.0 ≤ policy.jitterFactor word := by
  have finite := isFinite_of_not_steady unsteady
  have range := (isFinite_jitterRange_iff unsteady).mpr narrow
  have product := Binary64.isNaN_mul (isFinite_unitInterval word) range
  have opposite := Binary64.isFinite_neg finite
  have offset :=
    Binary64.isNaN_add product (Binary64.isNaN_of_isFinite opposite) (.inr opposite)
  have factor : (1.0 + (unitInterval word * policy.jitterRange + -policy.jitter)).isNaN = false :=
    Binary64.isNaN_add rfl offset (.inl rfl)
  unfold jitterFactor
  dsimp only
  split
  · rfl
  · rename_i notBelow
    exact Binary64.zero_le_of_not_lt factor notBelow

section Delay

variable {γ : Type}
variable [WordSource γ]

theorem delay_of_steady (steady : policy.Steady attempt) (source : γ) :
    policy.delay attempt source = .ok (policy.backoff attempt, source) := by
  simp only [delay, isExact_eq_true_iff.mpr steady, ↓reduceIte]

/-- A delay that is not left as it is is scaled by the next word, if its range is finite. -/
theorem delay_of_not_steady
    (unsteady : ¬ policy.Steady attempt)
    (source : γ) :
    policy.delay attempt source =
      if policy.jitter < Binary64.largestPower then
        .ok (policy.scaled (policy.backoff attempt)
            (policy.jitterFactor (WordSource.next source).1),
          (WordSource.next source).2)
      else
        .error .rangeTooWide := by
  have inexact : ¬ policy.isExact attempt = true := fun exact =>
    unsteady (isExact_eq_true_iff.mp exact)
  simp only [delay, inexact, isFinite_jitterRange_iff unsteady, Bool.false_eq_true, ↓reduceIte]

theorem delay_eq_ok_iff {source rest : γ} {delay : Duration} :
    policy.delay attempt source = .ok (delay, rest) ↔
      (policy.Steady attempt ∧ delay = policy.backoff attempt ∧ rest = source) ∨
        (¬ policy.Steady attempt ∧
          policy.jitter < Binary64.largestPower ∧
          delay = policy.scaled (policy.backoff attempt)
            (policy.jitterFactor (WordSource.next source).1) ∧
          rest = (WordSource.next source).2) := by
  by_cases steady : policy.Steady attempt
  case pos =>
    rw [delay_of_steady steady, Except.ok.injEq, Prod.mk.injEq, eq_comm, @eq_comm _ source]
    simp only [steady, not_true_eq_false, true_and, false_and, or_false]
  case neg =>
    rw [delay_of_not_steady steady]
    by_cases narrow : policy.jitter < Binary64.largestPower
    case pos =>
      rw [if_pos narrow, Except.ok.injEq, Prod.mk.injEq, eq_comm, @eq_comm _ _ rest]
      simp only [steady, narrow, not_false_eq_true, true_and, false_and, false_or]
    case neg =>
      rw [if_neg narrow]
      refine iff_of_false ?_ ?_
      · intro drawn
        cases drawn
      · rintro (⟨exact, _⟩ | ⟨_, within, _⟩)
        · exact steady exact
        · exact narrow within

/-- What there is to say about the delay before an attempt, be the policy accepted or not. -/
structure BoundedDelay (policy : Policy) (attempt : UInt32) (source : γ) : Prop where
  /-- There is a delay, unless the jitter is finite and its range is not. -/
  total :
    (∃ delay rest, policy.delay attempt source = .ok (delay, rest)) ↔
      policy.Steady attempt ∨ policy.jitter < Binary64.largestPower
  /-- It is no longer than the longest one of the policy. -/
  capped :
    ∀ delay rest, policy.delay attempt source = .ok (delay, rest) → delay ≤ policy.max
  /-- Where there is no spread it is exact, and the source is left alone. -/
  steady :
    policy.Steady attempt →
    policy.delay attempt source = .ok (policy.backoff attempt, source)
  /-- Otherwise it is scaled by one word, and by no factor below zero. -/
  spread :
    ¬ policy.Steady attempt →
    ∀ delay rest,
      policy.delay attempt source = .ok (delay, rest) →
      rest = (WordSource.next source).2 ∧
        ∃ factor,
          0.0 ≤ factor ∧
            factor = policy.jitterFactor (WordSource.next source).1 ∧
            delay = policy.scaled (policy.backoff attempt) factor

/-- The delay before an attempt is bounded for every policy, attempt and source. -/
theorem delay_bounded (policy : Policy) (attempt : UInt32) (source : γ) :
    BoundedDelay policy attempt source := by
  constructor
  case total =>
    constructor
    · rintro ⟨delay, rest, drawn⟩
      rcases delay_eq_ok_iff.mp drawn with ⟨steady, _⟩ | ⟨_, narrow, _⟩
      · exact .inl steady
      · exact .inr narrow
    · intro possible
      by_cases steady : policy.Steady attempt
      · exact ⟨_, _, delay_of_steady steady source⟩
      · have narrow := possible.resolve_left steady
        exact ⟨_, _, delay_eq_ok_iff.mpr (.inr ⟨steady, narrow, rfl, rfl⟩)⟩
  case capped =>
    intro delay rest drawn
    rcases delay_eq_ok_iff.mp drawn with ⟨_, rfl, _⟩ | ⟨_, _, rfl, _⟩
    · exact backoff_le_max policy attempt
    · exact scaled_le_max _ _ _
  case steady => exact fun steady => delay_of_steady steady source
  case spread =>
    intro unsteady delay rest drawn
    rcases delay_eq_ok_iff.mp drawn with ⟨steady, _⟩ | ⟨_, narrow, rfl, rfl⟩
    · exact (unsteady steady).elim
    · exact ⟨rfl, _, zero_le_jitterFactor unsteady narrow _, rfl, rfl⟩

end Delay

/-- From the range of the largest power of two nothing can be drawn, though it is finite. -/
theorem delay_largestPower :
    let policy : Policy :=
      { Policy.exponential (Duration.ofMillis 1000) with jitter := Binary64.largestPower }
    policy.delay 0 (CyclicWords.ofList [0xffffffffffffffff]) = .error .rangeTooWide ∧
      policy.jitter.isFinite = true ∧
      policy.jitter.isNaN = false := by
  decide +kernel

end Policy

end Resubmit
