import Resubmit.Json.Number
import Resubmit.Proofs.Bits

namespace Resubmit.Binary64

/-!
# Decimals become the nearest double

Small decimals are converted by one multiplication or division of two doubles that are exact.  All
other ones are computed exactly and rounded once.  Either way the double is the nearest one.
-/

open Float.Model UnpackedFloat Decimal

/-! ## Exact integers -/

theorem near_self (m : Magnitude) : Near m (m.significand * 2 ^ m.exponent) := by
  have same : (m.significand * 2 ^ m.exponent / 2 ^ m.exponent : ℚ) = m.significand :=
    mul_div_cancel_right₀ _ (zpow_ne_zero _ two_ne_zero)
  have positive : 0 < reach m := by
    unfold reach
    split <;> norm_num
  constructor
  · linarith
  · linarith
  · intro _
    constructor <;> linarith

/-- The magnitude of an integer, of which 53 bits are kept. -/
def magnitudeOfNat (n : Nat) : Magnitude where
  significand := n * 2 ^ (52 - n.log2) / 2 ^ (n.log2 - 52)
  exponent := n.log2 - 52
  narrowBelow := n * 2 ^ (52 - n.log2) / 2 ^ (n.log2 - 52) = 2 ^ 52

/-- An integer is exact if no bit of it is lost. -/
def Exact (n : Nat) : Prop :=
  n.log2 ≤ 1000 ∧
    2 ^ 52 ≤ (magnitudeOfNat n).significand ∧
      (magnitudeOfNat n).significand < 2 ^ 53 ∧
        (magnitudeOfNat n).significand * 2 ^ (n.log2 - 52) = n * 2 ^ (52 - n.log2)

instance (n : Nat) : Decidable (Exact n) :=
  inferInstanceAs (Decidable (_ ∧ _ ∧ _ ∧ _))

namespace Exact

variable {n : Nat}

theorem canonical (exact : Exact n) : Canonical (magnitudeOfNat n) := by
  obtain ⟨small, long, bits, _⟩ := exact
  refine ⟨lt_of_lt_of_le (by decide) long, bits, ?_, ?_, fun _ => long, ?_⟩
  · change -1074 ≤ (n.log2 : Int) - 52
    omega
  · change (n.log2 : Int) - 52 ≤ 971
    omega
  · change decide ((magnitudeOfNat n).significand = 2 ^ 52) = true ↔
      (magnitudeOfNat n).significand = 2 ^ 52 ∧ -1074 < (n.log2 : Int) - 52
    rw [decide_eq_true_eq]
    omega

theorem value (exact : Exact n) :
    ((magnitudeOfNat n).significand * 2 ^ (magnitudeOfNat n).exponent : ℚ) = n := by
  obtain ⟨_, _, _, same⟩ := exact
  have same : ((magnitudeOfNat n).significand * 2 ^ (n.log2 - 52) : ℚ) = n * 2 ^ (52 - n.log2) := by
    exact_mod_cast same
  have scale : (2 : ℚ) ^ (magnitudeOfNat n).exponent * 2 ^ (52 - n.log2) = 2 ^ (n.log2 - 52) := by
    rw [← zpow_natCast, ← zpow_natCast, ← zpow_add₀ two_ne_zero]
    congr 1
    change ((n.log2 : Int) - 52) + (52 - n.log2 : Nat) = (n.log2 - 52 : Nat)
    omega
  have positive : (2 : ℚ) ^ (52 - n.log2) ≠ 0 := pow_ne_zero _ two_ne_zero
  apply mul_right_cancel₀ positive
  rw [mul_assoc, scale, same]

end Exact

theorem significand_of_log2_le
    {n : Nat}
    (short : n.log2 ≤ 52) :
    (magnitudeOfNat n).significand = n * 2 ^ (52 - n.log2) := by
  rw [magnitudeOfNat, Nat.sub_eq_zero_of_le short]
  exact Nat.div_one _

theorem log2_le_of_lt
    {n : Nat}
    (pos : 0 < n)
    (small : n < 2 ^ 53) :
    n.log2 ≤ 52 :=
  Nat.le_of_lt_succ ((Nat.log2_lt (Nat.ne_of_gt pos)).mpr small)

theorem exact_of_lt
    {n : Nat}
    (pos : 0 < n)
    (small : n < 2 ^ 53) :
    Exact n := by
  have short := log2_le_of_lt pos small
  have least := Nat.log2_self_le (Nat.ne_of_gt pos)
  have most := @Nat.lt_log2_self n
  have significand := significand_of_log2_le short
  refine ⟨short.trans (by decide), ?_, ?_, ?_⟩
  · calc
      2 ^ 52 = 2 ^ n.log2 * 2 ^ (52 - n.log2) := by
        rw [← Nat.pow_add]
        congr 1
        omega
      _ ≤ (magnitudeOfNat n).significand := by
        rw [significand]
        exact Nat.mul_le_mul_right _ least
  · calc
      (magnitudeOfNat n).significand < 2 ^ (n.log2 + 1) * 2 ^ (52 - n.log2) := by
        rw [significand]
        exact Nat.mul_lt_mul_of_pos_right most (Nat.two_pow_pos _)
      _ = 2 ^ 53 := by
        rw [← Nat.pow_add]
        congr 1
        omega
  · rw [significand, Nat.sub_eq_zero_of_le short]
    exact Nat.mul_one _

/-- The powers of ten up to the one with 22 zeros are exact, and so are their doubles. -/
theorem exact_powersOfTen :
    ∀ power (_ : power < Float.exactlyRepresentablePowersOfTen.size),
      Exact (10 ^ power) ∧
        Float.exactlyRepresentablePowersOfTen[power].toBits.toNat =
          wordOf false (magnitudeOfNat (10 ^ power)) := by
  decide +kernel

theorem unpack_toFloat
    {n : Nat}
    (pos : 0 < n)
    (small : n < 2 ^ 53) :
    n.toUInt64.toFloat.toModel.unpack =
      .finite .positive (magnitudeOfNat n).significand (magnitudeOfNat n).exponent
        (exact_of_lt pos small).canonical.pos := by
  have exact := exact_of_lt pos small
  have word : n.toUInt64.toNat = n := UInt64.toNat_ofNat_of_lt' (small.trans (by decide))
  have rounded :
      UnpackedFloat.round .binary64 .positive n 0 =
        .finite .positive (magnitudeOfNat n).significand (magnitudeOfNat n).exponent
          exact.canonical.pos := by
    have whole : Accords .exact 0 := rfl
    have target : Format.binary64.targetExponent (totalExponent n 0) = (n.log2 : Int) - 52 := by
      rw [targetExponent_eq, totalExponent]
      omega
    have significand := significand_of_log2_le (log2_le_of_lt pos small)
    have near := near_self (magnitudeOfNat n)
    have shift : (0 - ((n.log2 : Int) - 52)).toNat = 52 - n.log2 := by omega
    have place : (0 : Int) - (52 - n.log2 : Nat) = (magnitudeOfNat n).exponent := by
      change _ = (n.log2 : Int) - 52
      have := log2_le_of_lt pos small
      omega
    unfold UnpackedFloat.round decreaseExponent
    dsimp only
    rw [target, shift, place, Nat.shiftLeft_eq, ← significand]
    refine roundWithAccuracy_of_near exact.canonical whole (.inl exact.2.1) ?_ .positive
    rw [add_zero]
    exact near
  have made : n.toUInt64.toFloat.toModel = pack (UnpackedFloat.round .binary64 .positive n 0) := by
    have positive : compare (n : Int) 0 = .gt := Int.compare_eq_gt.mpr (by exact_mod_cast pos)
    change pack (UnpackedFloat.normalize .binary64 n.toUInt64.toNat 0 .positive) = _
    rw [word]
    unfold UnpackedFloat.normalize
    rw [positive]
    rfl
  rw [made, rounded]
  exact unpack_pack exact.canonical false

/-! ## Bounds -/

section

variable {m : Magnitude}
variable {number : ℚ}

theorem Near.lower
    (canonical : Canonical m)
    (near : Near m number) :
    2 ^ (-1075 : Int) ≤ number := by
  have reached := reach_le m
  have pos : (1 : ℚ) ≤ m.significand := by exact_mod_cast canonical.pos
  have least : (2 : ℚ) ^ (-1074 : Int) ≤ 2 ^ m.exponent :=
    zpow_le_zpow_right₀ one_le_two canonical.least
  have half : 1 / 2 ≤ number / 2 ^ m.exponent := by linarith [near.low]
  rw [le_div_iff₀ (zpow_pos two_pos _)] at half
  calc
    (2 : ℚ) ^ (-1075 : Int) = 1 / 2 * 2 ^ (-1074 : Int) := by
      rw [show (-1075 : Int) = -1 + -1074 by decide, zpow_add₀ two_ne_zero, zpow_neg_one, one_div]
    _ ≤ 1 / 2 * 2 ^ m.exponent := by linarith
    _ ≤ number := half

theorem Near.upper
    (canonical : Canonical m)
    (near : Near m number) :
    number < 2 ^ (1024 : Int) := by
  have bits : (m.significand : ℚ) + 1 ≤ 2 ^ 53 := by exact_mod_cast canonical.bits
  have most : (2 : ℚ) ^ m.exponent ≤ 2 ^ (971 : Int) :=
    zpow_le_zpow_right₀ one_le_two canonical.most
  have top : number / 2 ^ m.exponent < 2 ^ 53 := by linarith [near.high]
  rw [div_lt_iff₀ (zpow_pos two_pos _)] at top
  calc
    number < 2 ^ 53 * 2 ^ m.exponent := top
    _ ≤ 2 ^ 53 * 2 ^ (971 : Int) := by linarith
    _ = 2 ^ (1024 : Int) := by
      rw [show (1024 : Int) = 53 + 971 by decide, zpow_add₀ two_ne_zero, zpow_ofNat _ 53]

end

/-! ## Decimals -/

section

variable {m : Magnitude}
variable {digits : Nat}
variable {exponent : Int}

theorem tenPow_of_neg (negative : exponent < 0) :
    (10 : ℚ) ^ exponent = 1 / 10 ^ exponent.natAbs := by
  rw [one_div, ← zpow_natCast, ← zpow_neg, Int.ofNat_natAbs_of_nonpos negative.le, neg_neg]

theorem tenPow_of_nonneg (natural : 0 ≤ exponent) :
    (10 : ℚ) ^ exponent = 10 ^ exponent.natAbs := by
  rw [← zpow_natCast, Int.natAbs_of_nonneg natural]

theorem ofScientific_exact
    (canonical : Canonical m)
    (pos : 0 < digits)
    (small : digits < 2 ^ 53)
    (short : exponent.natAbs ≤ 22)
    (near : Near m (digits * 10 ^ exponent)) :
    Float.ofScientific digits (exponent < 0) exponent.natAbs =
      .ofModel (pack (.finite .positive m.significand m.exponent canonical.pos)) := by
  have exact := exact_of_lt pos small
  have first := unpack_toFloat pos small
  obtain ⟨exactPower, word⟩ := exact_powersOfTen exponent.natAbs (Nat.lt_succ_of_le short)
  have second := unpack_of_toNat exactPower.canonical word
  rw [Float.ofScientific, dif_pos ⟨small, short⟩]
  have value := exact.value
  have powerValue := exactPower.value
  push_cast at powerValue
  rcases Int.lt_or_le exponent 0 with negative | natural
  · rw [if_pos (decide_eq_true negative)]
    rw [tenPow_of_neg negative, mul_one_div, ← value, ← powerValue] at near
    have quotient := div_of_near exact.canonical.pos exactPower.canonical.pos canonical near
    rw [← quotient]
    exact congrArg (Float.ofModel ∘ pack)
      (congrArg₂ (UnpackedFloat.div .binary64) first second)
  · rw [if_neg (by simpa using natural)]
    rw [tenPow_of_nonneg natural, ← value, ← powerValue] at near
    have product :=
      mul_of_near exact.canonical.pos exactPower.canonical.pos canonical exact.2.1 near
    rw [← product]
    exact congrArg (Float.ofModel ∘ pack)
      (congrArg₂ (UnpackedFloat.mul .binary64) first second)

theorem two_pow_le_ten_pow
    {twos tens : Nat}
    (le : twos ≤ 3 * tens) :
    (2 : ℚ) ^ twos ≤ 10 ^ tens :=
  calc
    (2 : ℚ) ^ twos ≤ 2 ^ (3 * tens) := pow_le_pow_right₀ one_le_two le
    _ = 8 ^ tens := by
      rw [pow_mul]
      norm_num
    _ ≤ 10 ^ tens := pow_le_pow_left₀ (by norm_num) (by norm_num) _

/-- A number near a double has no large power of ten in it. -/
theorem Near.natAbs_lt
    (canonical : Canonical m)
    (near : Near m (digits * 10 ^ exponent))
    (pos : 0 < digits)
    (natural : 0 ≤ exponent) :
    exponent.natAbs < 1024 := by
  by_contra large
  have upper := near.upper canonical
  rw [tenPow_of_nonneg natural, zpow_ofNat] at upper
  have whole : (1 : ℚ) ≤ digits := by exact_mod_cast pos
  have tall : (2 : ℚ) ^ 1024 ≤ 10 ^ exponent.natAbs := two_pow_le_ten_pow (by omega)
  have product : (10 : ℚ) ^ exponent.natAbs ≤ digits * 10 ^ exponent.natAbs :=
    le_mul_of_one_le_left (by positivity) whole
  exact absurd upper (not_lt.mpr (tall.trans product))

/-- A number near a double is not much smaller than its digits. -/
theorem Near.natAbs_le
    (canonical : Canonical m)
    (near : Near m (digits * 10 ^ exponent))
    (negative : exponent < 0) :
    exponent.natAbs ≤ digits.log2 + 1075 := by
  by_contra large
  have lower := near.lower canonical
  rw [tenPow_of_neg negative, mul_one_div, zpow_neg, zpow_ofNat, le_div_iff₀ (by positivity),
    inv_mul_le_iff₀ (by positivity)] at lower
  have bits : (digits : ℚ) < 2 ^ (digits.log2 + 1) := by exact_mod_cast Nat.lt_log2_self
  have short : (2 : ℚ) ^ 1075 * digits < 10 ^ exponent.natAbs :=
    calc
      (2 : ℚ) ^ 1075 * digits < 2 ^ 1075 * 2 ^ (digits.log2 + 1) :=
        mul_lt_mul_of_pos_left bits (by positivity)
      _ = 2 ^ (1075 + (digits.log2 + 1)) := (pow_add _ _ _).symm
      _ ≤ 10 ^ exponent.natAbs := two_pow_le_ten_pow (by omega)
  exact absurd lower (not_le.mpr short)

theorem ofScientific_rounded
    (canonical : Canonical m)
    (pos : 0 < digits)
    (near : Near m (digits * 10 ^ exponent)) :
    UnpackedFloat.ofScientific .binary64 digits exponent =
      .finite .positive m.significand m.exponent canonical.pos := by
  have notHigh : ¬ 2 ^ Format.binary64.exponentBits < exponent := by
    intro high
    have high : (2048 : Int) < exponent := high
    have bound := near.natAbs_lt canonical pos (by omega)
    omega
  have notLow : ¬ exponent < -(2 ^ Format.binary64.exponentBits + (digits.log2 : Int)) := by
    intro low
    have low : exponent < -(2048 + (digits.log2 : Int)) := low
    have bound := near.natAbs_le canonical (by omega)
    omega
  unfold UnpackedFloat.ofScientific
  rw [dif_neg (Nat.ne_of_gt pos), if_neg notHigh, if_neg notLow]
  rcases Int.lt_or_le exponent 0 with negative | natural
  · have same : (-exponent).toNat = exponent.natAbs := by omega
    have quotient :
        (digits : ℚ) * 2 ^ (0 : Int) / ((10 ^ (-exponent).toNat : Nat) * 2 ^ (0 : Int)) =
          digits * 10 ^ exponent := by
      rw [tenPow_of_neg negative, same]
      push_cast
      field_simp
    rw [if_neg (not_le.mpr negative)]
    refine div_of_near _ _ canonical ?_
    rw [quotient]
    exact near
  · have same : exponent.toNat = exponent.natAbs := by omega
    rw [if_pos natural]
    refine mul_of_near _ _ canonical ?_ ?_
    · change 2 ^ 52 ≤ digits <<< 53
      rw [Nat.shiftLeft_eq]
      exact le_trans (by decide) (Nat.le_mul_of_pos_left (2 ^ 53) pos)
    · have product :
          ((digits <<< 53 : Nat) : ℚ) * 2 ^ (-(53 : Nat) : Int) *
              ((10 ^ exponent.toNat : Nat) * 2 ^ (0 : Int)) = digits * 10 ^ exponent := by
        rw [Nat.shiftLeft_eq, tenPow_of_nonneg natural, same, zpow_neg, zpow_natCast]
        push_cast
        field_simp
        norm_num
      rw [← product] at near
      exact near

/-- A decimal is converted to the magnitude that it is nearest to. -/
theorem ofScientific_of_near
    (canonical : Canonical m)
    (pos : 0 < digits)
    (near : Near m (digits * 10 ^ exponent)) :
    Float.ofScientific digits (exponent < 0) exponent.natAbs =
      .ofModel (pack (.finite .positive m.significand m.exponent canonical.pos)) := by
  by_cases short : digits < 2 ^ 53 ∧ exponent.natAbs ≤ 22
  · exact ofScientific_exact canonical pos short.1 short.2 near
  · have same : (if decide (exponent < 0) = true then Int.negOfNat exponent.natAbs
        else Int.ofNat exponent.natAbs) = exponent := by
      rcases Int.lt_or_le exponent 0 with negative | natural
      · rw [if_pos (decide_eq_true negative), Int.negOfNat_eq]
        exact neg_eq_iff_eq_neg.mpr (Int.ofNat_natAbs_of_nonpos negative.le)
      · rw [if_neg (by simpa using natural)]
        exact Int.natAbs_of_nonneg natural
    rw [Float.ofScientific, dif_neg short, same]
    exact congrArg (Float.ofModel ∘ pack) (ofScientific_rounded canonical pos near)

theorem digits_bounds (pos : 0 < digits) :
    10 ^ ((Nat.toDigits 10 digits).length - 1) ≤ digits ∧
      digits < 10 ^ (Nat.toDigits 10 digits).length := by
  have some : 0 < (Nat.toDigits 10 digits).length := Nat.length_toDigits_pos
  constructor
  · rcases Nat.eq_zero_or_pos ((Nat.toDigits 10 digits).length - 1) with single | more
    · rw [single]
      exact pos
    · rw [← Nat.not_lt, ← Nat.length_toDigits_le_iff (by decide) more]
      omega
  · exact (Nat.length_toDigits_le_iff (by decide) some).mp le_rfl

/-- A number near a double has its leading digit at no extreme place. -/
theorem Near.places
    (canonical : Canonical m)
    (near : Near m (digits * 10 ^ exponent))
    (pos : 0 < digits) :
    -400 ≤ ((Nat.toDigits 10 digits).length : Int) + exponent ∧
      ((Nat.toDigits 10 digits).length : Int) + exponent ≤ 400 := by
  have some : 0 < (Nat.toDigits 10 digits).length := Nat.length_toDigits_pos
  obtain ⟨least, most⟩ := digits_bounds pos
  have lower := near.lower canonical
  have upper := near.upper canonical
  have scale : (0 : ℚ) < 10 ^ exponent := zpow_pos (by norm_num) _
  constructor
  · by_contra low
    have below : (digits : ℚ) * 10 ^ exponent < 10 ^ (-401 : Int) :=
      calc
        (digits : ℚ) * 10 ^ exponent < 10 ^ (Nat.toDigits 10 digits).length * 10 ^ exponent :=
          mul_lt_mul_of_pos_right (by exact_mod_cast most) scale
        _ = 10 ^ (((Nat.toDigits 10 digits).length : Int) + exponent) := by
          rw [zpow_add₀ (by norm_num), zpow_natCast]
        _ ≤ 10 ^ (-401 : Int) := zpow_le_zpow_right₀ (by norm_num) (by omega)
    have tiny : (10 : ℚ) ^ (-401 : Int) ≤ 2 ^ (-1075 : Int) := by
      rw [zpow_neg, zpow_neg, zpow_ofNat, zpow_ofNat]
      exact inv_anti₀ (by positivity) (two_pow_le_ten_pow (by decide))
    exact absurd lower (not_le.mpr (below.trans_le tiny))
  · by_contra high
    have above : (10 : ℚ) ^ (400 : Int) ≤ digits * 10 ^ exponent :=
      calc
        (10 : ℚ) ^ (400 : Int) ≤
            10 ^ (((Nat.toDigits 10 digits).length - 1 : Nat) + exponent : Int) :=
          zpow_le_zpow_right₀ (by norm_num) (by omega)
        _ = 10 ^ ((Nat.toDigits 10 digits).length - 1) * 10 ^ exponent := by
          rw [zpow_add₀ (by norm_num), zpow_natCast]
        _ ≤ digits * 10 ^ exponent :=
          mul_le_mul_of_nonneg_right (by exact_mod_cast least) scale.le
    have huge : (2 : ℚ) ^ (1024 : Int) ≤ 10 ^ (400 : Int) := by
      rw [zpow_ofNat, zpow_ofNat]
      exact two_pow_le_ten_pow (by decide)
    exact absurd upper (not_lt.mpr (huge.trans above))

/-- A literal near a double is read as this double. -/
theorem nearestFloat?_of_near
    (canonical : Canonical m)
    (pos : 0 < digits)
    (near : Near m (digits * 10 ^ exponent)) :
    Json.nearestFloat? digits exponent =
      some (.ofModel (pack (.finite .positive m.significand m.exponent canonical.pos))) := by
  obtain ⟨low, high⟩ := near.places canonical pos
  have notLow : ¬ (digits = 0 ∨ ((Nat.toDigits 10 digits).length : Int) + exponent < -400) := by
    omega
  have finite : (Float.ofModel (pack (.finite .positive m.significand m.exponent
      canonical.pos))).isInf = false := by
    have unpacked := unpack_pack canonical false
    change (pack (.finite (signOf false) m.significand m.exponent canonical.pos)).unpack.isInf = _
    rw [unpacked]
    rfl
  unfold Json.nearestFloat?
  dsimp only
  rw [if_neg notLow, if_neg (not_lt.mpr high), ofScientific_of_near canonical pos near, finite]
  rfl

end

end Resubmit.Binary64
