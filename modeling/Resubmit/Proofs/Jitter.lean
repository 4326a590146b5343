import Mathlib.Algebra.Order.Ring.Nat
import Mathlib.Tactic.NormNum
import Resubmit.Flow.Settings
import Resubmit.Policy.Delay

namespace Resubmit

/-!
# A delay can always be drawn

A delay is drawn from a range, and that is not possible when the width of the range is not a
finite number.  The width is twice the jitter, and the jitter of an accepted policy is below one.
Rounding makes such a number hardly larger, and no infinity comes of it.
-/

open Float.Model

namespace Binary64

variable {sign : UnpackedFloat.Sign}
variable {mantissa : Nat}
variable {exponent most : Int}

/-- Whether a number is finite and far below the largest one. -/
def Small : UnpackedFloat → Prop
  | .zero _ => True
  | .finite _ mantissa exponent _ => mantissa < 2 ^ 53 ∧ -1074 ≤ exponent ∧ exponent ≤ 0
  | _ => False

/-! ## Rounding -/

theorem targetExponent_eq (total : Int) :
    Format.binary64.targetExponent total = max (total - 53) (-1074) := by
  simp only [Format.targetExponent]
  rfl

theorem mantissa_shiftRight (shift : Nat) (extended : UnpackedFloat.ExtendedMantissa) :
    (extended >>> shift).mantissa = extended.mantissa / 2 ^ shift := by
  induction shift with
  | zero => simp [HShiftRight.hShiftRight, Nat.repeat]
  | succ shift inductionHypothesis =>
      change (extended >>> shift).mantissa / 2 = _
      rw [inductionHypothesis, Nat.div_div_eq_div_mul, Nat.pow_succ]

theorem mantissa_ofMantissaAndAccuracy
    (mantissa : Nat)
    (accuracy : UnpackedFloat.Accuracy) :
    (UnpackedFloat.ExtendedMantissa.ofMantissaAndAccuracy mantissa accuracy).mantissa =
      mantissa := by
  rcases accuracy with _ | (_ | _ | _) <;> rfl

theorem roundedMantissa_le (extended : UnpackedFloat.ExtendedMantissa) :
    extended.roundedMantissa ≤ extended.mantissa + 1 := by
  unfold UnpackedFloat.ExtendedMantissa.roundedMantissa
  generalize extended.accuracy = accuracy
  rcases accuracy with _ | (_ | _ | _)
  · exact Nat.le_add_right _ 1
  · exact Nat.le_add_right _ 1
  · exact Nat.add_le_add_left (Nat.le_of_lt_succ (Nat.mod_lt _ Nat.two_pos)) _
  · exact Nat.le_refl _

theorem log2_le_of_le {bits : Nat} (le : mantissa ≤ 2 ^ bits) : mantissa.log2 ≤ bits := by
  rcases Nat.eq_zero_or_pos mantissa with rfl | pos
  · exact Nat.zero_le bits
  · have least := Nat.log2_self_le (Nat.ne_of_gt pos)
    exact (Nat.pow_le_pow_iff_right Nat.one_lt_two).mp (least.trans le)

theorem log2_shiftLeft_le (mantissa shift : Nat) :
    (mantissa <<< shift).log2 ≤ mantissa.log2 + shift := by
  rcases Nat.eq_zero_or_pos mantissa with rfl | pos
  · simp
  · have bits : mantissa <<< shift < 2 ^ (mantissa.log2 + shift + 1) := by
      rw [Nat.shiftLeft_eq, Nat.add_right_comm, Nat.pow_add]
      exact Nat.mul_lt_mul_of_pos_right Nat.lt_log2_self (Nat.two_pow_pos shift)
    have some : mantissa <<< shift ≠ 0 := by
      rw [Nat.shiftLeft_eq]
      exact Nat.ne_of_gt (Nat.mul_pos pos (Nat.two_pow_pos shift))
    exact Nat.le_of_lt_succ ((Nat.log2_lt some).mpr bits)

theorem exponent_shiftToTargetExponent
    (mantissa : Nat)
    (exponent : Int)
    (accuracy : UnpackedFloat.Accuracy) :
    (UnpackedFloat.shiftToTargetExponent .binary64 mantissa exponent accuracy).2 =
      max exponent (max (mantissa.log2 + exponent - 52) (-1074)) := by
  simp only [UnpackedFloat.shiftToTargetExponent, UnpackedFloat.shiftToExponent,
    targetExponent_eq, totalExponent]
  omega

/-- Shifted to the exponent at which it is rounded, a number has 53 bits at most. -/
theorem mantissa_shiftToTargetExponent_lt
    (mantissa : Nat)
    (exponent : Int)
    (accuracy : UnpackedFloat.Accuracy) :
    (UnpackedFloat.shiftToTargetExponent .binary64 mantissa exponent accuracy).1.mantissa <
      2 ^ 53 := by
  simp only [UnpackedFloat.shiftToTargetExponent, UnpackedFloat.shiftToExponent,
    targetExponent_eq, totalExponent, mantissa_shiftRight, mantissa_ofMantissaAndAccuracy]
  rw [Nat.div_lt_iff_lt_mul (Nat.two_pow_pos _), ← Nat.pow_add]
  exact Nat.lt_of_lt_of_le Nat.lt_log2_self (Nat.pow_le_pow_right Nat.two_pos (by omega))

/-- A number is shifted, rounded and shifted once more, and what is left of it may be zero. -/
theorem roundWithAccuracy_eq
    (sign : UnpackedFloat.Sign)
    (mantissa : Nat)
    (exponent : Int)
    (accuracy : UnpackedFloat.Accuracy) :
    let first := UnpackedFloat.shiftToTargetExponent .binary64 mantissa exponent accuracy
    let last :=
      UnpackedFloat.shiftToTargetExponent .binary64 first.1.roundedMantissa first.2 .exact
    UnpackedFloat.roundWithAccuracy .binary64 sign mantissa exponent accuracy = .zero sign ∨
      ∃ pos,
        UnpackedFloat.roundWithAccuracy .binary64 sign mantissa exponent accuracy =
          .finite sign last.1.mantissa last.2 pos := by
  intro first last
  by_cases none : last.1.mantissa = 0
  · exact .inl (dif_pos none)
  · exact .inr ⟨Nat.pos_of_ne_zero none, dif_neg none⟩

/-- Rounding makes a number hardly larger. -/
theorem exponent_of_roundWithAccuracy
    {accuracy : UnpackedFloat.Accuracy}
    {rounded : Nat}
    {final : Int}
    {pos : 0 < rounded}
    (size : (mantissa.log2 : Int) + exponent ≤ most + 52)
    (low : exponent ≤ most)
    (least : -1074 ≤ most)
    (result :
      UnpackedFloat.roundWithAccuracy .binary64 sign mantissa exponent accuracy =
        .finite sign rounded final pos) :
    final ≤ most + 1 := by
  let first := UnpackedFloat.shiftToTargetExponent .binary64 mantissa exponent accuracy
  have carried : first.1.roundedMantissa ≤ 2 ^ 53 :=
    (roundedMantissa_le first.1).trans
      (mantissa_shiftToTargetExponent_lt mantissa exponent accuracy)
  have bits := log2_le_of_le carried
  have shifted : first.2 ≤ most := by
    rw [exponent_shiftToTargetExponent]
    omega
  rcases roundWithAccuracy_eq sign mantissa exponent accuracy with zero | ⟨_, finite⟩
  · rw [zero] at result
    cases result
  · rw [finite] at result
    injection result with _ _ same
    rw [← same]
    change (UnpackedFloat.shiftToTargetExponent .binary64 first.1.roundedMantissa first.2 _).2 ≤ _
    rw [exponent_shiftToTargetExponent]
    omega

theorem exponent_of_round
    {rounded : Nat}
    {final : Int}
    {pos : 0 < rounded}
    (size : (mantissa.log2 : Int) + exponent ≤ most + 52)
    (low : exponent ≤ most)
    (least : -1074 ≤ most)
    (result :
      UnpackedFloat.round .binary64 sign mantissa exponent = .finite sign rounded final pos) :
    final ≤ most + 1 := by
  unfold UnpackedFloat.round UnpackedFloat.decreaseExponent at result
  refine exponent_of_roundWithAccuracy ?_ ?_ least result
  · have bits := log2_shiftLeft_le mantissa
      (exponent - Format.binary64.targetExponent (totalExponent mantissa exponent)).toNat
    omega
  · omega

theorem round_eq
    (sign : UnpackedFloat.Sign)
    (mantissa : Nat)
    (exponent : Int) :
    UnpackedFloat.round .binary64 sign mantissa exponent = .zero sign ∨
      ∃ rounded final pos,
        UnpackedFloat.round .binary64 sign mantissa exponent =
          .finite sign rounded final pos := by
  rcases roundWithAccuracy_eq sign _ _ .exact with zero | ⟨pos, finite⟩
  · exact .inl zero
  · exact .inr ⟨_, _, pos, finite⟩

/-! ## Numbers as bits -/

/-- The exponent of a number as it is written in its bits. -/
def field (number : Float.Model) : Nat :=
  (@UnpackedFloat.unpackExponent .binary64 number.toBits.toBitVec).toNat

theorem toNat_leading (bits : BitVec 52) : (1#1 ++ bits).toNat = 2 ^ 52 + bits.toNat := by
  rw [BitVec.toNat_append, ← Nat.shiftLeft_add_eq_or_of_lt bits.isLt]
  rfl

/-- Read from its bits a number is not finite, or zero, or of 53 bits and a bounded exponent. -/
theorem unpack_cases (number : Float.Model) :
    (field number = 2047 ∧ number.isFinite = false) ∨
      (∃ sign, number.unpack = .zero sign) ∨
        ∃ sign mantissa exponent pos,
          number.unpack = .finite sign mantissa exponent pos ∧
            mantissa < 2 ^ 53 ∧
            -1074 ≤ exponent ∧
            exponent ≤ max ((field number : Int) - 1075) (-1074) := by
  have bias : (Format.binary64.exponentBias : Int) = 1023 := by decide
  let bits := number.toBits.toBitVec
  have bound : (@UnpackedFloat.unpackMantissa .binary64 bits).toNat < 2 ^ 52 := BitVec.isLt _
  by_cases all : @UnpackedFloat.unpackExponent .binary64 bits = -1
  · left
    refine ⟨congrArg BitVec.toNat all, ?_⟩
    by_cases none : @UnpackedFloat.unpackMantissa .binary64 bits = 0
    · have infinite : number.unpack = .infinity _ := (if_pos all).trans (if_pos none)
      rw [Float.Model.isFinite, infinite]
      rfl
    · have noNumber : number.unpack = .notANumber := (if_pos all).trans (if_neg none)
      rw [Float.Model.isFinite, noNumber]
      rfl
  · right
    by_cases low : @UnpackedFloat.unpackExponent .binary64 bits = 0
    · by_cases none : @UnpackedFloat.unpackMantissa .binary64 bits = 0
      · exact .inl ⟨_, (if_neg all).trans ((if_pos low).trans (dif_pos none))⟩
      · refine
          .inr ⟨_, _, _, _, (if_neg all).trans ((if_pos low).trans (dif_neg none)), ?_, ?_, ?_⟩
        · exact bound.trans (by decide)
        · rw [low]
          decide
        · rw [low]
          exact le_max_of_le_right (by decide)
    · have positive : field number ≠ 0 := fun same => low (BitVec.eq_of_toNat_eq same)
      refine .inr ⟨_, _, _, _, (if_neg all).trans (if_neg low), ?_, ?_, ?_⟩
      · rw [toNat_leading]
        omega
      · rw [bias]
        change -1074 ≤ (field number : Int) - (1023 + 52)
        omega
      · rw [bias]
        change (field number : Int) - (1023 + 52) ≤ _
        omega

theorem isFinite_of_field_lt {number : Float.Model} (below : field number < 2047) :
    number.isFinite = true := by
  rcases unpack_cases number with ⟨all, _⟩ | ⟨_, unpacked⟩ | ⟨_, _, _, _, unpacked, _⟩
  · rw [all] at below
    exact (Nat.lt_irrefl _ below).elim
  · rw [Float.Model.isFinite, unpacked]
    rfl
  · rw [Float.Model.isFinite, unpacked]
    rfl

theorem bounds_of_unpack
    {number : Float.Model}
    {pos : 0 < mantissa}
    (unpacked : number.unpack = .finite sign mantissa exponent pos) :
    mantissa < 2 ^ 53 ∧
      -1074 ≤ exponent ∧
      exponent ≤ max ((field number : Int) - 1075) (-1074) := by
  rcases unpack_cases number with ⟨_, infinite⟩ | ⟨_, zero⟩ | ⟨_, _, _, _, finite, bounds⟩
  · rw [Float.Model.isFinite, unpacked] at infinite
    cases infinite
  · rw [unpacked] at zero
    cases zero
  · rw [unpacked] at finite
    cases finite
    exact bounds

/-- Written in bits, a number that is not too large keeps its exponent. -/
theorem field_pack_le
    (sign : UnpackedFloat.Sign)
    (pos : 0 < mantissa)
    (low : exponent ≤ 971) :
    field (Float.Model.pack (.finite sign mantissa exponent pos)) ≤
      (exponent + 1075).toNat := by
  have bias : (Format.binary64.exponentBias : Int) = 1023 := by decide
  unfold field Float.Model.pack UnpackedFloat.pack
  dsimp only
  split
  · omega
  · split
    · rw [UnpackedFloat.unpackExponent_packComponents, BitVec.toNat_ofNat]
      exact (Nat.mod_le _ _).trans (by omega)
    · rw [UnpackedFloat.unpackExponent_packComponents]
      exact Nat.zero_le _

theorem isFinite_pack
    (sign : UnpackedFloat.Sign)
    (pos : 0 < mantissa)
    (low : exponent ≤ 971) :
    (Float.Model.pack (.finite sign mantissa exponent pos)).isFinite = true := by
  have kept := field_pack_le sign pos low
  exact isFinite_of_field_lt (by omega)

theorem isFinite_pack_zero (sign : UnpackedFloat.Sign) :
    (Float.Model.pack (.zero sign)).isFinite = true := by
  cases sign <;> rfl

/-! ## Differences of small numbers -/

theorem small_neg {number : UnpackedFloat} (small : Small number) :
    Small (Float.Model.pack number.neg).unpack := by
  cases number with
  | notANumber | infinity => exact small.elim
  | zero sign => cases sign <;> trivial
  | finite sign mantissa exponent pos =>
      obtain ⟨narrow, least, most⟩ := small
      have low : exponent ≤ 971 := most.trans (by decide)
      have kept := field_pack_le (-sign) pos low
      have finite := isFinite_pack (-sign) pos low
      rw [Float.Model.isFinite] at finite
      change Small (Float.Model.pack (.finite (-sign) mantissa exponent pos)).unpack
      cases unpacked : (Float.Model.pack (.finite (-sign) mantissa exponent pos)).unpack with
      | notANumber | infinity =>
          rw [unpacked] at finite
          cases finite
      | zero => trivial
      | finite =>
          obtain ⟨narrow, least', bound⟩ := bounds_of_unpack unpacked
          exact ⟨narrow, least', bound.trans (by omega)⟩

theorem shiftLeft_le
    {shift most : Nat}
    (narrow : mantissa < 2 ^ 53)
    (within : shift ≤ most) :
    mantissa <<< shift ≤ 2 ^ (53 + most) := by
  rw [Nat.shiftLeft_eq, Nat.pow_add]
  exact Nat.mul_le_mul (Nat.le_of_lt narrow) (Nat.pow_le_pow_right Nat.two_pos within)

theorem isFinite_round
    {shift : Nat}
    (size : mantissa ≤ 2 ^ (54 + shift))
    (low : exponent + shift ≤ 0) :
    (Float.Model.pack (UnpackedFloat.round .binary64 sign mantissa exponent)).isFinite = true := by
  have bits := log2_le_of_le size
  rcases round_eq sign mantissa exponent with zero | ⟨rounded, final, pos, result⟩
  · rw [zero]
    exact isFinite_pack_zero sign
  · have least : final ≤ 2 + 1 :=
      exponent_of_round (by omega) (by omega) (by decide) result
    rw [result]
    exact isFinite_pack sign pos (by omega)

theorem isFinite_sub
    {first second : UnpackedFloat}
    (small : Small first)
    (small' : Small second) :
    (Float.Model.pack (UnpackedFloat.sub .binary64 first second)).isFinite = true := by
  cases first with
  | notANumber | infinity => exact small.elim
  | zero sign =>
      cases second with
      | notANumber | infinity => exact small'.elim
      | zero sign' => cases sign <;> cases sign' <;> rfl
      | finite => exact isFinite_pack _ _ (small'.2.2.trans (by decide))
  | finite sign mantissa exponent pos =>
      cases second with
      | notANumber | infinity => exact small'.elim
      | zero sign' => exact isFinite_pack _ _ (small.2.2.trans (by decide))
      | finite sign' mantissa' exponent' pos' =>
          obtain ⟨narrow, _, low⟩ := small
          obtain ⟨narrow', _, low'⟩ := small'
          dsimp only [UnpackedFloat.sub, UnpackedFloat.decreaseExponent, UnpackedFloat.normalize]
          let shift := (max exponent exponent' - min exponent exponent').toNat
          have bound :
              mantissa <<< (exponent - min exponent exponent').toNat ≤ 2 ^ (53 + shift) :=
            shiftLeft_le narrow (by omega)
          have bound' :
              mantissa' <<< (exponent' - min exponent exponent').toNat ≤ 2 ^ (53 + shift) :=
            shiftLeft_le narrow' (by omega)
          have double : 2 ^ (54 + shift) = 2 ^ (53 + shift) + 2 ^ (53 + shift) := by
            rw [Nat.add_right_comm 53 1 shift, Nat.pow_succ, Nat.mul_two]
          have low : min exponent exponent' + shift ≤ 0 := by omega
          generalize mantissa <<< _ = large at bound
          generalize mantissa' <<< _ = large' at bound'
          split
          · refine isFinite_round ?_ low
            rw [double]
            cases sign <;> cases sign' <;> simp only [UnpackedFloat.Sign.apply] <;> omega
          · exact isFinite_pack_zero _
          · refine isFinite_round ?_ low
            rw [double]
            cases sign <;> cases sign' <;> simp only [UnpackedFloat.Sign.apply] <;> omega

end Binary64

/-! ## The range of the jitter -/

theorem Binary64.small_of_lt_one
    {number : Float}
    (nonneg : 0.0 ≤ number)
    (below : number < 1.0) :
    Small number.toModel.unpack := by
  have nonneg : UnpackedFloat.le (.zero .positive) number.toModel.unpack = true :=
    of_decide_eq_true nonneg
  have below :
      UnpackedFloat.lt number.toModel.unpack
        (.finite .positive 4503599627370496 (-52) (by decide)) = true :=
    of_decide_eq_true below
  cases unpacked : number.toModel.unpack with
  | notANumber =>
      rw [unpacked] at nonneg
      cases nonneg
  | infinity sign =>
      rw [unpacked] at nonneg below
      cases sign with
      | positive => cases below
      | negative => cases nonneg
  | zero => trivial
  | finite sign mantissa exponent pos =>
      obtain ⟨narrow, least, _⟩ := bounds_of_unpack unpacked
      rw [unpacked] at nonneg below
      cases sign with
      | negative => cases nonneg
      | positive =>
          refine ⟨narrow, least, ?_⟩
          apply Int.not_lt.mp
          intro large
          have order : compare exponent (-52) = .gt := Int.compare_eq_gt.mpr (by omega)
          change
            (some ((compare exponent (-52)).then (compare mantissa 4503599627370496)) ==
              some .lt) = true at below
          rw [order] at below
          cases below

namespace Policy

/-- An accepted policy has a range of finite width. -/
theorem isFinite_jitterRange {policy : Policy} (sound : policy.fault? = none) :
    policy.jitterRange.isFinite = true := by
  have bounds : 0.0 ≤ policy.jitter ∧ policy.jitter < 1.0 := by
    unfold fault? at sound
    split at sound
    · cases sound
    · split at sound
      · assumption
      · cases sound
  have small := Binary64.small_of_lt_one bounds.1 bounds.2
  exact Binary64.isFinite_sub small (Binary64.small_neg small)

/-- From an accepted policy a delay can always be drawn. -/
theorem delay_ne_error
    [WordSource γ]
    {policy : Policy}
    (sound : policy.fault? = none)
    (attempt : UInt32)
    (source : γ)
    (cause : JitterError) :
    policy.delay attempt source ≠ .error cause := by
  unfold delay
  simp only [isFinite_jitterRange sound, ↓reduceIte]
  split
  · exact fun same => nomatch same
  · exact fun same => nomatch same

end Policy

end Resubmit
