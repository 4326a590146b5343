import Mathlib.Algebra.Order.Field.Power
import Mathlib.Algebra.Order.Field.Rat
import Mathlib.Tactic.FieldSimp
import Mathlib.Tactic.Linarith
import Mathlib.Tactic.Positivity
import Mathlib.Tactic.Ring
import Resubmit.Decimal.Binary64
import Resubmit.Proofs.Jitter

namespace Resubmit.Binary64

/-!
# Rounding to the nearest number

The numbers nearer to a double than to its neighbours are rounded to it, and so is a number just
between two doubles when the significand is even.  A number is rounded where its leading 53 bits
end; what is cut off is known from two bits, one for the first half and one for all the rest.
-/

open Float.Model UnpackedFloat

/-! ## The part that is cut off -/

/-- What is said about the fraction of a unit that a mantissa leaves out. -/
def Accords : Accuracy → ℚ → Prop
  | .exact, fraction => fraction = 0
  | .inexact .lt, fraction => 0 < fraction ∧ fraction < 1 / 2
  | .inexact .eq, fraction => fraction = 1 / 2
  | .inexact .gt, fraction => 1 / 2 < fraction ∧ fraction < 1

theorem Accords.nonneg
    {accuracy : Accuracy}
    {fraction : ℚ}
    (accords : Accords accuracy fraction) :
    0 ≤ fraction := by
  rcases accuracy with _ | (_ | _ | _)
  · exact le_of_eq (Eq.symm accords)
  · exact accords.1.le
  · rw [show fraction = 1 / 2 from accords]
    positivity
  · exact one_half_pos.le.trans accords.1.le

/--
An extended mantissa stands for a number: one bit is the first half of what the mantissa leaves
out, the other one says whether there is more.
-/
def Describes (extended : ExtendedMantissa) (number : ℚ) : Prop :=
  ∃ rest : ℚ,
    0 ≤ rest ∧ rest < 1 ∧ (extended.stickyBit = false ↔ rest = 0) ∧
      number = extended.mantissa + (extended.roundBit.toNat + rest) / 2

theorem describes_ofMantissaAndAccuracy
    {accuracy : Accuracy}
    {fraction : ℚ}
    (accords : Accords accuracy fraction)
    (mantissa : Nat) :
    Describes (.ofMantissaAndAccuracy mantissa accuracy) (mantissa + fraction) := by
  rcases accuracy with _ | (_ | _ | _)
  · refine ⟨0, le_rfl, one_pos, iff_of_true rfl rfl, ?_⟩
    rw [show fraction = 0 from accords]
    simp [ExtendedMantissa.ofMantissaAndAccuracy]
  · obtain ⟨positive, small⟩ := accords
    have some : 2 * fraction ≠ 0 := by positivity
    refine ⟨2 * fraction, by linarith, by linarith, iff_of_false nofun some, ?_⟩
    simp [ExtendedMantissa.ofMantissaAndAccuracy]
  · refine ⟨0, le_rfl, one_pos, iff_of_true rfl rfl, ?_⟩
    rw [show fraction = 1 / 2 from accords]
    simp [ExtendedMantissa.ofMantissaAndAccuracy]
  · obtain ⟨large, below⟩ := accords
    have some : 2 * fraction - 1 ≠ 0 := by linarith
    refine ⟨2 * fraction - 1, by linarith, by linarith, iff_of_false nofun some, ?_⟩
    simp [ExtendedMantissa.ofMantissaAndAccuracy]

theorem describes_shiftRightOne
    {extended : ExtendedMantissa}
    {number : ℚ}
    (describes : Describes extended number) :
    Describes extended.shiftRightOne (number / 2) := by
  obtain ⟨mantissa, round, sticky⟩ := extended
  obtain ⟨rest, nonneg, below, none, same⟩ := describes
  have halves : (mantissa : ℚ) = 2 * (mantissa / 2 : Nat) + (mantissa % 2 : Nat) := by
    exact_mod_cast (Nat.div_add_mod mantissa 2).symm
  have bit : ((mantissa % 2 != 0).toNat : ℚ) = (mantissa % 2 : Nat) := by
    rcases Nat.mod_two_eq_zero_or_one mantissa with even | odd
    · rw [even]
      rfl
    · rw [odd]
      rfl
  refine ⟨(round.toNat + rest) / 2, ?_, ?_, ?_, ?_⟩
  · positivity
  · cases round <;> simp <;> linarith
  · cases round
    · simpa [ExtendedMantissa.shiftRightOne] using none
    · have some : ((true.toNat : ℚ) + rest) / 2 ≠ 0 := by
        have : (0 : ℚ) < true.toNat := one_pos
        positivity
      exact iff_of_false nofun some
  · dsimp only [ExtendedMantissa.shiftRightOne] at same ⊢
    rw [same, halves, bit]
    ring

theorem describes_shiftRight
    {extended : ExtendedMantissa}
    {number : ℚ}
    (describes : Describes extended number)
    (shift : Nat) :
    Describes (extended >>> shift) (number / 2 ^ shift) := by
  induction shift with
  | zero => simpa [HShiftRight.hShiftRight, Nat.repeat] using describes
  | succ shift inductionHypothesis =>
      rw [pow_succ, ← div_div]
      exact describes_shiftRightOne inductionHypothesis

/-- A number is rounded to the integer it is nearest to, and halfway to the even one. -/
theorem roundedMantissa_eq
    {extended : ExtendedMantissa}
    {number : ℚ}
    {nearest : Nat}
    (describes : Describes extended number)
    (low : nearest - 1 / 2 ≤ number)
    (high : number ≤ nearest + 1 / 2)
    (strict : nearest % 2 = 1 → nearest - 1 / 2 < number ∧ number < nearest + 1 / 2) :
    extended.roundedMantissa = nearest := by
  obtain ⟨mantissa, round, sticky⟩ := extended
  obtain ⟨rest, nonneg, below, none, same⟩ := describes
  dsimp only at same none
  have lt_succ {a b : Nat} (lt : (a : ℚ) < b + 1) : a ≤ b := by
    exact Nat.le_of_lt_succ (by exact_mod_cast lt)
  cases round with
  | false =>
      have same : number = mantissa + rest / 2 := by simpa using same
      have least : mantissa ≤ nearest := lt_succ (by linarith)
      have most : nearest ≤ mantissa := lt_succ (by linarith)
      rw [Nat.le_antisymm most least]
      cases sticky <;> rfl
  | true =>
      have same : number = mantissa + (1 + rest) / 2 := by simpa using same
      have most : nearest ≤ mantissa + 1 := lt_succ (by push_cast; linarith)
      cases sticky with
      | false =>
          rw [none.mp rfl] at same
          have least : mantissa ≤ nearest := lt_succ (by linarith)
          have even : nearest % 2 = 0 := by
            rcases Nat.mod_two_eq_zero_or_one nearest with even | odd
            · exact even
            · obtain ⟨above, below⟩ := strict odd
              have high : nearest ≤ mantissa := lt_succ (by linarith)
              have low : mantissa + 1 ≤ nearest := lt_succ (by push_cast; linarith)
              omega
          change mantissa + mantissa % 2 = nearest
          omega
      | true =>
          have positive : 0 < rest := lt_of_le_of_ne nonneg fun zero => nomatch none.mpr zero.symm
          have least : mantissa + 1 ≤ nearest := lt_succ (by push_cast; linarith)
          exact Nat.le_antisymm least most

/-! ## Shifting to the exponent at which a number is rounded -/

theorem mantissa_shiftToTargetExponent
    (mantissa : Nat)
    (exponent : Int)
    (accuracy : Accuracy) :
    let shifted := shiftToTargetExponent .binary64 mantissa exponent accuracy
    shifted.1.mantissa = mantissa / 2 ^ (shifted.2 - exponent).toNat := by
  simp only [shiftToTargetExponent, shiftToExponent, mantissa_shiftRight,
    mantissa_ofMantissaAndAccuracy]
  congr 2
  omega

/-- Shifting leaves the number as it is. -/
theorem describes_shiftToTargetExponent
    {accuracy : Accuracy}
    {fraction : ℚ}
    (accords : Accords accuracy fraction)
    (mantissa : Nat)
    (exponent : Int) :
    let shifted := shiftToTargetExponent .binary64 mantissa exponent accuracy
    Describes shifted.1 ((mantissa + fraction) * 2 ^ exponent / 2 ^ shifted.2) := by
  intro shifted
  let shift := (Format.binary64.targetExponent (totalExponent mantissa exponent) - exponent).toNat
  have scale : ((mantissa + fraction) * 2 ^ exponent / 2 ^ shifted.2 : ℚ) =
      (mantissa + fraction) / 2 ^ shift := by
    change ((mantissa + fraction) * 2 ^ exponent / 2 ^ (exponent + (shift : Int)) : ℚ) = _
    rw [zpow_add₀ two_ne_zero, zpow_natCast]
    have := zpow_ne_zero exponent (show (2 : ℚ) ≠ 0 from two_ne_zero)
    field_simp
  rw [scale]
  exact describes_shiftRight (describes_ofMantissaAndAccuracy accords mantissa) shift

theorem Describes.lt
    {extended : ExtendedMantissa}
    {number : ℚ}
    (describes : Describes extended number) :
    number < extended.mantissa + 1 := by
  obtain ⟨rest, _, below, _, same⟩ := describes
  rw [same]
  have bit : (extended.roundBit.toNat : ℚ) ≤ 1 := by
    exact_mod_cast Bool.toNat_le extended.roundBit
  linarith

/-! ## Magnitudes and their neighbourhoods -/

/-- The magnitude of a finite double other than zero. -/
structure Canonical (m : Decimal.Magnitude) : Prop where
  pos : 0 < m.significand
  bits : m.significand < 2 ^ 53
  least : -1074 ≤ m.exponent
  most : m.exponent ≤ 971
  normal : -1074 < m.exponent → 2 ^ 52 ≤ m.significand
  narrowBelow : m.narrowBelow = true ↔ m.significand = 2 ^ 52 ∧ -1074 < m.exponent

/-- How far below a magnitude, in its units, the numbers are that are still rounded to it. -/
def reach (m : Decimal.Magnitude) : ℚ :=
  if m.narrowBelow then 1 / 4 else 1 / 2

/-- A number is rounded to this magnitude: it is no nearer to a neighbour. -/
structure Near (m : Decimal.Magnitude) (number : ℚ) : Prop where
  low : m.significand - reach m ≤ number / 2 ^ m.exponent
  high : number / 2 ^ m.exponent ≤ m.significand + 1 / 2
  strict :
    m.significand % 2 = 1 →
      m.significand - 1 / 2 < number / 2 ^ m.exponent ∧
        number / 2 ^ m.exponent < m.significand + 1 / 2

theorem reach_le (m : Decimal.Magnitude) : reach m ≤ 1 / 2 := by
  unfold reach
  split <;> norm_num

section

variable {mantissa : Nat}
variable {exponent : Int}
variable {accuracy : Accuracy}
variable {fraction : ℚ}

/-- With bits enough, a number is rounded where its leading 53 bits end. -/
theorem exponent_of_precise
    (precise : 2 ^ 52 ≤ mantissa ∨ exponent ≤ -1074)
    (accuracy : Accuracy) :
    (shiftToTargetExponent .binary64 mantissa exponent accuracy).2 =
      max (mantissa.log2 + exponent - 52) (-1074) := by
  rw [exponent_shiftToTargetExponent]
  rcases precise with long | low
  · have bits : 52 ≤ mantissa.log2 := (Nat.le_log2 (by omega)).mpr long
    omega
  · omega

theorem shifted_lt
    (accords : Accords accuracy fraction)
    (mantissa : Nat)
    (exponent : Int) :
    (mantissa + fraction) * 2 ^ exponent /
        2 ^ (shiftToTargetExponent .binary64 mantissa exponent accuracy).2 < (2 ^ 53 : ℚ) := by
  have describes := describes_shiftToTargetExponent accords mantissa exponent
  have bits := mantissa_shiftToTargetExponent_lt mantissa exponent accuracy
  have bits : ((shiftToTargetExponent .binary64 mantissa exponent accuracy).1.mantissa : ℚ) + 1 ≤
      2 ^ 53 := by
    exact_mod_cast bits
  exact describes.lt.trans_le bits

theorem le_shifted
    (accords : Accords accuracy fraction)
    (precise : 2 ^ 52 ≤ mantissa ∨ exponent ≤ -1074)
    (normal : -1074 < (shiftToTargetExponent .binary64 mantissa exponent accuracy).2) :
    (2 ^ 52 : ℚ) ≤
      (mantissa + fraction) * 2 ^ exponent /
        2 ^ (shiftToTargetExponent .binary64 mantissa exponent accuracy).2 := by
  rw [exponent_of_precise precise] at normal ⊢
  have place : max ((mantissa.log2 : Int) + exponent - 52) (-1074) =
      (mantissa.log2 : Int) + exponent - 52 := by omega
  have nonzero : mantissa ≠ 0 := by
    rintro rfl
    simp only [Nat.log2_zero] at normal
    omega
  have nonneg := accords.nonneg
  have bits : (2 : ℚ) ^ mantissa.log2 ≤ mantissa := by
    exact_mod_cast Nat.log2_self_le nonzero
  have scale :
      ((mantissa : ℚ) + fraction) * 2 ^ exponent / 2 ^ (mantissa.log2 + exponent - 52 : Int) =
        (mantissa + fraction) / 2 ^ mantissa.log2 * 2 ^ 52 := by
    rw [zpow_sub₀ two_ne_zero, zpow_add₀ two_ne_zero, zpow_natCast, zpow_ofNat]
    have := zpow_ne_zero exponent (show (2 : ℚ) ≠ 0 from two_ne_zero)
    field_simp
  rw [place, scale]
  refine le_mul_of_one_le_left (by positivity) ?_
  rw [one_le_div (by positivity)]
  linarith

end

theorem rescale (number : ℚ) (exponent place : Int) :
    number / 2 ^ place = number / 2 ^ exponent * 2 ^ (exponent - place) := by
  rw [zpow_sub₀ two_ne_zero]
  have := zpow_ne_zero exponent (show (2 : ℚ) ≠ 0 from two_ne_zero)
  field_simp

/--
A number near a magnitude is rounded at the exponent of the magnitude, or one lower if it is
just below a power of two.
-/
theorem place_of_near
    {m : Decimal.Magnitude}
    {number : ℚ}
    {place : Int}
    (canonical : Canonical m)
    (near : Near m number)
    (least : -1074 ≤ place)
    (below : number / 2 ^ place < 2 ^ 53)
    (above : -1074 < place → 2 ^ 52 ≤ number / 2 ^ place) :
    place = m.exponent ∨
      place = m.exponent - 1 ∧ m.significand = 2 ^ 52 ∧ m.narrowBelow = true := by
  obtain ⟨low, high, _⟩ := near
  have reached := reach_le m
  have pos : (1 : ℚ) ≤ m.significand := by exact_mod_cast canonical.pos
  have bits : (m.significand : ℚ) + 1 ≤ 2 ^ 53 := by exact_mod_cast canonical.bits
  have scale := rescale number m.exponent place
  generalize number / 2 ^ m.exponent = units at *
  rcases lt_trichotomy place m.exponent with lower | same | higher
  · right
    have normal : (2 : ℚ) ^ 52 ≤ m.significand := by
      exact_mod_cast canonical.normal (lt_of_le_of_lt least lower)
    have positive : 0 ≤ units := by linarith
    have double : (2 : ℚ) ^ (1 : Int) ≤ 2 ^ (m.exponent - place) :=
      zpow_le_zpow_right₀ one_le_two (by omega)
    have doubled := mul_le_mul_of_nonneg_left double positive
    rw [zpow_one] at doubled
    have power : m.significand = 2 ^ 52 := by
      have : (m.significand : ℚ) < 2 ^ 52 + 1 := by linarith
      have : m.significand < 2 ^ 52 + 1 := by exact_mod_cast this
      have := canonical.normal (lt_of_le_of_lt least lower)
      omega
    have narrow : m.narrowBelow = true :=
      canonical.narrowBelow.mpr ⟨power, lt_of_le_of_lt least lower⟩
    refine ⟨?_, power, narrow⟩
    by_contra lowest
    have quadruple : (2 : ℚ) ^ (2 : Int) ≤ 2 ^ (m.exponent - place) :=
      zpow_le_zpow_right₀ one_le_two (by omega)
    have quadrupled := mul_le_mul_of_nonneg_left quadruple positive
    norm_num at quadrupled
    linarith
  · exact .inl same
  · have tall := above (lt_of_le_of_lt canonical.least higher)
    have positive : 0 ≤ units := by linarith
    have half : (2 : ℚ) ^ (m.exponent - place) ≤ 2 ^ (-1 : Int) :=
      zpow_le_zpow_right₀ one_le_two (by omega)
    have halved := mul_le_mul_of_nonneg_left half positive
    norm_num at halved
    linarith

theorem shiftToTargetExponent_exact
    {mantissa final : Nat}
    {exponent place : Int}
    (placed : max exponent (max (mantissa.log2 + exponent - 52) (-1074)) = place)
    (same : mantissa / 2 ^ (place - exponent).toNat = final) :
    (shiftToTargetExponent .binary64 mantissa exponent .exact).1.mantissa = final ∧
      (shiftToTargetExponent .binary64 mantissa exponent .exact).2 = place := by
  have placed := (exponent_shiftToTargetExponent mantissa exponent .exact).trans placed
  refine ⟨?_, placed⟩
  rw [mantissa_shiftToTargetExponent, placed, same]

theorem finite_congr
    {sign : Sign}
    {mantissa mantissa₂ : Nat}
    {exponent exponent₂ : Int}
    {pos : 0 < mantissa}
    {pos₂ : 0 < mantissa₂}
    (mantissaEq : mantissa = mantissa₂)
    (exponentEq : exponent = exponent₂) :
    UnpackedFloat.finite sign mantissa exponent pos = .finite sign mantissa₂ exponent₂ pos₂ := by
  subst mantissaEq exponentEq
  rfl

/-- A number is shifted, rounded, and shifted once more if rounding has made it longer. -/
theorem roundWithAccuracy_of_shifts
    {mantissa rounded final : Nat}
    {exponent place : Int}
    {accuracy : Accuracy}
    {first : ExtendedMantissa × Int}
    (shifted : shiftToTargetExponent .binary64 mantissa exponent accuracy = first)
    (roundedEq : first.1.roundedMantissa = rounded)
    (placed : max first.2 (max (rounded.log2 + first.2 - 52) (-1074)) = place)
    (same : rounded / 2 ^ (place - first.2).toNat = final)
    (pos : 0 < final)
    (sign : Sign) :
    roundWithAccuracy .binary64 sign mantissa exponent accuracy = .finite sign final place pos := by
  subst shifted roundedEq
  obtain ⟨mantissaEq, placeEq⟩ := shiftToTargetExponent_exact placed same
  unfold roundWithAccuracy
  dsimp only
  rw [dif_neg (ne_of_eq_of_ne mantissaEq (Nat.ne_of_gt pos))]
  exact finite_congr mantissaEq placeEq

/-- A number is rounded to the nearest magnitude. -/
theorem roundWithAccuracy_of_near
    {m : Decimal.Magnitude}
    {mantissa : Nat}
    {exponent : Int}
    {accuracy : Accuracy}
    {fraction : ℚ}
    (canonical : Canonical m)
    (accords : Accords accuracy fraction)
    (precise : 2 ^ 52 ≤ mantissa ∨ exponent ≤ -1074)
    (near : Near m ((mantissa + fraction) * 2 ^ exponent))
    (sign : Sign) :
    roundWithAccuracy .binary64 sign mantissa exponent accuracy =
      .finite sign m.significand m.exponent canonical.pos := by
  have describes := describes_shiftToTargetExponent accords mantissa exponent
  have below := shifted_lt accords mantissa exponent
  have above := le_shifted accords precise
  have least : -1074 ≤ (shiftToTargetExponent .binary64 mantissa exponent accuracy).2 := by
    rw [exponent_of_precise precise]
    exact le_max_right _ _
  dsimp only at describes
  generalize shifted : shiftToTargetExponent .binary64 mantissa exponent accuracy = first
    at describes below above least
  have placed := place_of_near canonical near least below above
  obtain ⟨low, high, strict⟩ := near
  have reached := reach_le m
  have bits := canonical.bits
  have lowest := canonical.least
  rcases placed with same | ⟨lower, power, narrow⟩
  · rw [same] at describes
    have rounded := roundedMantissa_eq describes (by linarith) high strict
    have short : m.significand.log2 < 53 := (Nat.log2_lt (Nat.ne_of_gt canonical.pos)).mpr bits
    refine roundWithAccuracy_of_shifts shifted rounded (by omega) ?_ canonical.pos sign
    rw [same, Int.sub_self]
    exact Nat.div_one m.significand
  · have rounded : first.1.roundedMantissa = 2 ^ 53 := by
      have quarter : reach m = 1 / 4 := if_pos narrow
      have double := rescale ((mantissa + fraction) * 2 ^ exponent) m.exponent first.2
      rw [lower, Int.sub_sub_self, zpow_one, ← lower] at double
      rw [quarter, power] at low
      push_cast at low
      refine roundedMantissa_eq describes ?_ ?_ nofun
      · push_cast
        linarith
      · push_cast
        linarith
    have long : (2 ^ 53 : Nat).log2 = 53 := Nat.log2_two_pow
    have normal := (canonical.narrowBelow.mp narrow).2
    refine roundWithAccuracy_of_shifts shifted rounded (by omega) ?_ canonical.pos sign
    rw [lower, power, Int.sub_sub_self]
    rfl

/-! ## Products and quotients -/

section

variable {m : Decimal.Magnitude}
variable {mantissa mantissa₂ : Nat}
variable {exponent exponent₂ : Int}

/-- A product is rounded to the nearest magnitude. -/
theorem mul_of_near
    (pos : 0 < mantissa)
    (pos₂ : 0 < mantissa₂)
    (canonical : Canonical m)
    (precise : 2 ^ 52 ≤ mantissa)
    (near : Near m (mantissa * 2 ^ exponent * (mantissa₂ * 2 ^ exponent₂))) :
    UnpackedFloat.mul .binary64 (.finite .positive mantissa exponent pos)
        (.finite .positive mantissa₂ exponent₂ pos₂) =
      .finite .positive m.significand m.exponent canonical.pos := by
  have product :
      ((mantissa * mantissa₂ : Nat) + 0 : ℚ) * 2 ^ (exponent + exponent₂) =
        mantissa * 2 ^ exponent * (mantissa₂ * 2 ^ exponent₂) := by
    rw [zpow_add₀ two_ne_zero]
    push_cast
    ring
  rw [← product] at near
  have long : 2 ^ 52 ≤ mantissa * mantissa₂ := precise.trans (Nat.le_mul_of_pos_right _ pos₂)
  have whole : Accords .exact 0 := rfl
  exact roundWithAccuracy_of_near canonical whole (.inl long) near .positive

theorem accords_accuracyOfFraction
    {remainder divisor : Nat}
    (below : remainder < divisor) :
    Accords (accuracyOfFraction remainder divisor) (remainder / divisor) := by
  have positive : (0 : ℚ) < divisor := by
    exact_mod_cast Nat.zero_lt_of_lt below
  unfold accuracyOfFraction
  split
  · rename_i none
    rw [none]
    simp [Accords]
  · rename_i some
    have some : (0 : ℚ) < remainder := by
      exact_mod_cast Nat.pos_of_ne_zero some
    have less : (remainder : ℚ) < divisor := by
      exact_mod_cast below
    rcases order : compare (2 * remainder) divisor with _ | _ | _
    · have order : 2 * (remainder : ℚ) < divisor := by
        exact_mod_cast Nat.compare_eq_lt.mp order
      refine ⟨by positivity, ?_⟩
      rw [div_lt_iff₀ positive]
      linarith
    · have order : 2 * (remainder : ℚ) = divisor := by
        exact_mod_cast Nat.compare_eq_eq.mp order
      change (remainder / divisor : ℚ) = 1 / 2
      rw [← order]
      field_simp
    · have order : (divisor : ℚ) < 2 * remainder := by
        exact_mod_cast Nat.compare_eq_gt.mp order
      constructor
      · rw [lt_div_iff₀ positive]
        linarith
      · rw [div_lt_one positive]
        exact less

/-- A quotient is computed to 53 bits, unless it is too small for them. -/
theorem divCore_precise
    (pos : 0 < mantissa)
    (pos₂ : 0 < mantissa₂)
    (exponent exponent₂ : Int) :
    2 ^ 52 ≤ (divCore .binary64 mantissa exponent mantissa₂ exponent₂).1 ∨
      (divCore .binary64 mantissa exponent mantissa₂ exponent₂).2.1 ≤ -1074 := by
  simp only [divCore, targetExponent_eq, totalExponent]
  rw [or_iff_not_imp_right]
  intro normal
  generalize placed : min (exponent - exponent₂) _ = place at normal ⊢
  have shift : mantissa₂.log2 + 53 ≤ mantissa.log2 + (exponent - exponent₂ - place).toNat := by
    omega
  rw [Nat.le_div_iff_mul_le pos₂, Nat.shiftLeft_eq]
  calc
    2 ^ 52 * mantissa₂ ≤ 2 ^ 52 * 2 ^ (mantissa₂.log2 + 1) :=
      Nat.mul_le_mul_left _ Nat.lt_log2_self.le
    _ = 2 ^ (mantissa₂.log2 + 53) := by ring
    _ ≤ 2 ^ (mantissa.log2 + (exponent - exponent₂ - place).toNat) :=
      Nat.pow_le_pow_right Nat.two_pos shift
    _ = 2 ^ mantissa.log2 * 2 ^ (exponent - exponent₂ - place).toNat := Nat.pow_add _ _ _
    _ ≤ mantissa * 2 ^ (exponent - exponent₂ - place).toNat :=
      Nat.mul_le_mul_right _ (Nat.log2_self_le (Nat.ne_of_gt pos))

/-- What a quotient leaves out is known from the remainder. -/
theorem exists_fraction_divCore
    (pos₂ : 0 < mantissa₂)
    (mantissa : Nat)
    (exponent exponent₂ : Int) :
    ∃ fraction : ℚ,
      Accords (divCore .binary64 mantissa exponent mantissa₂ exponent₂).2.2 fraction ∧
        ((divCore .binary64 mantissa exponent mantissa₂ exponent₂).1 + fraction) *
            2 ^ (divCore .binary64 mantissa exponent mantissa₂ exponent₂).2.1 =
          mantissa * 2 ^ exponent / (mantissa₂ * 2 ^ exponent₂) := by
  simp only [divCore]
  generalize placed : min (exponent - exponent₂) _ = place
  have low : place ≤ exponent - exponent₂ := placed ▸ min_le_left _ _
  have scale : (2 : ℚ) ^ (exponent - exponent₂ - place).toNat * 2 ^ place =
      2 ^ (exponent - exponent₂) := by
    rw [← zpow_natCast, ← zpow_add₀ two_ne_zero]
    congr 1
    omega
  refine ⟨_, accords_accuracyOfFraction (Nat.mod_lt _ pos₂), ?_⟩
  rw [Nat.shiftLeft_eq]
  generalize dividend : mantissa * 2 ^ (exponent - exponent₂ - place).toNat = scaled
  have positive : (mantissa₂ : ℚ) ≠ 0 := by
    exact_mod_cast Nat.ne_of_gt pos₂
  have divided : ((scaled / mantissa₂ : Nat) + (scaled % mantissa₂ : Nat) / mantissa₂ : ℚ) =
      scaled / mantissa₂ := by
    rw [eq_div_iff positive, add_mul, div_mul_cancel₀ _ positive]
    exact_mod_cast Nat.div_add_mod' scaled mantissa₂
  have nonzero := zpow_ne_zero exponent₂ (show (2 : ℚ) ≠ 0 from two_ne_zero)
  calc
    _ = (mantissa * (2 ^ (exponent - exponent₂ - place).toNat * 2 ^ place) / mantissa₂ : ℚ) := by
      rw [divided, ← dividend]
      push_cast
      ring
    _ = mantissa * 2 ^ exponent / (mantissa₂ * 2 ^ exponent₂) := by
      rw [scale, zpow_sub₀ two_ne_zero]
      field_simp

/-- A quotient is rounded to the nearest magnitude. -/
theorem div_of_near
    (pos : 0 < mantissa)
    (pos₂ : 0 < mantissa₂)
    (canonical : Canonical m)
    (near : Near m (mantissa * 2 ^ exponent / (mantissa₂ * 2 ^ exponent₂))) :
    UnpackedFloat.div .binary64 (.finite .positive mantissa exponent pos)
        (.finite .positive mantissa₂ exponent₂ pos₂) =
      .finite .positive m.significand m.exponent canonical.pos := by
  obtain ⟨fraction, accords, same⟩ := exists_fraction_divCore pos₂ mantissa exponent exponent₂
  rw [← same] at near
  exact roundWithAccuracy_of_near canonical accords (divCore_precise pos pos₂ _ _) near .positive

end

end Resubmit.Binary64
