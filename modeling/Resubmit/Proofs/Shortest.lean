import Resubmit.Decimal.Shortest
import Resubmit.Proofs.Conversion

namespace Resubmit.Binary64

/-!
# The shortest decimal reads back

The search ends with a decimal that is near to the magnitude.  It always ends so, for the finest
grid is finer than the distance of any two doubles.
-/

open Decimal Magnitude

variable {m : Magnitude}
variable {grid : Int}
variable {c : Nat}

/-! ## What reads back is near -/

theorem zpow_mul_toNat
    {base : ℚ}
    (nonzero : base ≠ 0)
    (exponent : Int) :
    base ^ exponent * base ^ (-exponent).toNat = base ^ exponent.toNat := by
  rw [← zpow_natCast, ← zpow_natCast, ← zpow_add₀ nonzero]
  congr 1
  omega

/-- The quotient that stands for a unit of the significand in steps of the grid. -/
theorem ratioToGrid_eq (m : Magnitude) (grid : Int) :
    ((m.ratioToGrid grid).1 * 10 ^ grid : ℚ) = (m.ratioToGrid grid).2 * 2 ^ m.exponent := by
  have twos := zpow_mul_toNat (show (2 : ℚ) ≠ 0 from two_ne_zero) m.exponent
  have tens := zpow_mul_toNat (show (10 : ℚ) ≠ 0 by norm_num) grid
  simp only [ratioToGrid, Nat.pow_eq]
  push_cast
  rw [← twos, ← tens]
  ring

theorem ratioToGrid_pos (m : Magnitude) (grid : Int) : 0 < (m.ratioToGrid grid).1 := by
  simp only [ratioToGrid, Nat.pow_eq]
  positivity

/-- What is tested of a grid point. -/
theorem bounds_of_readsBack (back : m.readsBack grid c = true) :
    (4 * m.significand - if m.narrowBelow then 1 else 2) * (m.ratioToGrid grid).1 ≤
        4 * c * (m.ratioToGrid grid).2 ∧
      4 * c * (m.ratioToGrid grid).2 ≤ (4 * m.significand + 2) * (m.ratioToGrid grid).1 ∧
        (m.significand % 2 = 1 →
          (4 * m.significand - if m.narrowBelow then 1 else 2) * (m.ratioToGrid grid).1 <
              4 * c * (m.ratioToGrid grid).2 ∧
            4 * c * (m.ratioToGrid grid).2 < (4 * m.significand + 2) * (m.ratioToGrid grid).1) := by
  unfold readsBack at back
  dsimp only at back
  split at back
  · rename_i even
    obtain ⟨low, high⟩ := Bool.and_eq_true_iff.mp back
    exact ⟨of_decide_eq_true low, of_decide_eq_true high, fun odd => by omega⟩
  · obtain ⟨low, high⟩ := Bool.and_eq_true_iff.mp back
    have low := of_decide_eq_true low
    have high := of_decide_eq_true high
    exact ⟨low.le, high.le, fun _ => ⟨low, high⟩⟩

/-- A grid point that reads back is near to the magnitude. -/
theorem near_of_readsBack
    (canonical : Canonical m)
    (back : m.readsBack grid c = true) :
    Near m (c * 10 ^ grid) := by
  have ratio := ratioToGrid_eq m grid
  have pos := ratioToGrid_pos m grid
  obtain ⟨low, high, strict⟩ := bounds_of_readsBack back
  generalize (m.ratioToGrid grid).1 = numerator at ratio pos low high strict
  generalize (m.ratioToGrid grid).2 = denominator at ratio low high strict
  have positive : (0 : ℚ) < numerator := by exact_mod_cast pos
  have units : (c * 10 ^ grid / 2 ^ m.exponent : ℚ) = c * denominator / numerator := by
    have nonzero := zpow_ne_zero m.exponent (show (2 : ℚ) ≠ 0 from two_ne_zero)
    rw [div_eq_div_iff nonzero positive.ne', mul_assoc, mul_assoc, mul_comm (_ ^ grid), ratio]
  have significand := canonical.pos
  have below : ((4 * m.significand - if m.narrowBelow then 1 else 2 : Nat) : ℚ) =
      4 * (m.significand - reach m) := by
    unfold reach
    split
    · rw [Nat.cast_sub (by omega)]
      push_cast
      ring
    · rw [Nat.cast_sub (by omega)]
      push_cast
      ring
  have low : (4 * (m.significand - reach m) * numerator : ℚ) ≤ 4 * c * denominator := by
    rw [← below]
    exact_mod_cast low
  have high : (4 * c * denominator : ℚ) ≤ (4 * m.significand + 2) * numerator := by
    exact_mod_cast high
  constructor
  · rw [units, le_div_iff₀ positive]
    linarith
  · rw [units, div_le_iff₀ positive]
    linarith
  · intro odd
    obtain ⟨lower, higher⟩ := strict odd
    have wide : m.narrowBelow = false := by
      apply Bool.eq_false_iff.mpr
      intro narrow
      have power := (canonical.narrowBelow.mp narrow).1
      omega
    have half : reach m = 1 / 2 := by
      rw [reach, wide]
      rfl
    have lower : (4 * (m.significand - 1 / 2) * numerator : ℚ) < 4 * c * denominator := by
      rw [← half, ← below]
      exact_mod_cast lower
    have higher : (4 * c * denominator : ℚ) < (4 * m.significand + 2) * numerator := by
      exact_mod_cast higher
    rw [units, lt_div_iff₀ positive, div_lt_iff₀ positive]
    constructor <;> linarith

/-! ## The search -/

/-- A grid is passed over only if the next point below the magnitude does not read back. -/
theorem nearestOnGrid?_cases
    (tie : Tie)
    (m : Magnitude)
    (grid : Int) :
    m.nearestOnGrid? tie grid = none ∧
        m.readsBack grid
          (m.significand * (m.ratioToGrid grid).1 / (m.ratioToGrid grid).2) = false ∨
      ∃ c, m.nearestOnGrid? tie grid = some c ∧ m.readsBack grid c = true := by
  unfold nearestOnGrid?
  dsimp only
  generalize m.significand * (m.ratioToGrid grid).1 / (m.ratioToGrid grid).2 = below
  cases backBelow : m.readsBack grid below <;> cases backAbove : m.readsBack grid (below + 1)
  case false.false => exact .inl ⟨rfl, rfl⟩
  case false.true => exact .inr ⟨below + 1, rfl, backAbove⟩
  case true.false => exact .inr ⟨below, rfl, backBelow⟩
  case true.true =>
    right
    dsimp only
    split
    · exact ⟨below, rfl, backBelow⟩
    · split
      · exact ⟨below + 1, rfl, backAbove⟩
      · cases tie with
        | up => exact ⟨below + 1, rfl, backAbove⟩
        | toEven =>
            dsimp only
            split
            · exact ⟨below, rfl, backBelow⟩
            · exact ⟨below + 1, rfl, backAbove⟩

/-- A search that reaches a grid with a point that reads back ends with such a point. -/
theorem readsBack_searchGrids
    {tie : Tie}
    {tries steps : Nat}
    (within : steps < tries)
    (found : (m.nearestOnGrid? tie (grid - steps)).isSome = true) :
    m.readsBack (m.searchGrids tie tries grid).exponent (m.searchGrids tie tries grid).digits =
      true := by
  induction tries generalizing grid steps with
  | zero => exact (Nat.not_lt_zero steps within).elim
  | succ tries inductionHypothesis =>
      unfold searchGrids
      split
      · rename_i digits early
        rcases nearestOnGrid?_cases tie m grid with ⟨none, _⟩ | ⟨point, taken, back⟩
        · rw [none] at early
          cases early
        · rw [taken] at early
          cases early
          exact back
      · rename_i none
        cases steps with
        | zero =>
            rw [Int.natCast_zero, Int.sub_zero, none] at found
            cases found
        | succ steps =>
            refine inductionHypothesis (Nat.lt_of_succ_lt_succ within) ?_
            rwa [show grid - 1 - (steps : Int) = grid - (steps + 1 : Nat) by omega]

theorem two_pow_le_of_five_pow
    {twos fives : Nat}
    (le : 2 ^ twos ≤ 5 ^ fives)
    (times : Nat) :
    2 ^ ((fives + twos) * times) ≤ 10 ^ (fives * times) :=
  calc
    2 ^ ((fives + twos) * times) = (2 ^ fives * 2 ^ twos) ^ times := by
      rw [← Nat.pow_add, ← Nat.pow_mul]
    _ ≤ (2 ^ fives * 5 ^ fives) ^ times :=
      Nat.pow_le_pow_left (Nat.mul_le_mul_left _ le) times
    _ = 10 ^ (fives * times) := by
      rw [← Nat.mul_pow, ← Nat.pow_mul]

/-- The steps of the finest grid are no longer than a fourth of the unit of any magnitude. -/
theorem four_mul_ratioToGrid_le (canonical : Canonical m) :
    4 * (m.ratioToGrid (-324)).2 ≤ (m.ratioToGrid (-324)).1 := by
  have least := canonical.least
  have none : (-324 : Int).toNat = 0 := rfl
  obtain ⟨twos, tens, enough, all, finest⟩ :
      ∃ twos tens, 1076 ≤ twos ∧ (- -324 : Int).toNat = tens ∧ 2 ^ twos ≤ 10 ^ tens :=
    ⟨(81 + 188) * 4, 81 * 4, by decide, rfl, two_pow_le_of_five_pow (by decide) 4⟩
  simp only [ratioToGrid, Nat.pow_eq, none, all]
  calc
    4 * (2 ^ (-m.exponent).toNat * 10 ^ 0) = 2 ^ ((-m.exponent).toNat + 2) := by
      rw [Nat.pow_add, Nat.pow_zero, Nat.mul_one, Nat.mul_comm]
    _ ≤ 2 ^ twos := Nat.pow_le_pow_right Nat.two_pos (by omega)
    _ ≤ 10 ^ tens := finest
    _ ≤ 2 ^ m.exponent.toNat * 10 ^ tens := Nat.le_mul_of_pos_left _ (Nat.two_pow_pos _)

/-- On the finest grid the next point below a magnitude reads back. -/
theorem readsBack_finest (canonical : Canonical m) :
    m.readsBack (-324)
        (m.significand * (m.ratioToGrid (-324)).1 / (m.ratioToGrid (-324)).2) = true := by
  have fine := four_mul_ratioToGrid_le canonical
  have significand := canonical.pos
  have pos := ratioToGrid_pos m (-324)
  have denominatorPos : 0 < (m.ratioToGrid (-324)).2 := by
    simp only [ratioToGrid, Nat.pow_eq]
    positivity
  unfold readsBack
  dsimp only
  generalize (m.ratioToGrid (-324)).1 = numerator at fine pos ⊢
  generalize (m.ratioToGrid (-324)).2 = denominator at fine denominatorPos ⊢
  have split := Nat.div_add_mod' (m.significand * numerator) denominator
  have rest := Nat.mod_lt (m.significand * numerator) denominatorPos
  generalize m.significand * numerator / denominator = below at split ⊢
  have point : 4 * below * denominator = 4 * (below * denominator) := Nat.mul_assoc _ _ _
  have high : 4 * below * denominator < (4 * m.significand + 2) * numerator := by
    rw [point, Nat.add_mul, Nat.mul_assoc]
    omega
  have low :
      (4 * m.significand - if m.narrowBelow then 1 else 2) * numerator <
        4 * below * denominator := by
    have whole := Nat.le_mul_of_pos_left numerator significand
    rw [point, Nat.sub_mul, Nat.mul_assoc]
    split <;> omega
  split
  · rw [decide_eq_true low.le, decide_eq_true high.le]
    rfl
  · rw [decide_eq_true low, decide_eq_true high]
    rfl

theorem isSome_nearestOnGrid?
    (canonical : Canonical m)
    (tie : Tie) :
    (m.nearestOnGrid? tie (-324)).isSome = true := by
  rcases nearestOnGrid?_cases tie m (-324) with ⟨_, notBack⟩ | ⟨c, found, _⟩
  · rw [readsBack_finest canonical] at notBack
    cases notBack
  · rw [found]
    rfl

/-- The shortest decimal of a magnitude is near to it. -/
theorem near_shortest
    (canonical : Canonical m)
    (tie : Tie) :
    Near m ((m.shortest tie).digits * 10 ^ (m.shortest tie).exponent) := by
  apply near_of_readsBack canonical
  rw [shortest, if_neg (Nat.ne_of_gt canonical.pos)]
  have within : 633 < 634 := by decide
  exact readsBack_searchGrids within (isSome_nearestOnGrid? canonical tie)

theorem pos_of_near
    {digits : Nat}
    {exponent : Int}
    (canonical : Canonical m)
    (near : Near m (digits * 10 ^ exponent)) :
    0 < digits := by
  apply Nat.pos_of_ne_zero
  rintro rfl
  have lower := near.lower canonical
  have positive : (0 : ℚ) < 2 ^ (-1075 : Int) := zpow_pos two_pos _
  rw [Nat.cast_zero, zero_mul] at lower
  exact absurd lower (not_le.mpr positive)

end Resubmit.Binary64
