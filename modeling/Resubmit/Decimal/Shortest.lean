import Resubmit.Decimal.Binary64

namespace Resubmit.Decimal

/-!
# The shortest decimal that reads back

All reals between the midpoints to a double's two neighbours read back as that
double; the midpoints themselves do when the significand is even.  The shortest
decimal is found on the coarsest grid `10 ^ k` with a point in that interval.  Of
the value's two neighbours on that grid the nearer one is taken; an exact tie is
left to the caller.
-/

/-- Which of two equally near decimals is taken. -/
inductive Tie where
  | up
  | toEven
  deriving Repr, DecidableEq

/-- The decimal `digits * 10 ^ exponent`. -/
structure Scientific where
  digits : Nat
  exponent : Int
  deriving Repr, DecidableEq

namespace Magnitude

/-- One unit of the significand over one step of the grid, as a quotient. -/
def ratioToGrid (m : Magnitude) (grid : Int) : Nat × Nat :=
  let twos := m.exponent
  let numerator := Nat.pow 2 twos.toNat * Nat.pow 10 (-grid).toNat
  let denominator := Nat.pow 2 (-twos).toNat * Nat.pow 10 grid.toNat
  (numerator, denominator)

/-- Whether the grid point `c * 10 ^ grid` reads back as this magnitude. -/
def readsBack (m : Magnitude) (grid : Int) (c : Nat) : Bool :=
  let (numerator, denominator) := m.ratioToGrid grid
  let point := 4 * c * denominator
  let low := (4 * m.significand - if m.narrowBelow then 1 else 2) * numerator
  let high := (4 * m.significand + 2) * numerator
  if m.significand % 2 = 0 then
    low ≤ point && point ≤ high
  else
    low < point && point < high

/-- The nearest grid point that reads back, if the grid has one. -/
def nearestOnGrid? (tie : Tie) (m : Magnitude) (grid : Int) : Option Nat :=
  let (numerator, denominator) := m.ratioToGrid grid
  let value := m.significand * numerator
  let below := value / denominator
  let above := below + 1
  match m.readsBack grid below, m.readsBack grid above with
  | false, false => none
  | true, false => some below
  | false, true => some above
  | true, true =>
      let toBelow := value - below * denominator
      let toAbove := above * denominator - value
      if toBelow < toAbove then some below
      else if toAbove < toBelow then some above
      else match tie with
        | .up => some above
        | .toEven => if below % 2 = 0 then some below else some above

/-- Try ever finer grids, `tries` of them, from `10 ^ grid` on. -/
def searchGrids (tie : Tie) (m : Magnitude) : Nat → Int → Scientific
  | 0, grid => ⟨0, grid⟩
  | tries + 1, grid =>
      match m.nearestOnGrid? tie grid with
      | some digits => ⟨digits, grid⟩
      | none => searchGrids tie m tries (grid - 1)

/-- The shortest decimal that reads back; zero is `0 * 10 ^ 0`. -/
def shortest (tie : Tie) (m : Magnitude) : Scientific :=
  if m.significand = 0 then ⟨0, 0⟩ else m.searchGrids tie 634 309

end Magnitude

end Resubmit.Decimal
