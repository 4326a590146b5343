namespace Resubmit.Decimal

/-!
# Double-precision numbers as exact values

A finite double is a sign and a magnitude `significand * 2 ^ exponent`.  The
magnitude also says whether the next smaller double is only half as far away as
the next larger one, which is so at the powers of two.
-/

/-- An exact binary magnitude together with the shape of its neighbourhood. -/
structure Magnitude where
  significand : Nat
  exponent : Int
  narrowBelow : Bool
  deriving Repr, DecidableEq

/-- What a pattern of sixty-four bits stands for. -/
inductive Binary64 where
  | notANumber
  | infinite (negative : Bool)
  | finite (negative : Bool) (magnitude : Magnitude)
  deriving Repr, DecidableEq

namespace Binary64

/-- The weight of the leading bit of a normal significand, which is not stored. -/
def hiddenBit : Nat := 0x10000000000000

/-- Read a bit pattern: one sign bit, eleven exponent bits, the fraction. -/
def ofBits (bits : UInt64) : Binary64 :=
  let word := bits.toNat
  let negative := 0x8000000000000000 ≤ word
  let field : Nat := word / hiddenBit % 0x800
  let fraction : Nat := word % hiddenBit
  if field = 2047 then
    if fraction = 0 then .infinite negative else .notANumber
  else if field = 0 then
    .finite negative {
      significand := fraction
      exponent := -1074
      narrowBelow := false
    }
  else
    .finite negative {
      significand := hiddenBit + fraction
      exponent := (field : Int) - 1075
      narrowBelow := fraction = 0 ∧ 1 < field
    }

/-- Read a floating-point number. -/
def ofFloat (x : Float) : Binary64 :=
  ofBits x.toBits

end Binary64

end Resubmit.Decimal
