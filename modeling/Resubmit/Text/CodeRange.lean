namespace Resubmit.Text

/-!
# Ranges of characters

A class of characters is a list of the ranges of codes it is made of.
-/

/-- The characters whose codes are at least the first and at most the last. -/
structure CodeRange where
  first : Nat
  last : Nat
  deriving Repr, DecidableEq

/-- Whether a character is in a range. -/
def CodeRange.holds (range : CodeRange) (c : Char) : Bool :=
  decide (range.first ≤ c.toNat ∧ c.toNat ≤ range.last)

/-- Whether a character is in one of the ranges of a class. -/
def isOneOf (ranges : List CodeRange) (c : Char) : Bool :=
  ranges.any fun range => range.holds c

end Resubmit.Text
