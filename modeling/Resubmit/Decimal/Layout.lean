import Resubmit.Decimal.Shortest

namespace Resubmit.Decimal

/-!
# Written floating-point numbers

A layout says how the digits of a number are set: for which decimal exponents the
number is written without an exponent, what marks a whole number, how an exponent
is signed, and which words stand for the values that are not finite.
-/

/-- The decisions of one written form of floating-point numbers. -/
structure Layout where
  /-- The least and the greatest decimal exponent written positionally; absent if all are. -/
  positional : Option (Int × Int)
  /-- What follows a positional number without a fraction. -/
  wholeMark : String
  /-- What stands before an exponent that is not negative. -/
  exponentPlus : String
  tie : Tie
  notANumber : String
  infinity : String
  negativeInfinity : String

namespace Layout

/-- The form for messages: never an exponent, no mark on whole numbers. -/
def display : Layout where
  positional := none
  wholeMark := ""
  exponentPlus := ""
  tie := .up
  notANumber := "NaN"
  infinity := "inf"
  negativeInfinity := "-inf"

/-- The form for inspection: exponents outside `1e-4` to `1e16`. -/
def inspection : Layout where
  positional := some (-4, 15)
  wholeMark := ".0"
  exponentPlus := ""
  tie := .up
  notANumber := "NaN"
  infinity := "inf"
  negativeInfinity := "-inf"

/-- The form in JSON texts, where a value that is not finite is null. -/
def json : Layout where
  positional := some (-5, 15)
  wholeMark := ".0"
  exponentPlus := "+"
  tie := .toEven
  notANumber := "null"
  infinity := "null"
  negativeInfinity := "null"

/-- Digits with the point after the first `places`, which may lie outside. -/
def positionalText (layout : Layout) (digits : List Char) (places : Int) : String :=
  let zeros (n : Nat) : List Char := List.replicate n '0'
  if places ≤ 0 then
    String.ofList ('0' :: '.' :: zeros (-places).toNat ++ digits)
  else if digits.length ≤ places then
    String.ofList (digits ++ zeros (places.toNat - digits.length)) ++ layout.wholeMark
  else
    String.ofList (digits.take places.toNat ++ '.' :: digits.drop places.toNat)

/-- One digit, the other digits as a fraction if there are any, an exponent. -/
def exponentText (layout : Layout) (digits : List Char) (exponent : Int) : String :=
  let fraction := digits.drop 1
  let sign := if exponent < 0 then "-" else layout.exponentPlus
  String.ofList (digits.take 1 ++ if fraction.isEmpty then [] else '.' :: fraction)
    ++ "e" ++ sign ++ toString exponent.natAbs

def magnitudeText (layout : Layout) (m : Magnitude) : String :=
  let shortest := m.shortest layout.tie
  let digits := Nat.toDigits 10 shortest.digits
  let places := (digits.length : Int) + shortest.exponent
  let exponent := places - 1
  match layout.positional with
  | none => layout.positionalText digits places
  | some (least, greatest) =>
      if m.significand = 0 ∨ (least ≤ exponent ∧ exponent ≤ greatest) then
        layout.positionalText digits places
      else
        layout.exponentText digits exponent

/-- The written form of a floating-point number. -/
def write (layout : Layout) (x : Float) : String :=
  match Binary64.ofFloat x with
  | .notANumber => layout.notANumber
  | .infinite negative => if negative then layout.negativeInfinity else layout.infinity
  | .finite negative m => (if negative then "-" else "") ++ layout.magnitudeText m

end Layout

end Resubmit.Decimal
