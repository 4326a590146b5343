import Resubmit.Json

namespace Resubmit.Json

/-!
# JSON number literals

A literal without fraction and exponent is an integer if it fits into a word of
sixty-four bits, with or without sign; only `-0` is not.  Every other literal is the
floating-point number nearest to it; one beyond the greatest finite one is refused.
-/

/-- The value of a run of decimal digits. -/
def digitsValue (digits : List Char) : Nat :=
  digits.foldl (fun value digit => 10 * value + (digit.toNat - 48)) 0

/-- Digits that form an integer part: no leading zero but a lone one. -/
def isIntegerPart (digits : List Char) : Bool :=
  match digits with
  | [] => false
  | ['0'] => true
  | first :: _ => first != '0'

/--
The nearest floating-point number to `digits * 10 ^ exponent`.

There is none beyond the greatest finite one.
-/
def nearestFloat? (digits : Nat) (exponent : Int) : Option Float :=
  let places := (Nat.toDigits 10 digits).length + exponent
  if digits = 0 ∨ places < -400 then
    some 0.0
  else if 400 < places then
    none
  else
    let x := Float.ofScientific digits (exponent < 0) exponent.natAbs
    if x.isInf then none else some x

/-- An integer literal, which is a floating-point number when it is out of range. -/
def ofIntegerLiteral? (negative : Bool) (digits : Nat) : Option Json :=
  if negative then
    if digits = 0 then
      some (.float (-0.0))
    else if digits ≤ 0x8000000000000000 then
      some (.int (-(digits : Int)))
    else
      (nearestFloat? digits 0).map fun x => .float (-x)
  else if digits < 0x10000000000000000 then
    some (.int digits)
  else
    (nearestFloat? digits 0).map .float

/-- The exponent after its letter: an optional sign and at least one digit. -/
def exponentValue? (cs : List Char) : Option Int :=
  let (negative, digits) : Bool × List Char :=
    match cs with
    | '-' :: rest => (true, rest)
    | '+' :: rest => (false, rest)
    | _ => (false, cs)
  if digits.isEmpty || !digits.all Char.isDigit then
    none
  else
    some (if negative then -(digitsValue digits : Int) else digitsValue digits)

/-- A number literal. -/
def ofNumberLiteral? (cs : List Char) : Option Json :=
  let (negative, body) : Bool × List Char :=
    match cs with
    | '-' :: rest => (true, rest)
    | _ => (false, cs)
  let whole := body.takeWhile Char.isDigit
  let afterWhole := body.dropWhile Char.isDigit
  if !isIntegerPart whole then
    none
  else if afterWhole.isEmpty then
    ofIntegerLiteral? negative (digitsValue whole)
  else
    let (fraction, afterFraction) : Option (List Char) × List Char :=
      match afterWhole with
      | '.' :: rest => (some (rest.takeWhile Char.isDigit), rest.dropWhile Char.isDigit)
      | _ => (none, afterWhole)
    let exponent : Option Int :=
      match afterFraction with
      | [] => some 0
      | mark :: rest => if mark = 'e' ∨ mark = 'E' then exponentValue? rest else none
    match fraction, exponent with
    | some [], _ => none
    | _, none => none
    | _, some shift =>
        let places := fraction.getD []
        let digits := digitsValue (whole ++ places)
        (nearestFloat? digits (shift - places.length)).map fun x =>
          .float (if negative then -x else x)

end Resubmit.Json
