import Resubmit.Json.Write
import Resubmit.Proofs.Literals
import Resubmit.Proofs.Shortest

namespace Resubmit.Json

/-!
# Written numbers read back

However the point is set and whether or not there is an exponent, what is written of a double has
the value of its shortest decimal, and is read as the double.
-/

open Decimal Layout Nat

/-! ## The digits of a written number -/

theorem digitsValue_zeros_append
    (zeros : Nat)
    (digits : List Char) :
    digitsValue (List.replicate zeros '0' ++ digits) = digitsValue digits := by
  rw [digitsValue_eq, ofDigitChars_append, ofDigitChars_replicate_zero, Nat.mul_zero]
  rfl

theorem digitsValue_append_zeros
    (digits : List Char)
    (zeros : Nat) :
    digitsValue (digits ++ List.replicate zeros '0') = digitsValue digits * 10 ^ zeros := by
  rw [digitsValue_eq, ofDigitChars_append, ofDigitChars_replicate_zero, Nat.mul_comm]
  rfl

theorem isDigit_of_mem_replicate
    {zeros : Nat}
    {c : Char}
    (member : c ∈ List.replicate zeros '0') :
    c.isDigit = true := by
  rw [List.eq_of_mem_replicate member]
  rfl

section

variable {number : ℚ}
variable {y : Float}
variable {c : Nat}
variable {grid : Int}

/-- All decimals of this value are read as the double. -/
def ReadAs (number : ℚ) (y : Float) : Prop :=
  ∀ (digits : Nat) (exponent : Int),
    (digits * 10 ^ exponent : ℚ) = number → nearestFloat? digits exponent = some y

/-- The parts of a literal denote the double as which their value is read. -/
theorem denotes_parts
    (negative : Bool)
    (whole : List Char)
    (places? : Option (List Char))
    (exponent? : Option Int)
    (digits : ∀ c ∈ whole, c.isDigit = true)
    (part : isIntegerPart whole = true)
    (more : places?.isSome ∨ exponent?.isSome)
    (places : ∀ places ∈ places?, places ≠ [] ∧ ∀ c ∈ places, c.isDigit = true)
    (reads : ReadAs number y)
    (value : (digitsValue (whole ++ places?.getD []) *
      10 ^ (exponent?.getD 0 - (places?.getD []).length) : ℚ) = number) :
    Denotes (signChars negative ++ (whole ++ (fractionChars places? ++ exponentChars exponent?)))
      (.float (if negative then -y else y)) where
  numeric := by
    intro c member
    simp only [List.mem_append] at member
    rcases member with sign | whole | fraction | exponent
    · exact isNumeric_of_mem_signChars sign
    · exact isNumeric_of_isDigit (digits c whole)
    · exact isNumeric_of_mem_fractionChars (fun fraction same => (places fraction same).2) fraction
    · exact isNumeric_of_mem_exponentChars exponent
  value := by
    rw [ofNumberLiteral?_fraction negative digits part more places, reads _ _ value]
    rfl

/-- Digits, a point and digits. -/
theorem denotes_point
    (negative : Bool)
    (whole places : List Char)
    (digits : ∀ c ∈ whole ++ places, c.isDigit = true)
    (part : isIntegerPart whole = true)
    (some : places ≠ [])
    (reads : ReadAs number y)
    (value : (digitsValue (whole ++ places) * 10 ^ (-(places.length : Int)) : ℚ) = number) :
    Denotes (signChars negative ++ (whole ++ '.' :: places))
      (.float (if negative then -y else y)) := by
  have parts := denotes_parts negative whole (Option.some places) none
    (fun c member => digits c (List.mem_append_left _ member)) part (.inl rfl)
    (by
      rintro _ ⟨⟩
      exact ⟨some, fun c member => digits c (List.mem_append_right _ member)⟩)
    reads (by simpa using value)
  simpa [fractionChars, exponentChars] using parts

/-- A number below one: zeros stand between the point and the digits. -/
theorem denotes_zeros_digits
    (negative : Bool)
    {zeros : Nat}
    (place : grid = -((zeros + (toDigits 10 c).length : Nat) : Int))
    (reads : ReadAs (c * 10 ^ grid) y) :
    Denotes
      (signChars negative ++ ('0' :: '.' :: List.replicate zeros '0' ++ toDigits 10 c))
      (.float (if negative then -y else y)) := by
  refine denotes_point negative ['0'] (List.replicate zeros '0' ++ toDigits 10 c) ?_ rfl ?_
    reads ?_
  · intro c member
    rcases List.mem_append.mp member with zero | member
    · cases List.mem_singleton.mp zero
      rfl
    · rcases List.mem_append.mp member with zero | digit
      · exact isDigit_of_mem_replicate zero
      · exact isDigit_of_mem_toDigits digit
  · exact List.append_ne_nil_of_right_ne_nil _ toDigits_ne_nil
  · have value := digitsValue_zeros_append (zeros + 1) (toDigits 10 c)
    rw [digitsValue_toDigits] at value
    rw [List.length_append, List.length_replicate, ← place]
    exact congrArg (fun value : Nat => (value * 10 ^ grid : ℚ)) value

/-- A whole number: zeros stand between the digits and the point. -/
theorem denotes_digits_zeros
    (negative : Bool)
    {zeros : Nat}
    (place : grid = zeros)
    (integral : 0 < c ∨ zeros = 0)
    (reads : ReadAs (c * 10 ^ grid) y) :
    Denotes
      (signChars negative ++ (toDigits 10 c ++ List.replicate zeros '0' ++ ['.', '0']))
      (.float (if negative then -y else y)) := by
  refine denotes_point negative (toDigits 10 c ++ List.replicate zeros '0') ['0'] ?_ ?_
    (List.cons_ne_nil _ _) reads ?_
  · intro c member
    rcases List.mem_append.mp member with member | zero
    · rcases List.mem_append.mp member with digit | zero
      · exact isDigit_of_mem_toDigits digit
      · exact isDigit_of_mem_replicate zero
    · cases List.mem_singleton.mp zero
      rfl
  · rcases integral with positive | none
    · obtain ⟨first, rest, digits, notZero⟩ := exists_toDigits positive
      rw [digits]
      exact isIntegerPart_cons _ notZero
    · rw [none, List.replicate_zero, List.append_nil]
      exact isIntegerPart_toDigits c
  · have value := digitsValue_append_zeros (toDigits 10 c) (zeros + 1)
    rw [digitsValue_toDigits] at value
    rw [List.append_assoc, ← List.replicate_succ', value, place, List.length_singleton,
      Nat.cast_one, zpow_neg_one, zpow_natCast]
    push_cast
    rw [pow_succ]
    field_simp

/-- A number with digits on both sides of the point. -/
theorem denotes_digits_digits
    (negative : Bool)
    {taken : Nat}
    (some : 0 < taken)
    (less : taken < (toDigits 10 c).length)
    (positive : 0 < c)
    (place : grid = taken - (toDigits 10 c).length)
    (reads : ReadAs (c * 10 ^ grid) y) :
    Denotes
      (signChars negative ++ ((toDigits 10 c).take taken ++ '.' :: (toDigits 10 c).drop taken))
      (.float (if negative then -y else y)) := by
  refine denotes_point negative ((toDigits 10 c).take taken) ((toDigits 10 c).drop taken)
    ?_ ?_ ?_ reads ?_
  · rw [List.take_append_drop]
    exact fun c member => isDigit_of_mem_toDigits member
  · obtain ⟨first, rest, digits, notZero⟩ := exists_toDigits positive
    obtain ⟨more, rfl⟩ := Nat.exists_eq_succ_of_ne_zero (Nat.ne_of_gt some)
    rw [digits]
    exact isIntegerPart_cons _ notZero
  · exact List.ne_nil_of_length_pos (by rw [List.length_drop]; omega)
  · rw [List.take_append_drop, digitsValue_toDigits, List.length_drop, place]
    congr 2
    omega

/-- A number that is set without an exponent. -/
theorem denotes_positionalText
    (negative : Bool)
    (integral : 0 < c ∨ grid = 0)
    (reads : ReadAs (c * 10 ^ grid) y) :
    Denotes
      (signChars negative ++
        (Layout.json.positionalText (toDigits 10 c) ((toDigits 10 c).length + grid)).toList)
      (.float (if negative then -y else y)) := by
  have length : 0 < (toDigits 10 c).length := length_toDigits_pos
  unfold Layout.positionalText
  dsimp only
  split
  · rw [String.toList_ofList]
    exact denotes_zeros_digits negative (by omega) reads
  · split
    · rw [String.toList_append, String.toList_ofList]
      exact denotes_digits_zeros negative (by omega) (integral.imp_right (by omega)) reads
    · rw [String.toList_ofList]
      exact denotes_digits_digits negative (by omega) (by omega) (by omega) (by omega) reads

/-- The places after the point, if there are any. -/
def placesOf (rest : List Char) : Option (List Char) :=
  if rest.isEmpty then none else some rest

theorem toList_exponentText
    (first : Char)
    (rest : List Char)
    (exponent : Int) :
    (Layout.json.exponentText (first :: rest) exponent).toList =
      [first] ++ (fractionChars (placesOf rest) ++ exponentChars (some exponent)) := by
  have sign : (if exponent < 0 then "-" else Layout.json.exponentPlus).toList =
      [if exponent < 0 then '-' else '+'] := by
    split <;> rfl
  have number : (toString exponent.natAbs).toList = toDigits 10 exponent.natAbs :=
    Nat.toList_repr
  unfold Layout.exponentText
  simp only [String.toList_append, String.toList_ofList, sign, number, exponentChars, placesOf]
  cases rest with
  | nil => rfl
  | cons => simp [fractionChars]

/-- A number that is set with an exponent. -/
theorem denotes_exponentText
    (negative : Bool)
    (reads : ReadAs (c * 10 ^ grid) y) :
    Denotes
      (signChars negative ++
        (Layout.json.exponentText (toDigits 10 c) ((toDigits 10 c).length + grid - 1)).toList)
      (.float (if negative then -y else y)) := by
  have all : ∀ digit ∈ toDigits 10 c, digit.isDigit = true := fun _ => isDigit_of_mem_toDigits
  have value := digitsValue_toDigits c
  have nonempty : toDigits 10 c ≠ [] := toDigits_ne_nil
  generalize toDigits 10 c = digits at all value nonempty ⊢
  cases digits with
  | nil => exact (nonempty rfl).elim
  | cons first rest =>
      have ⟨digit, others⟩ := List.forall_mem_cons.mp all
      rw [toList_exponentText]
      refine denotes_parts negative [first] (placesOf rest) _ ?_ ?_ (.inr rfl) ?_ reads ?_
      · simpa using digit
      · by_cases zero : first = '0'
        · rw [zero]
          rfl
        · exact isIntegerPart_cons [] zero
      · cases rest with
        | nil => nofun
        | cons second more =>
            rintro _ ⟨⟩
            exact ⟨List.cons_ne_nil _ _, others⟩
      · have places : (placesOf rest).getD [] = rest := by
          cases rest <;> rfl
        have place : ((first :: rest).length : Int) + grid - 1 - rest.length = grid := by
          rw [List.length_cons]
          omega
        rw [places, List.singleton_append, value, Option.getD_some, place]

theorem readAs_of_near
    {m : Magnitude}
    (canonical : Binary64.Canonical m)
    (near : Binary64.Near m number) :
    ReadAs number (.ofModel (.pack
      (.finite .positive m.significand m.exponent canonical.pos))) := by
  rintro digits exponent rfl
  exact Binary64.nearestFloat?_of_near canonical (Binary64.pos_of_near canonical near) near

theorem readAs_zero : ReadAs 0 0.0 := by
  intro digits exponent zero
  have none : (digits : ℚ) = 0 :=
    (mul_eq_zero.mp zero).resolve_right (zpow_ne_zero _ (by norm_num))
  rw [nearestFloat?, if_pos (.inl (by exact_mod_cast none))]

/-- However it is set, a magnitude is read as the double of its shortest decimal. -/
theorem denotes_magnitudeText
    (negative : Bool)
    {m : Magnitude}
    (integral : 0 < (m.shortest .toEven).digits ∨ (m.shortest .toEven).exponent = 0)
    (reads :
      ReadAs ((m.shortest .toEven).digits * 10 ^ (m.shortest .toEven).exponent) y) :
    Denotes (signChars negative ++ (Layout.json.magnitudeText m).toList)
      (.float (if negative then -y else y)) := by
  unfold Layout.magnitudeText
  dsimp only [Layout.json]
  split
  · exact denotes_positionalText negative integral reads
  · exact denotes_exponentText negative reads

end

theorem eq_signed
    {x : Float}
    {m : Magnitude}
    {negative : Bool}
    (canonical : Binary64.Canonical m)
    (model : x.toModel =
      .pack (.finite (Binary64.signOf negative) m.significand m.exponent canonical.pos)) :
    let y : Float := .ofModel (.pack (.finite .positive m.significand m.exponent canonical.pos))
    (if negative then -y else y) = x := by
  obtain ⟨number⟩ := x
  subst model
  cases negative with
  | false => rfl
  | true =>
      have unpacked := Binary64.unpack_pack canonical false
      change Float.ofModel (.pack (Float.Model.unpack (.pack
        (.finite (Binary64.signOf false) m.significand m.exponent canonical.pos))).neg) = _
      rw [unpacked]
      rfl

theorem eq_signed_zero
    {x : Float}
    {negative : Bool}
    (model : x.toModel = .pack (.zero (Binary64.signOf negative))) :
    (if negative then -0.0 else 0.0) = x := by
  obtain ⟨number⟩ := x
  subst model
  have positive : (0.0 : Float).toBits.toNat = 0 := by decide +kernel
  have negated : (-0.0 : Float).toBits.toNat = 2 ^ 63 := by decide +kernel
  cases negative with
  | false => exact congrArg Float.ofModel (Binary64.eq_of_toNat positive)
  | true => exact congrArg Float.ofModel (Binary64.eq_of_toNat negated)

theorem toList_write
    {x : Float}
    {negative : Bool}
    {m : Magnitude}
    (same : Decimal.Binary64.ofFloat x = .finite negative m) :
    (Layout.json.write x).toList =
      signChars negative ++ (Layout.json.magnitudeText m).toList := by
  unfold Layout.write
  rw [same]
  simp only [String.toList_append]
  cases negative <;> rfl

/-- A finite number reads back. -/
theorem denotes_write {x : Float} (finite : x.isFinite = true) :
    Denotes (Decimal.Layout.json.write x).toList (.float x) := by
  obtain ⟨negative, m, same, ⟨rfl, model⟩ | ⟨canonical, model⟩⟩ := Binary64.ofFloat_cases finite
  · rw [toList_write same, ← eq_signed_zero model]
    refine denotes_magnitudeText negative (.inr rfl) ?_
    have zero : ((Binary64.zeroMagnitude.shortest .toEven).digits *
        10 ^ (Binary64.zeroMagnitude.shortest .toEven).exponent : ℚ) = 0 := by
      have none : (Binary64.zeroMagnitude.shortest .toEven).digits = 0 := rfl
      rw [none, Nat.cast_zero, zero_mul]
    rw [zero]
    exact readAs_zero
  · rw [toList_write same, ← eq_signed canonical model]
    have near := Binary64.near_shortest canonical .toEven
    exact denotes_magnitudeText negative (.inl (Binary64.pos_of_near canonical near))
      (readAs_of_near canonical near)

end Resubmit.Json
