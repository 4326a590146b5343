import Resubmit.Json.Number

namespace Resubmit.Json

/-!
# What number literals denote

A literal is a sign, digits, perhaps a fraction, and perhaps an exponent.  From these parts its
value is known.
-/

/-! ## Digits -/

theorem digitsValue_eq (digits : List Char) :
    digitsValue digits = Nat.ofDigitChars 10 digits 0 :=
  rfl

@[simp] theorem digitsValue_toDigits (n : Nat) : digitsValue (Nat.toDigits 10 n) = n := by
  rw [digitsValue_eq, Nat.ofDigitChars_ten_toDigits]

theorem isDigit_of_mem_toDigits {n : Nat} {c : Char} (member : c ∈ Nat.toDigits 10 n) :
    c.isDigit = true :=
  Nat.isDigit_of_mem_toDigits (by decide) (by decide) member

/-- No number but zero is written with a leading zero. -/
theorem exists_toDigits {n : Nat} (positive : 0 < n) :
    ∃ first rest, Nat.toDigits 10 n = first :: rest ∧ first ≠ '0' := by
  induction n using Nat.base_induction 10 (by decide) with
  | single n small =>
      refine ⟨_, _, Nat.toDigits_of_lt_base small, ?_⟩
      rw [Ne, Nat.digitChar_eq_zero]
      exact Nat.ne_of_gt positive
  | digit n last small some inductionHypothesis =>
      obtain ⟨first, rest, digits, notZero⟩ := inductionHypothesis some
      refine ⟨first, rest ++ Nat.toDigits 10 last, ?_, notZero⟩
      rw [← Nat.toDigits_append_toDigits (by decide) some small, digits, List.cons_append]

theorem isIntegerPart_cons {first : Char} (rest : List Char) (notZero : first ≠ '0') :
    isIntegerPart (first :: rest) = true := by
  rw [isIntegerPart.eq_def]
  split
  · rename_i nothing
    cases nothing
  · rfl
  · rename_i same
    cases same
    simpa using notZero

theorem isIntegerPart_toDigits (n : Nat) : isIntegerPart (Nat.toDigits 10 n) = true := by
  rcases Nat.eq_zero_or_pos n with rfl | positive
  · decide
  · obtain ⟨first, rest, digits, notZero⟩ := exists_toDigits positive
    rw [digits]
    exact isIntegerPart_cons rest notZero

/-! ## The parts of a literal -/

/-- The characters of a sign. -/
def signChars (negative : Bool) : List Char :=
  if negative then ['-'] else []

/-- The characters of a fraction with these places. -/
def fractionChars : Option (List Char) → List Char
  | none => []
  | some places => '.' :: places

/-- The characters of an exponent, with its sign. -/
def exponentChars : Option Int → List Char
  | none => []
  | some exponent =>
      'e' :: (if exponent < 0 then '-' else '+') :: Nat.toDigits 10 exponent.natAbs

/-- Whether a character may stand in a number literal. -/
def isNumeric (c : Char) : Bool :=
  c.isDigit || c = '-' || c = '+' || c = '.' || c = 'e'

theorem isNumeric_of_isDigit {c : Char} (digit : c.isDigit = true) : isNumeric c = true := by
  rw [isNumeric, digit]
  rfl

theorem isNumeric_of_mem_signChars
    {negative : Bool}
    {c : Char}
    (member : c ∈ signChars negative) :
    isNumeric c = true := by
  cases negative with
  | false => cases member
  | true =>
      cases List.mem_singleton.mp member
      rfl

theorem isNumeric_of_mem_fractionChars
    {places? : Option (List Char)}
    {c : Char}
    (digits : ∀ places ∈ places?, ∀ c ∈ places, c.isDigit = true)
    (member : c ∈ fractionChars places?) :
    isNumeric c = true := by
  cases places? with
  | none => cases member
  | some places =>
      rcases List.mem_cons.mp member with rfl | place
      · rfl
      · exact isNumeric_of_isDigit (digits places rfl c place)

theorem isNumeric_of_mem_exponentChars
    {exponent? : Option Int}
    {c : Char}
    (member : c ∈ exponentChars exponent?) :
    isNumeric c = true := by
  cases exponent? with
  | none => cases member
  | some exponent =>
      rcases List.mem_cons.mp member with rfl | member
      · rfl
      · rcases List.mem_cons.mp member with rfl | digit
        · split <;> rfl
        · exact isNumeric_of_isDigit (isDigit_of_mem_toDigits digit)

theorem takeWhile_digits
    {digits rest : List Char}
    (all : ∀ c ∈ digits, c.isDigit = true)
    (stop : ∀ c ∈ rest.head?, c.isDigit = false) :
    (digits ++ rest).takeWhile Char.isDigit = digits ∧
      (digits ++ rest).dropWhile Char.isDigit = rest := by
  rw [List.takeWhile_append_of_pos all, List.dropWhile_append_of_pos all]
  cases rest with
  | nil => exact ⟨List.append_nil digits, rfl⟩
  | cons first others =>
      have stops := stop first rfl
      simp [stops]

theorem exponentValue?_digits (exponent : Int) :
    exponentValue?
        ((if exponent < 0 then '-' else '+') :: Nat.toDigits 10 exponent.natAbs) =
      some exponent := by
  have all : (Nat.toDigits 10 exponent.natAbs).all Char.isDigit = true :=
    List.all_eq_true.mpr fun c => isDigit_of_mem_toDigits
  have nonempty : (Nat.toDigits 10 exponent.natAbs).isEmpty = false :=
    List.isEmpty_eq_false_iff.mpr Nat.toDigits_ne_nil
  by_cases negative : exponent < 0
  · have value : -(exponent.natAbs : Int) = exponent := by omega
    simp only [negative, ↓reduceIte, exponentValue?, all, nonempty, digitsValue_toDigits, value]
    rfl
  · have value : (exponent.natAbs : Int) = exponent := by omega
    simp only [negative, ↓reduceIte, exponentValue?, all, nonempty, digitsValue_toDigits, value]
    rfl

/-- What begins with a digit does not begin with a sign. -/
theorem ne_minus_of_isIntegerPart
    {body : List Char}
    (part : isIntegerPart (body.takeWhile Char.isDigit) = true)
    (rest : List Char) :
    body ≠ '-' :: rest := by
  rintro rfl
  cases part

/-- A literal of digits alone is an integer. -/
theorem ofNumberLiteral?_integer
    (negative : Bool)
    {whole : List Char}
    (digits : ∀ c ∈ whole, c.isDigit = true)
    (part : isIntegerPart whole = true) :
    ofNumberLiteral? (signChars negative ++ whole) =
      ofIntegerLiteral? negative (digitsValue whole) := by
  have ⟨taken, dropped⟩ := @takeWhile_digits whole [] digits nofun
  rw [List.append_nil] at taken dropped
  have unsigned : ∀ rest, whole ≠ '-' :: rest := ne_minus_of_isIntegerPart (by rwa [taken])
  cases negative <;> simp [signChars, ofNumberLiteral?, taken, dropped, part]

/-- A literal with a fraction or an exponent is the number nearest to it. -/
theorem ofNumberLiteral?_fraction
    (negative : Bool)
    {whole : List Char}
    {places? : Option (List Char)}
    {exponent? : Option Int}
    (digits : ∀ c ∈ whole, c.isDigit = true)
    (part : isIntegerPart whole = true)
    (more : places?.isSome ∨ exponent?.isSome)
    (places : ∀ places ∈ places?, places ≠ [] ∧ ∀ c ∈ places, c.isDigit = true) :
    ofNumberLiteral?
        (signChars negative ++ (whole ++ (fractionChars places? ++ exponentChars exponent?))) =
      (nearestFloat? (digitsValue (whole ++ places?.getD []))
        (exponent?.getD 0 - (places?.getD []).length)).map fun x =>
          .float (if negative then -x else x) := by
  have mark : ∀ c ∈ (exponentChars exponent?).head?, c.isDigit = false := by
    cases exponent? <;> simp [exponentChars]
  have point : ∀ c ∈ (fractionChars places? ++ exponentChars exponent?).head?,
      c.isDigit = false := by
    cases places? with
    | none => exact mark
    | some places => simp [fractionChars]
  have ⟨taken, dropped⟩ := takeWhile_digits digits point
  have unsigned := ne_minus_of_isIntegerPart (by rwa [taken])
  generalize whole ++ (fractionChars places? ++ exponentChars exponent?) = body
    at taken dropped unsigned
  cases places? with
  | none =>
      cases exponent? with
      | none => simp at more
      | some exponent =>
          change _ = 'e' :: _ at dropped
          cases negative <;>
            simp [signChars, ofNumberLiteral?, taken, dropped, part, exponentValue?_digits]
  | some places =>
      obtain ⟨nonempty, digits⟩ := places _ rfl
      obtain ⟨first, others, rfl⟩ := List.exists_cons_of_ne_nil nonempty
      change _ = '.' :: ((first :: others) ++ exponentChars exponent?) at dropped
      have ⟨takenPlaces, droppedPlaces⟩ := takeWhile_digits digits mark
      generalize (first :: others) ++ exponentChars exponent? = rest
        at dropped takenPlaces droppedPlaces
      cases exponent? with
      | none =>
          rw [exponentChars] at droppedPlaces
          cases negative <;>
            simp [signChars, ofNumberLiteral?, taken, dropped, part, takenPlaces, droppedPlaces]
      | some exponent =>
          change _ = 'e' :: _ at droppedPlaces
          cases negative <;>
            simp [signChars, ofNumberLiteral?, taken, dropped, part, takenPlaces, droppedPlaces,
              exponentValue?_digits]

/-- A literal with the value that it denotes. -/
structure Denotes (cs : List Char) (value : Json) : Prop where
  numeric : ∀ c ∈ cs, isNumeric c = true
  value : ofNumberLiteral? cs = some value

/-! ## Integers -/

/-- The characters of an integer. -/
theorem toList_toString_int (value : Int) :
    (toString value).toList =
      signChars (decide (value < 0)) ++ Nat.toDigits 10 value.natAbs := by
  rw [Int.toString_eq_repr]
  cases value with
  | ofNat n =>
      have natural : ¬ Int.ofNat n < 0 := Int.not_lt.mpr (Int.natCast_nonneg n)
      simp only [Int.repr, Nat.toList_repr, natural, signChars]
      rfl
  | negSucc n =>
      simp only [Int.repr, String.toList_append, Nat.toList_repr, Int.negSucc_lt_zero, signChars]
      rfl

/-- An integer of sixty-four bits, with or without sign, reads back. -/
theorem denotes_toString_int
    {value : Int}
    (least : -0x8000000000000000 ≤ value)
    (most : value < 0x10000000000000000) :
    Denotes (toString value).toList (.int value) := by
  rw [toList_toString_int]
  constructor
  · intro c member
    rcases List.mem_append.mp member with sign | digit
    · exact isNumeric_of_mem_signChars sign
    · exact isNumeric_of_isDigit (isDigit_of_mem_toDigits digit)
  · rw [ofNumberLiteral?_integer _ (fun c => isDigit_of_mem_toDigits) (isIntegerPart_toDigits _),
      digitsValue_toDigits]
    by_cases negative : value < 0
    · have notZero : value.natAbs ≠ 0 := by omega
      have within : value.natAbs ≤ 0x8000000000000000 := by omega
      simp only [ofIntegerLiteral?, negative, decide_true, ↓reduceIte, notZero, within]
      exact congrArg (some ∘ Json.int) (by omega)
    · have within : value.natAbs < 0x10000000000000000 := by omega
      simp only [ofIntegerLiteral?, negative, decide_false, Bool.false_eq_true, ↓reduceIte,
        within]
      exact congrArg (some ∘ Json.int) (by omega)

end Resubmit.Json
