import Resubmit.Policy.Encoding
import Resubmit.Proofs.Backoff
import Resubmit.Proofs.Reading

namespace Resubmit

/-!
# However a policy is spelled, it is read as itself

Writing and reading are two descriptions of one form.  What is written is one spelling of a
policy.  The members of an object may come in any order, members of other names may stand among
them, and the values alone make up an array; what happens on exhaustion may be left out where it
is what is supposed in its absence.  All these spellings are read as the same policy.
-/

open Float.Model in
theorem Binary64.beq_self {number : Float} (finite : number.isFinite = true) :
    (number == number) = true := by
  change number.toModel.unpack.isFinite = true at finite
  change (number.toModel.unpack.compare number.toModel.unpack == some .eq) = true
  cases unpacked : number.toModel.unpack with
  | notANumber | infinity =>
      rw [unpacked] at finite
      cases finite
  | zero => rfl
  | finite sign mantissa exponent pos =>
      have same : (compare exponent exponent).then (compare mantissa mantissa) = .eq := by
        rw [Std.compare_self, Std.compare_self]
        rfl
      cases sign with
      | positive => exact beq_iff_eq.mpr (congrArg some same)
      | negative => exact beq_iff_eq.mpr (congrArg (some ∘ Ordering.swap) same)

/-! ## Scalars -/

theorem decodeWord32_encoded (word : UInt32) : decodeWord32 (.int word.toNat) = .ok word := by
  have within : (0 : Int) ≤ word.toNat ∧ (word.toNat : Int) < 0x100000000 := by
    have := word.toNat_lt
    omega
  rw [decodeWord32, if_pos within, Int.toNat_natCast, UInt32.ofNat_toNat]

theorem decodeWord64_encoded (word : UInt64) : decodeWord64 (.int word.toNat) = .ok word := by
  have within : (0 : Int) ≤ word.toNat ∧ (word.toNat : Int) < 0x10000000000000000 := by
    have := word.toNat_lt
    omega
  rw [decodeWord64, if_pos within, Int.toNat_natCast, UInt64.ofNat_toNat]

theorem legible_word32 (word : UInt32) : Json.Legible (.int word.toNat) := by
  have := word.toNat_lt
  exact ⟨by omega, by omega⟩

theorem legible_word64 (word : UInt64) : Json.Legible (.int word.toNat) := by
  have := word.toNat_lt
  exact ⟨by omega, by omega⟩

theorem Exhaustion.decode_name (choice : Exhaustion) :
    Exhaustion.decode (.text choice.name) = .ok choice := by
  rw [decode, decodeName, ofName?_name]

/-! ## Durations -/

namespace Duration

/-- The object of a duration, with its members in the other order. -/
def encodeInOrder (d : Duration) : Json :=
  .object [("nanos", .int d.nanos.toNat), ("secs", .int d.secs.toNat)]

theorem assemble_parts (d : Duration) : assemble d.secs d.nanos = .ok d := by
  rw [assemble, ofParts?_of_lt d.secs d.nanos_lt]

theorem decode_encode (d : Duration) : decode d.encode = .ok d := by
  simp only [encode, decode, DurationFields.accept, List.foldlM_cons, decodeWord64_encoded,
    decodeWord32_encoded]
  exact assemble_parts d

theorem decode_encodeInOrder (d : Duration) : decode d.encodeInOrder = .ok d := by
  simp only [encodeInOrder, decode, DurationFields.accept, List.foldlM_cons, decodeWord64_encoded,
    decodeWord32_encoded]
  exact assemble_parts d

/-- A value that spells a duration: its object with the members in either order. -/
def Spelled (d : Duration) (value : Json) : Prop :=
  value = d.encode ∨ value = d.encodeInOrder

namespace Spelled

variable {d : Duration}
variable {value : Json}

theorem decode_eq (spelled : d.Spelled value) : decode value = .ok d := by
  rcases spelled with rfl | rfl
  · exact decode_encode d
  · exact decode_encodeInOrder d

theorem inOrder (spelled : d.Spelled value) : d.Spelled value.inOrder := by
  rcases spelled with rfl | rfl
  · exact .inr rfl
  · exact .inr rfl

theorem legible (spelled : d.Spelled value) : value.Legible := by
  rcases spelled with rfl | rfl
  · exact ⟨legible_word64 d.secs, legible_word32 d.nanos, trivial⟩
  · exact ⟨legible_word32 d.nanos, legible_word64 d.secs, trivial⟩

end Spelled

end Duration

/-! ## Policies -/

namespace Policy

/-- The names of the fields that must be there. -/
def requiredNames : List String :=
  ["max_attempts", "base_delay", "max_delay", "randomization_factor"]

/-- The names of all fields. -/
def fieldNames : List String :=
  requiredNames ++ ["on_exhaustion"]

/-- The members of the object of a policy without the last one. -/
def requiredMembers (p : Policy) (base max : Json) : List (String × Json) :=
  [
    ("max_attempts", .int p.maxAttempts.toNat),
    ("base_delay", base),
    ("max_delay", max),
    ("randomization_factor", .float p.jitter)
  ]

/-- The member that says what happens on exhaustion. -/
def exhaustionMember (p : Policy) : String × Json :=
  ("on_exhaustion", .text p.exhaustion.name)

/-- What a spelling may say about exhaustion: nothing, if the last response is given out. -/
def Closing (p : Policy) (last : List (String × Json)) : Prop :=
  last = [p.exhaustionMember] ∨ p.exhaustion = .emitLast ∧ last = []

/-- The spellings of a policy, with the members of other names that an object has besides. -/
inductive Spelling (p : Policy) : List (String × Json) → Json → Prop where
  | object
      {base max : Json}
      {last others members : List (String × Json)}
      (baseSpelled : p.base.Spelled base)
      (maxSpelled : p.max.Spelled max)
      (closing : p.Closing last)
      (unknown : ∀ member ∈ others, member.1 ∉ fieldNames)
      (order : members.Perm (p.requiredMembers base max ++ last ++ others)) :
      Spelling p others (.object members)
  | array
      {base max : Json}
      {last : List (String × Json)}
      (baseSpelled : p.base.Spelled base)
      (maxSpelled : p.max.Spelled max)
      (closing : p.Closing last) :
      Spelling p [] (.array ((p.requiredMembers base max ++ last).map Prod.snd))

/-! ### Reading an object -/

/-- Whether a member, if its name is that of a field, has the value of the field. -/
def Agrees (p : Policy) (member : String × Json) : Prop :=
  match member.1 with
  | "max_attempts" => decodeWord32 member.2 = .ok p.maxAttempts
  | "base_delay" => Duration.decode member.2 = .ok p.base
  | "max_delay" => Duration.decode member.2 = .ok p.max
  | "randomization_factor" => decodeNumber member.2 = .ok p.jitter
  | "on_exhaustion" => Exhaustion.decode member.2 = .ok p.exhaustion
  | _ => True

/-- The fields of a policy that have one of the names. -/
def fieldsOf (p : Policy) (names : List String) : Fields where
  maxAttempts := if "max_attempts" ∈ names then some p.maxAttempts else none
  base := if "base_delay" ∈ names then some p.base else none
  max := if "max_delay" ∈ names then some p.max else none
  jitter := if "randomization_factor" ∈ names then some p.jitter else none
  exhaustion := if "on_exhaustion" ∈ names then some p.exhaustion else none

theorem accept_of_agrees
    {p : Policy}
    {member : String × Json}
    (agrees : p.Agrees member)
    (names : List String) :
    (p.fieldsOf names).accept member = .ok (p.fieldsOf (member.1 :: names)) := by
  obtain ⟨name, value⟩ := member
  unfold Agrees at agrees
  split at agrees
  case h_6 attempts base max jitter exhaustion =>
    have attempts : "max_attempts" ≠ name := Ne.symm attempts
    have base : "base_delay" ≠ name := Ne.symm base
    have max : "max_delay" ≠ name := Ne.symm max
    have jitter : "randomization_factor" ≠ name := Ne.symm jitter
    have exhaustion : "on_exhaustion" ≠ name := Ne.symm exhaustion
    simp [Fields.accept, fieldsOf, attempts, base, max, jitter, exhaustion]
  all_goals
    rename_i same
    cases same
    simp [Fields.accept, agrees, fieldsOf]

theorem foldlM_accept
    {p : Policy}
    {members : List (String × Json)}
    (agree : ∀ member ∈ members, p.Agrees member)
    (names : List String) :
    members.foldlM Fields.accept (p.fieldsOf names) =
      .ok (p.fieldsOf ((members.map Prod.fst).reverse ++ names)) := by
  induction members generalizing names with
  | nil => rfl
  | cons member others inductionHypothesis =>
      have ⟨first, later⟩ := List.forall_mem_cons.mp agree
      rw [List.foldlM_cons, accept_of_agrees first]
      change others.foldlM _ _ = _
      rw [inductionHypothesis later, List.map_cons, List.reverse_cons, List.append_assoc]
      rfl

/-- The last field may be missing only where it is what is supposed in its absence. -/
theorem assemble_fieldsOf
    {p : Policy}
    {names : List String}
    (required : requiredNames ⊆ names)
    (exhaustion : "on_exhaustion" ∈ names ∨ p.exhaustion = .emitLast) :
    (p.fieldsOf names).assemble = .ok p := by
  simp only [requiredNames, List.cons_subset] at required
  obtain ⟨attempts, base, max, jitter, _⟩ := required
  have last : (if "on_exhaustion" ∈ names then some p.exhaustion else none).getD .emitLast =
      p.exhaustion := by
    by_cases present : "on_exhaustion" ∈ names
    · rw [if_pos present]
      rfl
    · rw [if_neg present, exhaustion.resolve_left present]
      rfl
  simp only [Fields.assemble, fieldsOf, if_pos attempts, if_pos base, if_pos max, if_pos jitter,
    last]
  rfl

/-- Members that tell a policy, whatever their order and whatever stands among them. -/
structure Tells (p : Policy) (members : List (String × Json)) : Prop where
  agree : ∀ member ∈ members, p.Agrees member
  required : requiredNames ⊆ members.map Prod.fst
  exhaustion : "on_exhaustion" ∈ members.map Prod.fst ∨ p.exhaustion = .emitLast

/-- An object is read as the policy that its members tell. -/
theorem Tells.decode_eq
    {p : Policy}
    {members : List (String × Json)}
    (tells : p.Tells members) :
    decode (.object members) = .ok p := by
  have empty : p.fieldsOf [] = ⟨none, none, none, none, none⟩ := rfl
  rw [decode, ← empty, foldlM_accept tells.agree]
  refine assemble_fieldsOf ?_ ?_
  · simpa using tells.required
  · simpa using tells.exhaustion

theorem Tells.decode_ofMembers
    {p : Policy}
    {members : List (String × Json)}
    (tells : p.Tells members) :
    decode (.ofMembers members) = .ok p := by
  obtain ⟨sorted, same, subset, names⟩ := Json.exists_ofMembers members
  have tellsSorted : p.Tells sorted := {
    agree := fun member inside => tells.agree member (subset inside)
    required := fun name inside => (names name).mpr (tells.required inside)
    exhaustion := tells.exhaustion.imp_left (names _).mpr
  }
  rw [same, tellsSorted.decode_eq]

/-! ### Spellings -/

section

variable {p : Policy}
variable {base max : Json}
variable {last others members : List (String × Json)}

theorem Closing.inOrder (closing : p.Closing last) : Json.membersInOrder last = last := by
  rcases closing with rfl | ⟨_, rfl⟩ <;> rfl

theorem agrees_unknown {member : String × Json} (unknown : member.1 ∉ fieldNames) :
    p.Agrees member := by
  unfold Agrees
  split
  case h_6 => trivial
  all_goals
    rename_i same
    simp [same, fieldNames, requiredNames] at unknown

theorem agrees_required
    {member : String × Json}
    (baseSpelled : p.base.Spelled base)
    (maxSpelled : p.max.Spelled max)
    (inside : member ∈ p.requiredMembers base max) :
    p.Agrees member := by
  simp only [requiredMembers, List.mem_cons, List.not_mem_nil, or_false] at inside
  rcases inside with rfl | rfl | rfl | rfl
  · exact decodeWord32_encoded p.maxAttempts
  · exact baseSpelled.decode_eq
  · exact maxSpelled.decode_eq
  · rfl

theorem tells_of_perm
    (baseSpelled : p.base.Spelled base)
    (maxSpelled : p.max.Spelled max)
    (closing : p.Closing last)
    (unknown : ∀ member ∈ others, member.1 ∉ fieldNames)
    (order : members.Perm (p.requiredMembers base max ++ last ++ others)) :
    p.Tells members where
  agree := by
    intro member inside
    rcases List.mem_append.mp (order.mem_iff.mp inside) with known | other
    · rcases List.mem_append.mp known with required | closes
      · exact agrees_required baseSpelled maxSpelled required
      · rcases closing with rfl | ⟨_, rfl⟩
        · cases List.mem_singleton.mp closes
          exact Exhaustion.decode_name p.exhaustion
        · cases closes
    · exact agrees_unknown (unknown member other)
  required := by
    intro name inside
    rw [(order.map Prod.fst).mem_iff, List.map_append, List.map_append]
    exact List.mem_append_left _ (List.mem_append_left _ inside)
  exhaustion := by
    rcases closing with rfl | ⟨emitLast, _⟩
    · left
      rw [(order.map Prod.fst).mem_iff]
      simp [exhaustionMember]
    · exact .inr emitLast

theorem legible_known
    {member : String × Json}
    (finite : p.jitter.isFinite = true)
    (baseSpelled : p.base.Spelled base)
    (maxSpelled : p.max.Spelled max)
    (closing : p.Closing last)
    (known : member ∈ p.requiredMembers base max ++ last) :
    member.2.Legible := by
  rcases List.mem_append.mp known with required | closes
  · simp only [requiredMembers, List.mem_cons, List.not_mem_nil, or_false] at required
    rcases required with rfl | rfl | rfl | rfl
    · exact legible_word32 p.maxAttempts
    · exact baseSpelled.legible
    · exact maxSpelled.legible
    · exact finite
  · rcases closing with rfl | ⟨_, rfl⟩
    · cases List.mem_singleton.mp closes
      trivial
    · cases closes

/-- An array is read as the policy that its values tell one by one. -/
theorem decode_items
    {attempts jitter : Json}
    {rest : List Json}
    (attemptsEq : decodeWord32 attempts = .ok p.maxAttempts)
    (baseEq : Duration.decode base = .ok p.base)
    (maxEq : Duration.decode max = .ok p.max)
    (jitterEq : decodeNumber jitter = .ok p.jitter)
    (restEq :
      p.exhaustion = .emitLast ∧ rest = [] ∨
        ∃ exhaustion, Exhaustion.decode exhaustion = .ok p.exhaustion ∧ rest = [exhaustion]) :
    decode (.array (attempts :: base :: max :: jitter :: rest)) = .ok p := by
  rcases restEq with ⟨emitLast, rfl⟩ | ⟨exhaustion, exhaustionEq, rfl⟩
  · simp only [decode, element, List.getElem?_cons_zero, List.getElem?_cons_succ,
      bind, Except.bind, attemptsEq, baseEq, maxEq, jitterEq]
    change Except.ok (Policy.mk p.maxAttempts p.base p.max p.jitter .emitLast) = .ok p
    rw [← emitLast]
  · simp only [decode, element, List.getElem?_cons_zero, List.getElem?_cons_succ,
      bind, Except.bind, attemptsEq, baseEq, maxEq, jitterEq, exhaustionEq]
    rfl

theorem decode_values
    (baseSpelled : p.base.Spelled base)
    (maxSpelled : p.max.Spelled max)
    (closing : p.Closing last) :
    decode (.array ((p.requiredMembers base max ++ last).map Prod.snd)) = .ok p := by
  refine decode_items (decodeWord32_encoded p.maxAttempts) baseSpelled.decode_eq
    maxSpelled.decode_eq rfl ?_
  rcases closing with rfl | ⟨emitLast, rfl⟩
  · exact .inr ⟨_, Exhaustion.decode_name p.exhaustion, rfl⟩
  · exact .inl ⟨emitLast, rfl⟩

end

section

variable {p : Policy}
variable {others : List (String × Json)}
variable {value : Json}

/-- Every spelling of a policy is read as the policy. -/
theorem Spelling.decode_eq (spelling : p.Spelling others value) : decode value = .ok p := by
  cases spelling with
  | object baseSpelled maxSpelled closing unknown order =>
      exact (tells_of_perm baseSpelled maxSpelled closing unknown order).decode_eq
  | array baseSpelled maxSpelled closing => exact decode_values baseSpelled maxSpelled closing

/-- The order in which a text is read makes no difference. -/
theorem Spelling.decode_inOrder (spelling : p.Spelling others value) :
    decode value.inOrder = .ok p := by
  cases spelling with
  | object baseSpelled maxSpelled closing unknown order =>
      have unknownInOrder : ∀ member ∈ Json.membersInOrder others, member.1 ∉ fieldNames := by
        rw [Json.membersInOrder_eq_map]
        intro member inside
        obtain ⟨original, present, rfl⟩ := List.mem_map.mp inside
        exact unknown original present
      refine (tells_of_perm baseSpelled.inOrder maxSpelled.inOrder closing unknownInOrder
        ?_).decode_ofMembers
      have mapped := order.map fun member : String × Json => (member.1, member.2.inOrder)
      rw [List.map_append, List.map_append, ← Json.membersInOrder_eq_map,
        ← Json.membersInOrder_eq_map, ← Json.membersInOrder_eq_map,
        ← Json.membersInOrder_eq_map, closing.inOrder] at mapped
      exact mapped
  | array baseSpelled maxSpelled closing =>
      have values := decode_values baseSpelled.inOrder maxSpelled.inOrder closing
      rcases closing with rfl | ⟨_, rfl⟩
      · exact values
      · exact values

theorem Spelling.legible
    (finite : p.jitter.isFinite = true)
    (spelling : p.Spelling others value)
    (legible : ∀ member ∈ others, member.2.Legible) :
    value.Legible := by
  cases spelling with
  | object baseSpelled maxSpelled closing unknown order =>
      refine Json.legibleMembers_of_forall fun member inside => ?_
      rcases List.mem_append.mp (order.mem_iff.mp inside) with known | other
      · exact legible_known finite baseSpelled maxSpelled closing known
      · exact legible member other
  | array baseSpelled maxSpelled closing =>
      refine Json.legibleItems_of_forall fun item inside => ?_
      obtain ⟨member, known, rfl⟩ := List.mem_map.mp inside
      exact legible_known finite baseSpelled maxSpelled closing known

end

theorem spelling_encode (p : Policy) : p.Spelling [] p.encode :=
  .object (.inl rfl) (.inl rfl) (.inl rfl) nofun (.refl _)

/-- A finite number is equal to itself, so a policy with a finite jitter is. -/
theorem beq_self {p : Policy} (finite : p.jitter.isFinite = true) : (p == p) = true := by
  have jitter : (p.jitter == p.jitter) = true := Binary64.beq_self finite
  change (p.maxAttempts == p.maxAttempts && p.base == p.base && p.max == p.max
    && p.jitter == p.jitter && p.exhaustion == p.exhaustion) = true
  simp [jitter]

/--
Whatever its values are, what is written of a policy is read as the same policy, and so is every
other spelling of it.
-/
theorem readsBack
    {p : Policy}
    (finite : p.jitter.isFinite = true) :
    p.survivesWriting = true ∧
      read? p.write = some p ∧
        ∀ others value,
          p.Spelling others value →
            decode value = .ok p ∧
              ((∀ member ∈ others, member.2.Legible) → read? value.write = some p) := by
  have readBack {others : List (String × Json)} {value : Json}
      (spelling : p.Spelling others value) (legible : ∀ member ∈ others, member.2.Legible) :
      read? value.write = some p := by
    rw [read?, Json.read?_write (spelling.legible finite legible)]
    change (decode value.inOrder).toOption = some p
    rw [spelling.decode_inOrder]
    rfl
  have written : read? p.write = some p := readBack p.spelling_encode nofun
  refine ⟨?_, written, fun others value spelling => ⟨spelling.decode_eq, readBack spelling⟩⟩
  delta survivesWriting
  rw [written]
  exact beq_self finite

/-- The greatest number of attempts, the longest delays, and a jitter of negative zero. -/
def extreme : Policy where
  maxAttempts := 4294967295
  base := .longest
  max := .longest
  jitter := -0.0
  exhaustion := .emitLast

theorem readsBack_extreme :
    extreme.jitter.isFinite = true ∧
      extreme.survivesWriting = true ∧
        read? ("\x7b\"note\":null,\"randomization_factor\":-0.0,"
            ++ "\"max_delay\":\x7b\"nanos\":999999999,\"secs\":18446744073709551615\x7d,"
            ++ "\"base_delay\":\x7b\"secs\":18446744073709551615,\"nanos\":999999999\x7d,"
            ++ "\"max_attempts\":4294967295\x7d") =
          some extreme := by
  have finite : extreme.jitter.isFinite = true := by decide +kernel
  obtain ⟨survives, _, spelled⟩ := readsBack finite
  have spelling : extreme.Spelling [("note", .null)] (.object
      (extreme.requiredMembers Duration.longest.encode Duration.longest.encodeInOrder ++ [] ++
        [("note", Json.null)]).reverse) :=
    .object (.inl rfl) (.inr rfl) (.inr ⟨rfl, rfl⟩) (by decide) (List.reverse_perm _)
  exact ⟨finite, survives, (spelled _ _ spelling).2 (by simp [Json.Legible])⟩

end Policy

end Resubmit
