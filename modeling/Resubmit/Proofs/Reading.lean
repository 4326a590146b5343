import Resubmit.Json.Read
import Resubmit.Proofs.Scanning

namespace Resubmit.Json

/-!
# Written values are read back

From the tokens of a written value the reader makes the value again, with the members of its
objects in ascending order of names.
-/

open Reader

mutual

/-- A value with the members of all its objects in ascending order of names. -/
def inOrder : Json → Json
  | .array items => .array (itemsInOrder items)
  | .object members => ofMembers (membersInOrder members)
  | value => value

/-- Several values with all members in order. -/
def itemsInOrder : List Json → List Json
  | [] => []
  | value :: rest => inOrder value :: itemsInOrder rest

/-- Several members whose own values have all members in order. -/
def membersInOrder : List (String × Json) → List (String × Json)
  | [] => []
  | (name, value) :: rest => (name, inOrder value) :: membersInOrder rest

end

theorem membersInOrder_eq_map (members : List (String × Json)) :
    membersInOrder members = members.map fun member => (member.1, member.2.inOrder) := by
  induction members with
  | nil => rfl
  | cons member rest inductionHypothesis =>
      rw [membersInOrder, inductionHypothesis]
      rfl

/-! ## Members in order -/

theorem mem_insertMember
    {name : String}
    {value : Json}
    {members : List (String × Json)}
    {member : String × Json}
    (inserted : member ∈ insertMember name value members) :
    member = (name, value) ∨ member ∈ members := by
  fun_induction insertMember name value members with
  | case1 => simpa using inserted
  | case2 => simpa using inserted
  | case3 =>
      rcases List.mem_cons.mp inserted with same | later
      · exact .inl same
      · exact .inr (List.mem_cons_of_mem _ later)
  | case4 other old rest _ _ inductionHypothesis =>
      rcases List.mem_cons.mp inserted with same | later
      · exact .inr (same ▸ List.mem_cons_self)
      · exact (inductionHypothesis later).imp_right (List.mem_cons_of_mem _)

theorem mem_names_insertMember
    (name other : String)
    (value : Json)
    (members : List (String × Json)) :
    other ∈ (insertMember name value members).map Prod.fst ↔
      other = name ∨ other ∈ members.map Prod.fst := by
  fun_induction insertMember name value members with
  | case1 => simp
  | case2 => simp
  | case3 => simp
  | case4 present old rest _ _ inductionHypothesis =>
      rw [List.map_cons, List.mem_cons, inductionHypothesis, List.map_cons, List.mem_cons,
        or_left_comm]

theorem mem_foldl_insertMember
    {members sorted : List (String × Json)}
    {member : String × Json}
    (inserted :
      member ∈ members.foldl (fun sorted (name, value) => insertMember name value sorted) sorted) :
    member ∈ sorted ∨ member ∈ members := by
  induction members generalizing sorted with
  | nil => exact .inl inserted
  | cons first rest inductionHypothesis =>
      rcases inductionHypothesis inserted with early | later
      · rcases mem_insertMember early with same | old
        · exact .inr (same ▸ List.mem_cons_self)
        · exact .inl old
      · exact .inr (List.mem_cons_of_mem _ later)

theorem mem_names_foldl_insertMember
    (name : String)
    (members sorted : List (String × Json)) :
    name ∈ (members.foldl (fun sorted (name, value) => insertMember name value sorted)
        sorted).map Prod.fst ↔
      name ∈ sorted.map Prod.fst ∨ name ∈ members.map Prod.fst := by
  induction members generalizing sorted with
  | nil => simp
  | cons first rest inductionHypothesis =>
      simp only [List.foldl_cons, inductionHypothesis, mem_names_insertMember, List.map_cons,
        List.mem_cons, or_left_comm, or_assoc]

/-- Putting members in order makes up no member and loses no name. -/
theorem exists_ofMembers (members : List (String × Json)) :
    ∃ sorted,
      ofMembers members = .object sorted ∧
        sorted ⊆ members ∧
        ∀ name, name ∈ sorted.map Prod.fst ↔ name ∈ members.map Prod.fst := by
  refine ⟨_, rfl, fun member inserted => ?_, fun name => ?_⟩
  · exact (mem_foldl_insertMember inserted).resolve_left List.not_mem_nil
  · rw [mem_names_foldl_insertMember, List.map_nil, or_iff_right List.not_mem_nil]

/-! ## Reading tokens -/

/-- Where a value may begin. -/
def Awaits (expecting : Expecting) : Prop :=
  expecting = .value ∨ expecting = .valueOrClose

/-- Wherever a value may begin, the tokens are read as this value. -/
def Reads (tokens : List Token) (value : Json) : Prop :=
  ∀ frames expecting,
    Awaits expecting → tokens.foldlM Reader.read? ⟨frames, expecting⟩ = deliver frames value

theorem ofTokens?_of_reads
    {tokens : List Token}
    {value : Json}
    (reads : Reads tokens value) :
    ofTokens? tokens = some value := by
  rw [ofTokens?, reads [] .value (.inl rfl)]
  rfl

/-! ## Scalars -/

theorem Reads.scalar (value : Json) : Reads [.scalar value] value := by
  intro frames expecting awaits
  rcases awaits with rfl | rfl <;> simp [Reader.read?, Reader.start, Reader.close]

theorem Reads.text (text : String) : Reads [.text text] (.text text) := by
  intro frames expecting awaits
  rcases awaits with rfl | rfl <;> simp [Reader.read?, Reader.start, Reader.close]

/-! ## Containers -/

section

variable {β : Type}
variable {frame : List β → Frame}
variable {first next : Expecting}

/-- At its beginning and after a comma, the tokens put this content into an open container. -/
def Fills
    (frame : List β → Frame)
    (first next : Expecting)
    (tokens : List Token)
    (content : β) :
    Prop :=
  ∀ frames done expecting,
    expecting = first ∨ expecting = next →
      tokens.foldlM Reader.read? ⟨frame done :: frames, expecting⟩ =
        some ⟨frame (content :: done) :: frames, .separator⟩

/-- What stands between commas is put into the container part by part. -/
theorem foldlM_intercalate
    {frames : List Frame}
    {parts : List (List Token)}
    {contents done : List β}
    {expecting : Expecting}
    (comma : ∀ done,
      Reader.read? ⟨frame done :: frames, .separator⟩ .comma =
        some ⟨frame done :: frames, next⟩)
    (all : List.Forall₂ (Fills frame first next) parts contents)
    (nonempty : parts ≠ [])
    (begins : expecting = first ∨ expecting = next) :
    ([Token.comma].intercalate parts).foldlM Reader.read? ⟨frame done :: frames, expecting⟩ =
      some ⟨frame (contents.reverse ++ done) :: frames, .separator⟩ := by
  induction all generalizing done expecting with
  | nil => exact (nonempty rfl).elim
  | @cons part content parts contents head others inductionHypothesis =>
      cases others with
      | nil =>
          rw [List.intercalate_singleton, head frames done expecting begins]
          rfl
      | cons second others =>
          have rest :=
            @inductionHypothesis (content :: done) next (List.cons_ne_nil _ _) (.inr rfl)
          rw [List.intercalate_cons_cons, List.append_assoc, List.foldlM_append,
            head frames done expecting begins, List.singleton_append]
          simp only [Option.bind_eq_bind, Option.bind_some, List.foldlM_cons, comma, rest]
          simp

/-- A container is read from its marks and what stands between them. -/
theorem Reads.container
    (frame : List β → Frame)
    (first next : Expecting)
    {opened closed : Token}
    {build : List β → Json}
    {parts : List (List Token)}
    {contents : List β}
    (opens : ∀ frames expecting,
      Awaits expecting →
        Reader.read? ⟨frames, expecting⟩ opened = some ⟨frame [] :: frames, first⟩)
    (closes : ∀ frames done expecting,
      expecting = first ∨ expecting = .separator →
        Reader.read? ⟨frame done :: frames, expecting⟩ closed =
          deliver frames (build done.reverse))
    (comma : ∀ frames done,
      Reader.read? ⟨frame done :: frames, .separator⟩ .comma =
        some ⟨frame done :: frames, next⟩)
    (all : List.Forall₂ (Fills frame first next) parts contents) :
    Reads (opened :: ([Token.comma].intercalate parts ++ [closed])) (build contents) := by
  intro frames expecting awaits
  rw [List.foldlM_cons, opens frames expecting awaits]
  simp only [Option.bind_eq_bind, Option.bind_some, List.foldlM_append]
  cases all with
  | nil => simp [closes frames [] first (.inl rfl)]
  | cons head others =>
      rw [foldlM_intercalate (comma frames) (.cons head others) (List.cons_ne_nil _ _) (.inl rfl)]
      simp [closes frames _ .separator (.inr rfl)]

end

/-! ## Values -/

theorem Reads.array
    {parts : List (List Token)}
    {values : List Json}
    (all : List.Forall₂ Reads parts values) :
    Reads (.openArray :: ([Token.comma].intercalate parts ++ [.closeArray])) (.array values) := by
  refine .container .array .valueOrClose .value ?_ ?_ ?_ (all.imp ?_)
  · rintro frames expecting (rfl | rfl) <;> rfl
  · rintro frames done expecting (rfl | rfl)
    · simp [Reader.read?, Reader.close, Reader.start]
    · rfl
  · intro frames done
    rfl
  · intro part value reads frames done expecting begins
    exact reads _ _ begins.symm

theorem Reads.object
    {parts : List (List Token)}
    {members : List (String × Json)}
    (all : List.Forall₂
      (fun tokens member => ∃ rest,
        tokens = .text member.1 :: .colon :: rest ∧ Reads rest member.2) parts members) :
    Reads (.openObject :: ([Token.comma].intercalate parts ++ [.closeObject]))
      (ofMembers members) := by
  refine .container .object .nameOrClose .name ?_ ?_ ?_ (all.imp ?_)
  · rintro frames expecting (rfl | rfl) <;> rfl
  · rintro frames done expecting (rfl | rfl)
    · simp [Reader.read?, Reader.close, Reader.nameMember]
    · rfl
  · intro frames done
    rfl
  · rintro _ ⟨name, value⟩ ⟨rest, rfl, reads⟩ frames done expecting (rfl | rfl)
    · exact reads (.member done name :: frames) .value (.inl rfl)
    · exact reads (.member done name :: frames) .value (.inl rfl)

mutual

/-- The tokens of a value are read as the value with its members in order. -/
theorem reads_tokens : (value : Json) → Reads value.tokens value.inOrder
  | .null => .scalar _
  | .bool _ => .scalar _
  | .int _ => .scalar _
  | .float _ => .scalar _
  | .text value => .text value
  | .array items => .array (reads_itemTokens items)
  | .object members => .object (reads_memberTokens members)

theorem reads_itemTokens :
    (items : List Json) → List.Forall₂ Reads (itemTokens items) (itemsInOrder items)
  | [] => .nil
  | value :: rest => .cons (reads_tokens value) (reads_itemTokens rest)

theorem reads_memberTokens :
    (members : List (String × Json)) →
      List.Forall₂
        (fun tokens member => ∃ rest,
          tokens = .text member.1 :: .colon :: rest ∧ Reads rest member.2)
        (memberTokens members) (membersInOrder members)
  | [] => .nil
  | (_, value) :: rest => .cons ⟨_, rfl, reads_tokens value⟩ (reads_memberTokens rest)

end

/-- A written value is read back with its members in order. -/
theorem read?_write {value : Json} (legible : Legible value) :
    read? value.write = some value.inOrder := by
  rw [read?, tokens?_of_scans (scans_write value legible)]
  exact ofTokens?_of_reads (reads_tokens value)

end Resubmit.Json
