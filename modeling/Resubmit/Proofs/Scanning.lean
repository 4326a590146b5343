import Mathlib.Data.List.Forall2
import Resubmit.Json.Token
import Resubmit.Json.Write
import Resubmit.Proofs.Decimals

namespace Resubmit.Json

/-!
# Written values are cut into their tokens

Between two tokens the scanner remembers nothing but the tokens that it has found.  A text ends
with its quote and a mark with itself; a bare word ends with what follows it, which is a blank, a
mark or the end.
-/

/-! ## Scanning from a place between tokens -/

/-- The tokens found so far, and then those of the rest. -/
def scanned? (found : List Token) (rest : List Char) : Option (List Token) :=
  (rest.foldlM Scanner.scan? ⟨found, .between⟩).bind Scanner.finish?

/-- Whether a bare word ends before these characters. -/
def Stops (rest : List Char) : Prop :=
  ∀ c ∈ rest.head?, isBlank c = true ∨ (punctuation? c).isSome = true

/-- The characters are those of the tokens, whatever was found before them. -/
def Scans (cs : List Char) (tokens : List Token) : Prop :=
  ∀ found rest, Stops rest → scanned? found (cs ++ rest) = scanned? (tokens.reverse ++ found) rest

theorem Stops.append
    {cs rest : List Char}
    (first : Stops cs)
    (last : Stops rest) :
    Stops (cs ++ rest) := by
  cases cs with
  | nil => exact last
  | cons c others => exact first

theorem tokens?_of_scans
    {text : String}
    {tokens : List Token}
    (scans : Scans text.toList tokens) :
    tokens? text = some tokens := by
  have all := scans [] [] nofun
  rw [List.append_nil, List.append_nil] at all
  change scanned? [] text.toList = _
  rw [all, scanned?, List.foldlM_nil]
  exact congrArg some (List.reverse_reverse tokens)

namespace Scans

variable {cs ds : List Char}
variable {tokens others : List Token}

theorem nil : Scans [] [] :=
  fun _ _ _ => rfl

theorem append
    (first : Scans cs tokens)
    (last : Scans ds others)
    (stops : Stops ds) :
    Scans (cs ++ ds) (tokens ++ others) := by
  intro found rest stop
  rw [List.append_assoc, first found (ds ++ rest) (stops.append stop), last _ rest stop,
    List.reverse_append, List.append_assoc]

end Scans

/-! ## Marks -/

theorem scanBetween_mark
    {c : Char}
    {token : Token}
    (mark : punctuation? c = some token)
    (found : List Token) :
    scanBetween found c = ⟨token :: found, .between⟩ := by
  have own := mark
  unfold punctuation? at own
  split at own
  case h_7 => cases own
  all_goals
    cases own
    rfl

theorem stops_mark
    {c : Char}
    {token : Token}
    (mark : punctuation? c = some token)
    (rest : List Char) :
    Stops (c :: rest) := by
  rintro _ ⟨⟩
  exact .inr (mark ▸ rfl)

/-- Anything may follow a mark. -/
theorem Scans.mark
    {c : Char}
    {cs : List Char}
    {token : Token}
    {tokens : List Token}
    (mark : punctuation? c = some token)
    (scans : Scans cs tokens) :
    Scans (c :: cs) (token :: tokens) := by
  intro found rest stop
  have first : scanned? found (c :: (cs ++ rest)) = scanned? (token :: found) (cs ++ rest) := by
    change ((some (scanBetween found c)).bind fun scanner =>
      (cs ++ rest).foldlM Scanner.scan? scanner).bind _ = _
    rw [scanBetween_mark mark]
    rfl
  rw [List.cons_append, first, scans _ rest stop, List.reverse_cons, List.append_assoc]
  rfl

/-! ## Bare words -/

/-- Whether a character may stand in a bare word. -/
def isPlain (c : Char) : Bool :=
  !isBlank c && (punctuation? c).isNone

theorem scan?_bareWord
    {found : List Token}
    {collected word : List Char}
    (plain : ∀ c ∈ word, isPlain c = true) :
    word.foldlM Scanner.scan? ⟨found, .bareWord collected⟩ =
      some ⟨found, .bareWord (word.reverse ++ collected)⟩ := by
  induction word generalizing collected with
  | nil => rfl
  | cons c others inductionHypothesis =>
      have ⟨first, later⟩ := List.forall_mem_cons.mp plain
      have stays : Scanner.scan? ⟨found, .bareWord collected⟩ c =
          some ⟨found, .bareWord (c :: collected)⟩ := by
        simp only [isPlain, Bool.and_eq_true, Bool.not_eq_true', Option.isNone_iff_eq_none] at first
        simp [Scanner.scan?, first.1, first.2]
      rw [List.foldlM_cons, stays]
      change others.foldlM _ _ = _
      rw [inductionHypothesis later, List.reverse_cons, List.append_assoc]
      rfl

/-- What follows a bare word is read as if it stood between tokens. -/
theorem scanned?_bareWord
    {found : List Token}
    {collected rest : List Char}
    {value : Json}
    (meaning : ofBareWord? collected.reverse = some value)
    (stop : Stops rest) :
    (rest.foldlM Scanner.scan? ⟨found, .bareWord collected⟩).bind Scanner.finish? =
      scanned? (.scalar value :: found) rest := by
  have finish : finishWord? found collected = some (.scalar value :: found) := by
    rw [finishWord?, meaning]
    rfl
  cases rest with
  | nil => simp [Scanner.finish?, finish, scanned?]
  | cons c others =>
      have ends : (isBlank c || (punctuation? c).isSome) = true := by
        simpa using stop c rfl
      simp [Scanner.scan?, finish, ends, scanned?]

theorem Scans.word
    {first : Char}
    {others : List Char}
    {value : Json}
    (plain : ∀ c ∈ first :: others, isPlain c = true)
    (unquoted : first ≠ '"')
    (meaning : ofBareWord? (first :: others) = some value) :
    Scans (first :: others) [.scalar value] := by
  have ⟨plainFirst, plainOthers⟩ := List.forall_mem_cons.mp plain
  intro found rest stop
  have begins : scanBetween found first = ⟨found, .bareWord [first]⟩ := by
    simp only [isPlain, Bool.and_eq_true, Bool.not_eq_true', Option.isNone_iff_eq_none]
      at plainFirst
    simp [scanBetween, plainFirst.1, plainFirst.2, unquoted]
  have collects : (first :: others).foldlM Scanner.scan? ⟨found, .between⟩ =
      some ⟨found, .bareWord (first :: others).reverse⟩ := by
    change others.foldlM Scanner.scan? (scanBetween found first) = _
    rw [begins, scan?_bareWord plainOthers, List.reverse_cons]
  rw [scanned?, List.foldlM_append, collects]
  exact scanned?_bareWord (by rw [List.reverse_reverse, meaning]) stop

theorem scans_null : Scans ['n', 'u', 'l', 'l'] [.scalar .null] :=
  .word (List.all_eq_true.mp rfl) (by decide) rfl

theorem scans_true : Scans ['t', 'r', 'u', 'e'] [.scalar (.bool true)] :=
  .word (List.all_eq_true.mp rfl) (by decide) rfl

theorem scans_false : Scans ['f', 'a', 'l', 's', 'e'] [.scalar (.bool false)] :=
  .word (List.all_eq_true.mp rfl) (by decide) rfl

/-! ## Numbers -/

theorem isPlain_of_isNumeric {c : Char} (numeric : isNumeric c = true) : isPlain c = true := by
  have notBlank : isBlank c = false := by
    refine Bool.eq_false_iff.mpr fun blank => ?_
    simp only [isBlank, Bool.or_eq_true, decide_eq_true_eq] at blank
    rcases blank with ((rfl | rfl) | rfl) | rfl <;> cases numeric
  have noMark : punctuation? c = none := by
    unfold punctuation?
    split
    case h_7 => rfl
    all_goals cases numeric
  rw [isPlain, notBlank, noMark]
  rfl

/-- A number literal is a scalar. -/
theorem Scans.number
    {cs : List Char}
    {value : Json}
    (denotes : Denotes cs value) :
    Scans cs [.scalar value] := by
  obtain ⟨numeric, meaning⟩ := denotes
  cases cs with
  | nil => cases meaning
  | cons first others =>
      have ⟨numericFirst, _⟩ := List.forall_mem_cons.mp numeric
      refine Scans.word (fun c member => isPlain_of_isNumeric (numeric c member)) ?_ ?_
      · rintro rfl
        cases numericFirst
      · rw [ofBareWord?, if_neg, if_neg, if_neg, meaning]
        all_goals
          intro same
          cases same
          cases numericFirst

/-! ## Texts -/

theorem hexValue?_hexDigit (n : Nat) : hexValue? (hexDigit n) = some (n % 16) := by
  have all : ∀ digit : Fin 16, hexValue? (Nat.digitChar digit) = some digit.val := by decide
  exact all ⟨n % 16, Nat.mod_lt n (by decide)⟩

section

variable {found : List Token}
variable {collected : List Char}
variable {c : Char}
variable {missing value digit : Nat}

theorem scan?_codeUnit
    (meaning : hexValue? c = some digit)
    (more : ¬ missing ≤ 1) :
    Scanner.scan? ⟨found, .codeUnit collected none missing value⟩ c =
      some ⟨found, .codeUnit collected none (missing - 1) (16 * value + digit)⟩ := by
  simp [Scanner.scan?, meaning, more]

theorem scan?_codeUnit_last
    (meaning : hexValue? c = some digit)
    (low : 16 * value + digit < 0xD800) :
    Scanner.scan? ⟨found, .codeUnit collected none 1 value⟩ c =
      some ⟨found, .quoted (Char.ofNat (16 * value + digit) :: collected)⟩ := by
  have noHigh : ¬ (0xD800 ≤ 16 * value + digit ∧ 16 * value + digit < 0xDC00) := by omega
  have noLow : ¬ (0xDC00 ≤ 16 * value + digit ∧ 16 * value + digit < 0xE000) := by omega
  have accepted : acceptCodeUnit? collected none (16 * value + digit) =
      some (.quoted (Char.ofNat (16 * value + digit) :: collected)) := by
    simp only [acceptCodeUnit?, if_neg noHigh, if_neg noLow]
  simp [Scanner.scan?, meaning, accepted]

end

/-- In quotes a character is read as it was written. -/
theorem scan?_escape
    (found : List Token)
    (collected : List Char)
    (c : Char) :
    (escape c).foldlM Scanner.scan? ⟨found, .quoted collected⟩ =
      some ⟨found, .quoted (c :: collected)⟩ := by
  unfold escape
  split
  case h_8 quote backslash _ _ _ _ _ =>
    split
    · rename_i control
      have code : 16 * (16 * 0 + c.toNat / 16 % 16) + c.toNat % 16 = c.toNat := by omega
      change
        List.foldlM Scanner.scan? ⟨found, .codeUnit collected none 2 0⟩
          [hexDigit (c.toNat / 16), hexDigit c.toNat] = _
      rw [List.foldlM_cons, scan?_codeUnit (hexValue?_hexDigit _) (by decide)]
      change List.foldlM Scanner.scan? ⟨found, .codeUnit collected none 1 _⟩ [hexDigit c.toNat] = _
      rw [List.foldlM_cons, scan?_codeUnit_last (hexValue?_hexDigit _) (by omega), code,
        Char.ofNat_toNat]
      rfl
    · rename_i printable
      simp only [List.foldlM_cons, Scanner.scan?, if_neg quote, if_neg backslash,
        if_neg printable]
      rfl
  all_goals rfl

theorem scan?_escapes
    (found : List Token)
    (collected text : List Char) :
    (text.flatMap escape).foldlM Scanner.scan? ⟨found, .quoted collected⟩ =
      some ⟨found, .quoted (text.reverse ++ collected)⟩ := by
  induction text generalizing collected with
  | nil => rfl
  | cons c others inductionHypothesis =>
      rw [List.flatMap_cons, List.foldlM_append, scan?_escape]
      change (others.flatMap escape).foldlM _ _ = _
      rw [inductionHypothesis, List.reverse_cons, List.append_assoc]
      rfl

theorem Scans.text (text : String) : Scans (writeText text).toList [.text text] := by
  intro found rest _
  have collects : (writeText text).toList.foldlM Scanner.scan? ⟨found, .between⟩ =
      some ⟨.text text :: found, .between⟩ := by
    rw [writeText, String.toList_ofList, List.foldlM_append]
    change ((text.toList.flatMap escape).foldlM Scanner.scan? ⟨found, .quoted []⟩).bind _ = _
    rw [scan?_escapes]
    simp [Scanner.scan?, String.ofList_toList]
  rw [scanned?, List.foldlM_append, collects]
  rfl

/-! ## Values -/

mutual

/-- The tokens of a value. -/
def tokens : Json → List Token
  | .text value => [.text value]
  | .array items =>
      .openArray :: ([Token.comma].intercalate (itemTokens items) ++ [.closeArray])
  | .object members =>
      .openObject :: ([Token.comma].intercalate (memberTokens members) ++ [.closeObject])
  | value => [.scalar value]

/-- The tokens of several values, one by one. -/
def itemTokens : List Json → List (List Token)
  | [] => []
  | value :: rest => tokens value :: itemTokens rest

/-- The tokens of several members, one by one. -/
def memberTokens : List (String × Json) → List (List Token)
  | [] => []
  | (name, value) :: rest => (.text name :: .colon :: tokens value) :: memberTokens rest

end

mutual

/-- Whether a value can be written without loss: its numbers are in range. -/
def Legible : Json → Prop
  | .int value => -0x8000000000000000 ≤ value ∧ value < 0x10000000000000000
  | .float value => value.isFinite = true
  | .array items => LegibleItems items
  | .object members => LegibleMembers members
  | _ => True

/-- Whether several values can be written without loss. -/
def LegibleItems : List Json → Prop
  | [] => True
  | value :: rest => Legible value ∧ LegibleItems rest

/-- Whether the values of several members can be written without loss. -/
def LegibleMembers : List (String × Json) → Prop
  | [] => True
  | (_, value) :: rest => Legible value ∧ LegibleMembers rest

end

theorem legibleItems_of_forall
    {items : List Json}
    (all : ∀ item ∈ items, Legible item) :
    LegibleItems items := by
  induction items with
  | nil => trivial
  | cons item rest inductionHypothesis =>
      have ⟨first, later⟩ := List.forall_mem_cons.mp all
      exact ⟨first, inductionHypothesis later⟩

theorem legibleMembers_of_forall
    {members : List (String × Json)}
    (all : ∀ member ∈ members, Legible member.2) :
    LegibleMembers members := by
  induction members with
  | nil => trivial
  | cons member rest inductionHypothesis =>
      have ⟨first, later⟩ := List.forall_mem_cons.mp all
      exact ⟨first, inductionHypothesis later⟩

theorem Scans.intercalate
    {parts : List (List Char)}
    {tokens : List (List Token)}
    (all : List.Forall₂ Scans parts tokens) :
    Scans ([','].intercalate parts) ([Token.comma].intercalate tokens) := by
  induction all with
  | nil => exact .nil
  | cons first others inductionHypothesis =>
      cases others with
      | nil => simpa using first
      | cons _ _ =>
          rw [List.intercalate_cons_cons, List.intercalate_cons_cons, List.append_assoc,
            List.append_assoc]
          exact first.append (.mark rfl inductionHypothesis) (stops_mark rfl _)

/-- Separated parts between two marks. -/
theorem Scans.enclose
    {first last : String}
    {c d : Char}
    {opened closed : Token}
    {parts : List String}
    {tokens : List (List Token)}
    (firstMark : first.toList = [c])
    (lastMark : last.toList = [d])
    (opens : punctuation? c = some opened)
    (closes : punctuation? d = some closed)
    (all : List.Forall₂ Scans (parts.map String.toList) tokens) :
    Scans (enclose first last parts).toList
      (opened :: ([Token.comma].intercalate tokens ++ [closed])) := by
  have body : (Json.enclose first last parts).toList =
      c :: ([','].intercalate (parts.map String.toList) ++ [d]) := by
    simp [Json.enclose, String.toList_intercalate, firstMark, lastMark]
  rw [body]
  exact .mark opens ((Scans.intercalate all).append (.mark closes .nil) (stops_mark closes []))

mutual

/-- A written value is cut into its tokens. -/
theorem scans_write : (value : Json) → Legible value → Scans value.write.toList value.tokens
  | .null, _ => scans_null
  | .bool true, _ => scans_true
  | .bool false, _ => scans_false
  | .int _, legible => .number (denotes_toString_int legible.1 legible.2)
  | .float _, legible => .number (denotes_write legible)
  | .text value, _ => .text value
  | .array items, legible => .enclose rfl rfl rfl rfl (scans_writeItems items legible)
  | .object members, legible => .enclose rfl rfl rfl rfl (scans_writeMembers members legible)

theorem scans_writeItems :
    (items : List Json) →
      LegibleItems items →
        List.Forall₂ Scans ((writeItems items).map String.toList) (itemTokens items)
  | [], _ => .nil
  | value :: rest, legible =>
      .cons (scans_write value legible.1) (scans_writeItems rest legible.2)

theorem scans_writeMembers :
    (members : List (String × Json)) →
      LegibleMembers members →
        List.Forall₂ Scans ((writeMembers members).map String.toList) (memberTokens members)
  | [], _ => .nil
  | (name, value) :: rest, legible => by
      have member : Scans (writeText name ++ ":" ++ write value).toList
          (.text name :: .colon :: tokens value) := by
        rw [String.toList_append, String.toList_append, List.append_assoc]
        exact (Scans.text name).append (.mark rfl (scans_write value legible.1)) (stops_mark rfl _)
      exact .cons member (scans_writeMembers rest legible.2)

end

end Resubmit.Json
