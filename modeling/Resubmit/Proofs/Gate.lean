import Resubmit.Policy.Encoding
import Resubmit.Proofs.Bits
import Resubmit.Proofs.Reached

namespace Resubmit

/-!
# The gate of a flow

Policies come about in several ways, and all of them but one take any values.  Flows come about
in three ways, all of which check the same rules in the same order: the first one that is broken
is told, with the values that break it, and then nothing has been done.  A flow that has got
through keeps the rules as long as it exists.
-/

open Float.Model UnpackedFloat

/-! ## How policies come about -/

namespace Policy

/-- Something that is laid down about a policy later on; this is not possible for the base delay. -/
inductive Change where
  | maxAttempts (maxAttempts : UInt32)
  | max (max : Duration)
  | jitter (jitter : Float)
  | exhaustion (exhaustion : Exhaustion)

/-- A policy after a change, which is not checked. -/
def changed (policy : Policy) : Change → Policy
  | .maxAttempts maxAttempts => { policy with maxAttempts := maxAttempts }
  | .max max => { policy with max := max }
  | .jitter jitter => { policy with jitter := jitter }
  | .exhaustion exhaustion => { policy with exhaustion := exhaustion }

/-- The ways in which a policy comes about. -/
inductive Arises : Policy → Prop where
  | exponential (base : Duration) : Arises (exponential base)
  | standard : Arises standard
  /-- It is made of parts that have been checked. -/
  | ofParts
      {maxAttempts : UInt32}
      {base max : Duration}
      {jitter : Float}
      {policy : Policy}
      (accepted : ofParts maxAttempts base max jitter = .ok policy) :
      Arises policy
  /-- It is read. -/
  | decoded
      {value : Json}
      {policy : Policy}
      (reads : decode value = .ok policy) :
      Arises policy
  | changed
      {policy : Policy}
      (arises : Arises policy)
      (change : Change) :
      Arises (policy.changed change)

/-- There is no policy that does not come about. -/
theorem arises (policy : Policy) : policy.Arises :=
  (Arises.exponential policy.base)
    |>.changed (.maxAttempts policy.maxAttempts)
    |>.changed (.max policy.max)
    |>.changed (.jitter policy.jitter)
    |>.changed (.exhaustion policy.exhaustion)

end Policy

/-! ## Rules -/

/-- A rule about the options of a flow. -/
inductive Rule where
  | delays
  | jitter
  | parallelism
  | capacity
  deriving Repr, DecidableEq

namespace Rule

/-- All rules, in the order in which they are checked. -/
def inOrder : List Rule :=
  [.delays, .jitter, .parallelism, .capacity]

theorem mem_inOrder (rule : Rule) : rule ∈ inOrder := by
  cases rule <;> decide

/-- What a rule demands. -/
def Kept (policy : Policy) (parallelism capacity : Nat) : Rule → Prop
  | .delays => policy.base ≤ policy.max
  | .jitter => 0.0 ≤ policy.jitter ∧ policy.jitter < 1.0
  | .parallelism => 1 ≤ parallelism
  | .capacity => 1 ≤ capacity

instance (policy : Policy) (parallelism capacity : Nat) (rule : Rule) :
    Decidable (rule.Kept policy parallelism capacity) :=
  match rule with
  | .delays => inferInstanceAs (Decidable (_ ≤ _))
  | .jitter => inferInstanceAs (Decidable (_ ∧ _))
  | .parallelism => inferInstanceAs (Decidable (_ ≤ _))
  | .capacity => inferInstanceAs (Decidable (_ ≤ _))

/-- The fault of breaking a rule, with the values that break it. -/
def fault (policy : Policy) : Rule → ConfigError
  | .delays => .baseExceedsMax policy.base policy.max
  | .jitter => .jitterOutOfRange policy.jitter
  | .parallelism => .zeroParallelism
  | .capacity => .zeroRetryCapacity

end Rule

/-- Whether the options of a builder keep a rule. -/
def Builder.Keeps (builder : Builder) (rule : Rule) : Prop :=
  rule.Kept builder.policy builder.parallelism builder.effectiveCapacity

instance (builder : Builder) (rule : Rule) : Decidable (builder.Keeps rule) :=
  inferInstanceAs (Decidable (rule.Kept _ _ _))

/-- Whether the options of a flow keep a rule. -/
def Settings.Keeps (settings : Settings) (rule : Rule) : Prop :=
  rule.Kept settings.policy settings.parallelism settings.retryCapacity

/-- The first rule that the options of a builder break. -/
def Builder.broken? (builder : Builder) : Option Rule :=
  Rule.inOrder.find? fun rule => ¬ builder.Keeps rule

theorem Builder.broken?_eq_none_iff {builder : Builder} :
    builder.broken? = none ↔ ∀ rule, builder.Keeps rule := by
  simp [broken?, Rule.mem_inOrder]

/-! ## What is checked -/

namespace Policy

/-- The rules of policies are checked in their order. -/
theorem fault?_eq (policy : Policy) (parallelism capacity : Nat) :
    policy.fault? =
      if Rule.delays.Kept policy parallelism capacity then
        if Rule.jitter.Kept policy parallelism capacity then none
        else some (Rule.jitter.fault policy)
      else some (Rule.delays.fault policy) := by
  unfold fault?
  by_cases ordered : policy.base ≤ policy.max
  · have inOrder : ¬ policy.max < policy.base := Nat.not_lt.mpr ordered
    have kept : Rule.delays.Kept policy parallelism capacity := ordered
    rw [if_neg inOrder, if_pos kept]
    rfl
  · have exceeds : policy.max < policy.base := Nat.not_le.mp ordered
    have broken : ¬ Rule.delays.Kept policy parallelism capacity := ordered
    rw [if_pos exceeds, if_neg broken]
    rfl

/-- A policy is made of its parts exactly if it breaks no rule. -/
theorem ofParts_eq_ok_iff {policy made : Policy} :
    ofParts policy.maxAttempts policy.base policy.max policy.jitter = .ok made ↔
      policy.fault? = none ∧ made = policy.changed (.exhaustion .emitLast) := by
  -- What happens in the end is not looked at by the check.
  have same : (policy.changed (.exhaustion .emitLast)).fault? = policy.fault? := rfl
  unfold ofParts
  dsimp only
  split
  case h_1 fault broken =>
    refine iff_of_false ?_ ?_
    · intro accepted
      cases accepted
    · rintro ⟨none, _⟩
      cases (same.trans none).symm.trans broken
  case h_2 none =>
    rw [Except.ok.injEq, and_iff_right (same.symm.trans none)]
    exact eq_comm

end Policy

/-- Settings that a builder asks for. -/
structure Settings.Follows (settings : Settings) (builder : Builder) : Prop where
  policy : settings.policy = builder.policy
  parallelism : settings.parallelism = builder.parallelism
  retryCapacity : settings.retryCapacity = builder.effectiveCapacity
  observed : settings.observed = builder.observed

theorem Settings.Follows.keeps_iff
    {settings : Settings}
    {builder : Builder}
    (follows : settings.Follows builder)
    (rule : Rule) :
    settings.Keeps rule ↔ builder.Keeps rule := by
  rw [Settings.Keeps, Builder.Keeps, follows.policy, follows.parallelism, follows.retryCapacity]

namespace Builder

variable {builder : Builder}

/-- The first rule that is broken, found by looking at one after the other. -/
theorem broken?_eq (builder : Builder) :
    builder.broken? =
      if builder.Keeps .delays then
        if builder.Keeps .jitter then
          if builder.Keeps .parallelism then
            if builder.Keeps .capacity then none else some .capacity
          else some .parallelism
        else some .jitter
      else some .delays := by
  unfold broken? Rule.inOrder
  split_ifs <;> simp [*]

theorem fault?_policy (builder : Builder) :
    builder.policy.fault? =
      if builder.Keeps .delays then
        if builder.Keeps .jitter then none
        else some (Rule.jitter.fault builder.policy)
      else some (Rule.delays.fault builder.policy) :=
  builder.policy.fault?_eq builder.parallelism builder.effectiveCapacity

/-- Options are refused for the first rule that they break, or they are accepted. -/
theorem settings_cases (builder : Builder) :
    (∃ rule,
        builder.broken? = some rule ∧
          builder.settings = .error (rule.fault builder.policy)) ∨
      builder.broken? = none ∧
        ∃ settings, builder.settings = .ok settings ∧ settings.Follows builder := by
  have checked := builder.fault?_policy
  have searched := builder.broken?_eq
  unfold settings
  split
  case h_1 fault broken =>
    left
    rw [broken] at checked
    split_ifs at checked searched with delays jitter
    case neg =>
      cases checked
      exact ⟨.jitter, searched, rfl⟩
    case neg =>
      cases checked
      exact ⟨.delays, searched, rfl⟩
  case h_2 sound =>
    rw [sound] at checked
    split_ifs at checked with delays jitter
    rw [if_pos delays, if_pos jitter] at searched
    split
    case isTrue noSlot =>
      have broken : ¬ builder.Keeps .parallelism := Nat.not_le.mpr (Nat.lt_one_iff.mpr noSlot)
      rw [if_neg broken] at searched
      exact .inl ⟨.parallelism, searched, rfl⟩
    case isFalse slot =>
      have slots : builder.Keeps .parallelism := Nat.one_le_iff_ne_zero.mpr slot
      rw [if_pos slots] at searched
      split
      case isTrue noRoom =>
        have broken : ¬ builder.Keeps .capacity := Nat.not_le.mpr (Nat.lt_one_iff.mpr noRoom)
        rw [if_neg broken] at searched
        exact .inl ⟨.capacity, searched, rfl⟩
      case isFalse room =>
        have rooms : builder.Keeps .capacity := Nat.one_le_iff_ne_zero.mpr room
        rw [if_pos rooms] at searched
        exact .inr ⟨searched, _, rfl, ⟨rfl, rfl, rfl, rfl⟩⟩

end Builder

/-! ## Accepted jitters -/

namespace Binary64

theorem toNat_toBits_div_of_isFinite_eq_false
    {number : Float.Model}
    (infinite : number.isFinite = false) :
    number.toBits.toNat / 2 ^ 52 % 2 ^ 11 = 2047 := by
  rcases unpack_cases number with ⟨all, _⟩ | ⟨_, zero⟩ | ⟨_, _, _, _, finite, _⟩
  · rw [field, toNat_unpackExponent] at all
    exact all
  · rw [Float.Model.isFinite, zero] at infinite
    cases infinite
  · rw [Float.Model.isFinite, finite] at infinite
    cases infinite

theorem within_iff {x : Float} :
    0.0 ≤ x ∧ x < 1.0 ↔
      UnpackedFloat.le (.zero .positive) x.toModel.unpack = true ∧
        UnpackedFloat.lt x.toModel.unpack
          (.finite .positive 4503599627370496 (-52) (by decide)) = true := by
  change decide (UnpackedFloat.le (.zero .positive) x.toModel.unpack = true) = true ∧
    decide (UnpackedFloat.lt x.toModel.unpack
      (.finite .positive 4503599627370496 (-52) (by decide)) = true) = true ↔ _
  rw [decide_eq_true_eq, decide_eq_true_eq]

/-- The patterns of the numbers from zero up to one are those below that of one, and minus zero. -/
theorem within_iff_toBits {x : Float} :
    0.0 ≤ x ∧ x < 1.0 ↔ x.toBits < 0x3ff0000000000000 ∨ x.toBits = 0x8000000000000000 := by
  rw [within_iff, UInt64.lt_iff_toNat_lt, ← UInt64.toNat_inj]
  change _ ↔ x.toModel.toBits.toNat < 4607182418800017408 ∨
    x.toModel.toBits.toNat = 9223372036854775808
  cases finite : x.isFinite with
  | false =>
      have field := toNat_toBits_div_of_isFinite_eq_false finite
      refine iff_of_false ?_ (by omega)
      change x.toModel.unpack.isFinite = false at finite
      rintro ⟨nonneg, below⟩
      cases unpacked : x.toModel.unpack with
      | notANumber =>
          rw [unpacked] at nonneg
          cases nonneg
      | infinity sign =>
          rw [unpacked] at nonneg below
          cases sign with
          | positive => cases below
          | negative => cases nonneg
      | zero | finite =>
          rw [unpacked] at finite
          cases finite
  | true =>
      obtain ⟨negative, m, _, ⟨_, zero⟩ | ⟨canonical, packed⟩⟩ := ofFloat_cases finite
      · rw [zero, toNat_pack_zero]
        cases negative with
        | false => exact iff_of_true ⟨rfl, rfl⟩ (by decide)
        | true => exact iff_of_true ⟨rfl, rfl⟩ (by decide)
      · rw [packed, toNat_pack canonical, unpack_pack canonical, wordOf]
        obtain ⟨pos, bits, least, most, normal, _⟩ := id canonical
        cases negative with
        | true =>
            refine iff_of_false ?_ ?_
            · rintro ⟨nonneg, _⟩
              cases nonneg
            · rw [Bool.toNat_true]
              omega
        | false =>
            have least : UnpackedFloat.le (.zero .positive)
                (.finite (signOf false) m.significand m.exponent pos) = true :=
              rfl
            rw [and_iff_right least, Bool.toNat_false]
            refine (lt_power_iff canonical (by decide)).trans ?_
            omega

theorem not_within_of_isNaN {x : Float} (noNumber : x.isNaN = true) :
    ¬ (0.0 ≤ x ∧ x < 1.0) := by
  rw [within_iff]
  change x.toModel.unpack.isNaN = true at noNumber
  rintro ⟨nonneg, _⟩
  cases unpacked : x.toModel.unpack with
  | notANumber =>
      rw [unpacked] at nonneg
      cases nonneg
  | infinity | zero | finite =>
      rw [unpacked] at noNumber
      cases noNumber

end Binary64

/-! ## The gate -/

variable {σ Req Resp Ctx Fault Refusal : Type}

namespace Construction

variable {construction : Construction}
variable {entropy : ChaCha12}

/-- A flow is refused for the first rule that its options break, or it follows them. -/
theorem build_cases
    (Req Ctx : Type)
    (construction : Construction)
    (entropy : ChaCha12) :
    (∃ rule,
        construction.options.broken? = some rule ∧
          (construction.build entropy : Except ConfigError (Flow Req Ctx)) =
            .error (rule.fault construction.options.policy)) ∨
      construction.options.broken? = none ∧
        ∃ flow : Flow Req Ctx,
          construction.build entropy = .ok flow ∧
            flow.settings.Follows construction.options := by
  rcases construction.options.settings_cases with
    ⟨rule, broken, refused⟩ | ⟨unbroken, settings, accepted, follows⟩
  · left
    refine ⟨rule, broken, ?_⟩
    rw [build, Builder.build, refused]
    rfl
  · right
    let source := (construction.options.seed.map ChaCha12.ofSeed).getD entropy
    refine ⟨unbroken, Flow.start settings source, ?_, follows⟩
    rw [build, Builder.build, accepted]
    rfl

theorem build_eq_error_iff {fault : ConfigError} :
    (construction.build entropy : Except ConfigError (Flow Req Ctx)) = .error fault ↔
      ∃ rule,
        construction.options.broken? = some rule ∧
          fault = rule.fault construction.options.policy := by
  rcases build_cases Req Ctx construction entropy with
    ⟨rule, broken, refused⟩ | ⟨unbroken, flow, built, _⟩
  · constructor
    · intro error
      exact ⟨rule, broken, Except.error.inj (error.symm.trans refused)⟩
    · rintro ⟨other, first, rfl⟩
      cases Option.some.inj (first.symm.trans broken)
      exact refused
  · constructor
    · intro error
      cases error.symm.trans built
    · rintro ⟨rule, broken, _⟩
      cases broken.symm.trans unbroken

/-- A flow that has been produced follows the options, and they keep all rules. -/
theorem of_build
    {flow : Flow Req Ctx}
    (built : construction.build entropy = .ok flow) :
    flow.settings.Follows construction.options ∧ ∀ rule, construction.options.Keeps rule := by
  rcases build_cases Req Ctx construction entropy with
    ⟨rule, broken, refused⟩ | ⟨unbroken, same, produced, follows⟩
  · cases built.symm.trans refused
  · cases Except.ok.inj (built.symm.trans produced)
    exact ⟨follows, Builder.broken?_eq_none_iff.mp unbroken⟩

theorem exists_build_iff :
    (∃ flow : Flow Req Ctx, construction.build entropy = .ok flow) ↔
      ∀ rule, construction.options.Keeps rule := by
  constructor
  · rintro ⟨flow, built⟩
    exact (of_build built).2
  · intro kept
    rcases build_cases Req Ctx construction entropy with
      ⟨rule, broken, _⟩ | ⟨_, flow, built, _⟩
    · cases broken.symm.trans (Builder.broken?_eq_none_iff.mpr kept)
    · exact ⟨flow, built⟩

/--
What can be seen after a flow has been asked for, and what has been done by then.

A flow that is refused has no run, so nothing is ever done for it.
-/
inductive Course
    (env : Surroundings σ Req Resp Ctx Fault Refusal)
    (construction : Construction)
    (entropy : ChaCha12)
    (outside : σ) :
    Except ConfigError (Run σ Req Resp Ctx Fault Refusal) →
    List (Event Req Resp Ctx Fault Refusal) →
    Prop where
  | refused
      {fault : ConfigError}
      (refused : (construction.build entropy : Except ConfigError (Flow Req Ctx)) = .error fault) :
      Course env construction entropy outside (.error fault) []
  | running
      {flow : Flow Req Ctx}
      {position : Position}
      {run : Run σ Req Resp Ctx Fault Refusal}
      (built : construction.build entropy = .ok flow)
      (reached : Reached env (Run.start flow outside) position run) :
      Course env construction entropy outside (.ok run) run.events

/-- What holds whenever a flow is asked for. -/
structure Gate
    (env : Surroundings σ Req Resp Ctx Fault Refusal)
    (construction : Construction)
    (entropy : ChaCha12)
    (outside : σ) :
    Prop where
  /-- The policy may have come about in any way. -/
  arises : construction.options.policy.Arises
  /-- Made of its parts, the policy is checked as it is for a flow. -/
  checked :
    ∀ made,
      Policy.ofParts construction.options.policy.maxAttempts construction.options.policy.base
          construction.options.policy.max construction.options.policy.jitter = .ok made ↔
        construction.options.policy.fault? = none ∧
          made = construction.options.policy.changed (.exhaustion .emitLast)
  /-- A flow is produced exactly if all rules are kept. -/
  produced :
    (∃ flow : Flow Req Ctx, construction.build entropy = .ok flow) ↔
      ∀ rule, construction.options.Keeps rule
  /-- The error is that of the first rule that is broken, with the values that break it. -/
  refused :
    ∀ fault,
      (construction.build entropy : Except ConfigError (Flow Req Ctx)) = .error fault ↔
        ∃ rule,
          construction.options.broken? = some rule ∧
            fault = rule.fault construction.options.policy
  /-- The jitters that are kept to are those of the patterns below that of one, and minus zero. -/
  jitters :
    construction.options.Keeps .jitter ↔
      construction.options.policy.jitter.toBits < 0x3ff0000000000000 ∨
        construction.options.policy.jitter.toBits = 0x8000000000000000
  /-- What is no number is refused. -/
  noNumber :
    construction.options.policy.jitter.isNaN = true → ¬ construction.options.Keeps .jitter
  /-- If a rule is broken, neither the feed nor the stage is ever asked for anything. -/
  untouched :
    ∀ rule, ¬ construction.options.Keeps rule →
      ∀ result events,
        Course env construction entropy outside result events →
        (∃ fault, result = .error fault) ∧ events = []
  /-- A flow has the options that were asked for, and keeps all rules as long as it exists. -/
  lasting :
    ∀ run events,
      Course env construction entropy outside (.ok run) events →
      run.flow.settings.Follows construction.options ∧
        ∀ rule, run.flow.settings.Keeps rule

/-- All ways of asking for a flow lead through the same gate. -/
theorem gate
    (env : Surroundings σ Req Resp Ctx Fault Refusal)
    (construction : Construction)
    (entropy : ChaCha12)
    (outside : σ) :
    Gate env construction entropy outside := by
  constructor
  case arises => exact Policy.arises _
  case checked => exact fun made => Policy.ofParts_eq_ok_iff
  case produced => exact exists_build_iff
  case refused => exact fun fault => build_eq_error_iff
  case jitters => exact Binary64.within_iff_toBits
  case noNumber => exact Binary64.not_within_of_isNaN
  case untouched =>
    intro rule broken result events course
    cases course with
    | refused refused => exact ⟨⟨_, rfl⟩, rfl⟩
    | running built => exact (broken ((of_build built).2 rule)).elim
  case lasting =>
    intro run events course
    cases course with
    | running built reached =>
        obtain ⟨follows, kept⟩ := of_build built
        have same : run.flow.settings = _ := reached.settings_eq
        rw [same]
        exact ⟨follows, fun rule => (follows.keeps_iff rule).mpr (kept rule)⟩

end Construction

end Resubmit
