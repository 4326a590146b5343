import Mathlib.Algebra.Ring.GeomSum
import Resubmit.Proofs.Buffering
import Resubmit.Proofs.Resubmission

namespace Resubmit

/-!
# How much a run can come to

An attempt can come to no more submissions than there are nodes in a full tree of the height
that is left to it, and to no more items given out than such a tree has leaves.  Each ruling takes
one node away and leaves the trees below it.  So what all the items from the feed can come to
covers what is left to do and whatever has been done.
-/

variable {σ Req Resp Ctx Fault Refusal : Type}

/-! ## What rulings charge -/

section Charging

variable {maxAttempts : UInt32}
variable {worth : Attempt Req Ctx → Nat}
variable {toll : Ruling Req Resp Ctx Fault Refusal → Nat}

/-- A ruling is paid for by its attempt: the follow-ups, and a toll. -/
def Ruling.Covered
    (maxAttempts : UInt32)
    (worth : Attempt Req Ctx → Nat)
    (toll : Ruling Req Resp Ctx Fault Refusal → Nat)
    (ruling : Ruling Req Resp Ctx Fault Refusal) :
    Prop :=
  ((ruling.followUps maxAttempts).map worth).sum + toll ruling ≤
    worth ruling.submission.attempt

theorem Ruling.sum_covered
    {rulings : List (Ruling Req Resp Ctx Fault Refusal)}
    (covered : ∀ ruling ∈ rulings, ruling.Covered maxAttempts worth toll) :
    ((rulings.flatMap (Ruling.followUps maxAttempts)).map worth).sum +
        (rulings.map toll).sum ≤
      (rulings.map fun ruling => worth ruling.submission.attempt).sum := by
  induction rulings with
  | nil => exact Nat.le_refl 0
  | cons ruling rest inductionHypothesis =>
      have first := covered ruling List.mem_cons_self
      have others :=
        inductionHypothesis fun other member => covered other (List.mem_cons_of_mem ruling member)
      rw [Covered] at first
      simp only [List.flatMap_cons, List.map_append, List.sum_append, List.map_cons,
        List.sum_cons]
      omega

theorem Journal.sum_entered
    (maxAttempts : UInt32)
    (worth : Attempt Req Ctx → Nat)
    (events : List (Event Req Resp Ctx Fault Refusal)) :
    ((entered maxAttempts events).map worth).sum =
      ((pulled events).map fun item => worth (Attempt.fresh item)).sum +
        (((rulings events).flatMap (Ruling.followUps maxAttempts)).map worth).sum := by
  have whole := congrArg (fun attempts => (attempts.map worth).sum)
    (entered_eq maxAttempts events)
  have later :
      (Multiset.ofList (rulings events)).bind (Ruling.brood maxAttempts) =
        ↑((rulings events).flatMap (Ruling.followUps maxAttempts)) :=
    Multiset.coe_bind _ _
  simp only [later, Multiset.map_add, Multiset.sum_add, Multiset.map_coe, Multiset.sum_coe,
    List.map_map] at whole
  exact whole

end Charging

namespace Reached

variable {env : Surroundings σ Req Resp Ctx Fault Refusal}
variable {settings : Settings}
variable {random : ChaCha12}
variable {outside : σ}
variable {position : Position}
variable {run : Run σ Req Resp Ctx Fault Refusal}

/-- What the feed gave pays for everything: what is left to do, what was lost, and every toll. -/
theorem charged
    (worth : Attempt Req Ctx → Nat)
    (toll : Ruling Req Resp Ctx Fault Refusal → Nat)
    (reached :
      Reached env (Run.start (Flow.start settings random) outside) position run)
    (covered :
      ∀ ruling ∈ Journal.rulings run.events,
        ruling.Covered settings.policy.maxAttempts worth toll) :
    ∃ left : Multiset (Attempt Req Ctx),
      (Journal.entered settings.policy.maxAttempts run.events).length =
          left.card + (Journal.rulings run.events).length ∧
        (left.map worth).sum + ((Journal.rulings run.events).map toll).sum ≤
          ((Journal.pulled run.events).map fun item => worth (Attempt.fresh item)).sum := by
  obtain ⟨lost, total, _⟩ := reached.work_balanced
  change (↑(Journal.entered settings.policy.maxAttempts run.events) :
      Multiset (Attempt Req Ctx)) =
    run.flow.work + ↑([] : List (Attempt Req Ctx)) + lost +
      ↑(run.events.flatMap Event.finishes) at total
  rw [Journal.flatMap_finishes, List.map_map, Multiset.coe_nil, add_zero] at total
  refine ⟨run.flow.work + lost, ?_, ?_⟩
  · have count := congrArg Multiset.card total
    rwa [Multiset.card_add, Multiset.coe_card, Multiset.coe_card, List.length_map] at count
  · have sum := congrArg (fun attempts => (attempts.map worth).sum) total
    have entered :=
      Journal.sum_entered settings.policy.maxAttempts worth run.events
    have paid := Ruling.sum_covered covered
    simp only [Multiset.map_add, Multiset.sum_add, Multiset.map_coe, Multiset.sum_coe,
      List.map_map] at sum ⊢
    rw [entered] at sum
    simp only [Function.comp_def] at sum
    omega

end Reached

/-! ## Submissions -/

/-- The number of submissions that an item from the feed can come to. -/
def Settings.treeSize (width : Nat) (settings : Settings) : Nat :=
  ∑ level ∈ Finset.range (settings.policy.maxAttempts.toNat + 1), width ^ level

/-- The number of submissions that an attempt can come to, itself included. -/
def Attempt.extent (width : Nat) (maxAttempts : UInt32) (attempt : Attempt Req Ctx) : Nat :=
  ∑ level ∈ Finset.range (maxAttempts.toNat - attempt.number.toNat + 1), width ^ level

section Submissions

variable {width : Nat}

theorem Attempt.extent_pos
    (width : Nat)
    (maxAttempts : UInt32)
    (attempt : Attempt Req Ctx) :
    1 ≤ attempt.extent width maxAttempts := by
  rw [extent, geom_sum_succ]
  exact Nat.le_add_left 1 _

theorem Attempt.card_le_sum_extent
    (width : Nat)
    (maxAttempts : UInt32)
    (attempts : Multiset (Attempt Req Ctx)) :
    attempts.card ≤ (attempts.map (extent width maxAttempts)).sum := by
  have bound : (attempts.map (extent width maxAttempts)).card • 1 ≤ _ :=
    Multiset.card_nsmul_le_sum fun size member => by
      obtain ⟨attempt, _, rfl⟩ := Multiset.mem_map.mp member
      exact extent_pos width maxAttempts attempt
  rwa [Multiset.card_map, smul_eq_mul, Nat.mul_one] at bound

/-- The follow-ups of a response come to one submission less than its attempt. -/
theorem Judgement.sum_extent_followUps_lt
    (maxAttempts : UInt32)
    {judgement : Judgement Req Resp Ctx Refusal}
    (narrow :
      ∀ items, judgement.verdict = .ok (.retryWith items) → items.length ≤ width) :
    ((judgement.followUps maxAttempts).map (Attempt.extent width maxAttempts)).sum + 1 ≤
      judgement.submission.attempt.extent width maxAttempts := by
  by_cases within : judgement.submission.attempt.number < maxAttempts
  · have below := UInt32.lt_iff_toNat_lt.mp within
    let left := maxAttempts.toNat - judgement.submission.attempt.number.toNat
    have same :
        ∀ size ∈ (judgement.followUps maxAttempts).map (Attempt.extent width maxAttempts),
          size ≤ ∑ level ∈ Finset.range left, width ^ level := by
      intro size member
      obtain ⟨attempt, asked, rfl⟩ := List.mem_map.mp member
      obtain ⟨_, _, _, _, next, _⟩ := mem_followUps asked
      have shorter : maxAttempts.toNat - attempt.number.toNat + 1 = left := by
        rw [next, Scenario.toNat_succ within]
        omega
      rw [Attempt.extent, shorter]
    have bound := List.sum_le_card_nsmul _ _ same
    rw [List.length_map, smul_eq_mul] at bound
    have few : (judgement.followUps maxAttempts).length ≤ width := length_followUps_le narrow
    rw [Attempt.extent, geom_sum_succ]
    exact Nat.succ_le_succ (bound.trans (Nat.mul_le_mul_right _ few))
  · rw [followUps_of_spent within]
    exact Attempt.extent_pos width maxAttempts _

theorem Ruling.covered_extent
    (maxAttempts : UInt32)
    {events : List (Event Req Resp Ctx Fault Refusal)}
    (narrow : Journal.Narrow width events)
    {ruling : Ruling Req Resp Ctx Fault Refusal}
    (ruled : ruling ∈ Journal.rulings events) :
    ruling.Covered maxAttempts (Attempt.extent width maxAttempts) fun _ => 1 := by
  cases ruling with
  | failed submission fault => exact Attempt.extent_pos width maxAttempts _
  | judged judgement =>
      exact
        judgement.sum_extent_followUps_lt maxAttempts
          (narrow judgement (Journal.mem_judgements.mpr ruled))

end Submissions

/-! ## Items -/

section Items

variable {width : Nat}

/-- How many items come of a ruling at once: one or none. -/
def Ruling.yield (policy : Policy) (ruling : Ruling Req Resp Ctx Fault Refusal) : Nat :=
  (ruling.consequence policy).item?.toList.length

/-- Nothing more is asked for by a judgement of which an item comes at once. -/
theorem Judgement.followUps_of_item
    {policy : Policy}
    {judgement : Judgement Req Resp Ctx Refusal}
    {item : Item Resp Ctx Fault Refusal}
    (given : (judgement.consequence policy).item? = some item) :
    judgement.followUps policy.maxAttempts = [] := by
  rcases judgement with ⟨submission, response, refusal | _ | (_ | ⟨first, others⟩)⟩
  case error => rfl
  case ok.done => rfl
  case ok.retryWith.nil => cases given
  case ok.retryWith.cons =>
    by_cases within : submission.attempt.number < policy.maxAttempts
    · simp [consequence, within, Consequence.item?] at given
    · exact followUps_of_spent within

theorem Ruling.covered_weight
    {policy : Policy}
    {events : List (Event Req Resp Ctx Fault Refusal)}
    (narrow : Journal.Narrow width events)
    {ruling : Ruling Req Resp Ctx Fault Refusal}
    (ruled : ruling ∈ Journal.rulings events) :
    ruling.Covered policy.maxAttempts
      (Attempt.weight (max 1 width) policy.maxAttempts) (Ruling.yield policy) := by
  have wide : 1 ≤ max 1 width := Nat.le_max_left 1 width
  cases ruling with
  | failed submission fault =>
      simp only [Covered, Ruling.followUps, Ruling.yield, Ruling.consequence]
      exact Attempt.weight_pos policy.maxAttempts wide _
  | judged judgement =>
      cases given :
          (judgement.consequence policy : Consequence Req Resp Ctx Fault Refusal).item? with
      | some item =>
          have none := Judgement.followUps_of_item given
          simp only [Covered, Ruling.followUps, Ruling.yield, Ruling.consequence, given, none]
          exact Attempt.weight_pos policy.maxAttempts wide _
      | none =>
          have wider :
              ∀ items,
                judgement.verdict = .ok (.retryWith items) → items.length ≤ max 1 width := by
            intro items asked
            have few := narrow judgement (Journal.mem_judgements.mpr ruled) items asked
            exact few.trans (Nat.le_max_right 1 width)
          have light := judgement.totalWeight_followUps_le policy.maxAttempts wider
          simp only [Covered, Ruling.yield, Ruling.consequence, given]
          exact light

end Items

/-! ## Bounds on a run -/

namespace Journal

theorem flatMap_followUps
    (maxAttempts : UInt32)
    (events : List (Event Req Resp Ctx Fault Refusal)) :
    (rulings events).flatMap (Ruling.followUps maxAttempts) =
      (judgements events).flatMap (Judgement.followUps maxAttempts) := by
  rw [judgements]
  induction rulings events with
  | nil => rfl
  | cons ruling rest inductionHypothesis =>
      rw [List.flatMap_cons, inductionHypothesis]
      cases ruling with
      | failed => rfl
      | judged => rfl

theorem length_entered
    (maxAttempts : UInt32)
    (events : List (Event Req Resp Ctx Fault Refusal)) :
    (entered maxAttempts events).length =
      (pulled events).length +
        ((judgements events).flatMap (Judgement.followUps maxAttempts)).length := by
  have counted := sum_entered maxAttempts (fun _ => 1) events
  rw [flatMap_followUps] at counted
  simpa using counted

/-- Every submission is of fresh work or of a retry. -/
theorem length_submissions (events : List (Event Req Resp Ctx Fault Refusal)) :
    (submissions events).length = (admitted events).length + (resubmitted events).length := by
  unfold resubmitted submissions admitted
  induction events with
  | nil => rfl
  | cons event rest inductionHypothesis =>
      cases event with
      | submitted now submission count =>
          cases place : submission.place <;>
            simp [Event.submission?, Event.admission?, Submission.entry?, place] <;>
            omega
      | _ =>
          simpa [List.filterMap_cons, Event.submission?, Event.admission?] using
            inductionHypothesis

theorem length_fetched (events : List (Event Req Resp Ctx Fault Refusal)) :
    (fetched events).length = (pulled events).length := by
  have same : (fetched events).map Prod.snd = pulled events := by
    rw [fetched, pulled, List.map_filterMap]
    congr 1
    funext event
    cases event with
    | feedAsked now offer => cases offer <;> rfl
    | _ => rfl
  rw [← same, List.length_map]

end Journal

theorem max_one_pow (width exponent : Nat) :
    max 1 width ^ exponent = max 1 (width ^ exponent) := by
  have mono : Monotone fun base : Nat => base ^ exponent := fun _ _ le =>
    Nat.pow_le_pow_left le exponent
  have split : max 1 width ^ exponent = max (1 ^ exponent) (width ^ exponent) := mono.map_max
  rw [split, Nat.one_pow]

namespace Reached

variable {env : Surroundings σ Req Resp Ctx Fault Refusal}
variable {settings : Settings}
variable {random : ChaCha12}
variable {outside : σ}
variable {position : Position}
variable {run : Run σ Req Resp Ctx Fault Refusal}
variable {width count : Nat}

/-- What enters a run is bounded by what the feed gives. -/
theorem length_entered_le
    (reached :
      Reached env (Run.start (Flow.start settings random) outside) position run)
    (narrow : Journal.Narrow width run.events)
    (fed : (Journal.pulled run.events).length ≤ count) :
    (Journal.entered settings.policy.maxAttempts run.events).length ≤
      count * settings.treeSize width := by
  obtain ⟨left, total, paid⟩ :=
    reached.charged _ _ fun ruling ruled =>
      ruling.covered_extent settings.policy.maxAttempts narrow ruled
  have alive := Attempt.card_le_sum_extent width settings.policy.maxAttempts left
  have ruled :
      ((Journal.rulings run.events).map fun _ => 1).sum =
        (Journal.rulings run.events).length := by
    simp
  have whole :
      ((Journal.pulled run.events).map fun item =>
          (Attempt.fresh item).extent width settings.policy.maxAttempts).sum =
        (Journal.pulled run.events).length * settings.treeSize width := by
    simp [Attempt.extent, Attempt.fresh, Settings.treeSize]
  calc (Journal.entered settings.policy.maxAttempts run.events).length
    _ = left.card + (Journal.rulings run.events).length := total
    _ ≤ (Journal.pulled run.events).length * settings.treeSize width := by omega
    _ ≤ count * settings.treeSize width := Nat.mul_le_mul_right _ fed

theorem length_scheduled_le
    (reached :
      Reached env (Run.start (Flow.start settings random) outside) position run) :
    (Journal.scheduled run.events).length ≤
      (Journal.entered settings.policy.maxAttempts run.events).length := by
  have payloads := congrArg List.length reached.scheduled_eq
  rw [List.length_map] at payloads
  rw [Journal.length_entered, payloads]
  exact Nat.le_add_left _ _

/-- Nothing is handed to the stage that has not entered. -/
theorem length_submissions_le
    (reached :
      Reached env (Run.start (Flow.start settings random) outside) position run) :
    (Journal.submissions run.events).length ≤
      (Journal.entered settings.policy.maxAttempts run.events).length := by
  have payloads := congrArg List.length reached.scheduled_eq
  have admitted := congrArg List.length reached.admitsAtOnce
  have resubmitted := Multiset.card_le_card reached.resubmitted_le
  rw [List.length_map] at payloads admitted
  rw [Journal.length_fetched] at admitted
  rw [Multiset.coe_card, Multiset.coe_card] at resubmitted
  rw [Journal.length_submissions, Journal.length_entered]
  omega

theorem length_answers_le
    (reached :
      Reached env (Run.start (Flow.start settings random) outside) position run) :
    (Journal.answers run.events).length ≤
      (Journal.entered settings.policy.maxAttempts run.events).length := by
  obtain ⟨left, total, _⟩ :=
    reached.charged (fun _ => 0) (fun _ => 0) fun ruling _ => by simp [Ruling.Covered]
  rw [reached.answers_eq, List.length_map, total]
  exact Nat.le_add_left _ _

/-- The items that a run gives out are no more than the leaves of its trees. -/
theorem length_items_le
    (reached :
      Reached env (Run.start (Flow.start settings random) outside) position run)
    (narrow : Journal.Narrow width run.events)
    (fed : (Journal.pulled run.events).length ≤ count) :
    run.items.length ≤ count * max 1 (width ^ settings.policy.maxAttempts.toNat) := by
  obtain ⟨left, _, paid⟩ :=
    reached.charged _ _ fun ruling ruled => ruling.covered_weight narrow ruled
  have given :
      run.items.length =
        ((Journal.rulings run.events).map (Ruling.yield settings.policy)).sum := by
    rw [reached.items_eq, List.filterMap_eq_flatMap_toList, List.length_flatMap]
    rfl
  have whole :
      ((Journal.pulled run.events).map fun item =>
          (Attempt.fresh item).weight (max 1 width) settings.policy.maxAttempts).sum =
        (Journal.pulled run.events).length *
          max 1 (width ^ settings.policy.maxAttempts.toNat) := by
    simp [Attempt.weight, Attempt.fresh, max_one_pow]
  calc run.items.length
    _ ≤ (Journal.pulled run.events).length *
          max 1 (width ^ settings.policy.maxAttempts.toNat) := by omega
    _ ≤ count * max 1 (width ^ settings.policy.maxAttempts.toNat) := Nat.mul_le_mul_right _ fed

end Reached

end Resubmit
