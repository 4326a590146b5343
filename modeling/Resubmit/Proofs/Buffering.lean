import Mathlib.Algebra.Group.Action.Defs
import Mathlib.Algebra.Order.BigOperators.Group.Multiset
import Mathlib.Algebra.Order.Ring.Nat
import Resubmit.Proofs.Lineage
import Resubmit.Proofs.WellFormed

namespace Resubmit

/-!
# How much a flow can hold

The retry capacity alone does not bound the pending retries, since the submissions in flight
may all come back as retries, each as several.  What an attempt can still come to is bounded
though, and a response uses up as much of it as its follow-ups get.  So only an item from the
feed adds to what the work of a flow can come to, and the feed is left alone when too many
retries are pending.
-/

variable {σ Req Resp Ctx Fault Refusal : Type}

/-- No response was followed by a request for more items than that. -/
def Journal.Narrow
    (width : Nat)
    (events : List (Event Req Resp Ctx Fault Refusal)) :
    Prop :=
  ∀ judgement ∈ judgements events, ∀ items,
    judgement.verdict = .ok (.retryWith items) →
    items.length ≤ width

theorem Journal.Narrow.of_append
    {width : Nat}
    {earlier later : List (Event Req Resp Ctx Fault Refusal)}
    (narrow : Narrow width (earlier ++ later)) :
    Narrow width earlier ∧ Narrow width later := by
  have split : judgements (earlier ++ later) = judgements earlier ++ judgements later := by
    simp only [judgements, rulings, List.filterMap_append]
  unfold Narrow at *
  rw [split] at narrow
  constructor
  · intro judgement member
    exact narrow judgement (List.mem_append_left _ member)
  · intro judgement member
    exact narrow judgement (List.mem_append_right _ member)

/-! ## Weights -/

namespace Attempt

/-- The number of last attempts that an attempt can come to. -/
def weight (width : Nat) (maxAttempts : UInt32) (attempt : Attempt Req Ctx) : Nat :=
  width ^ (maxAttempts.toNat - attempt.number.toNat)

/-- The weight of attempts together. -/
def totalWeight
    (width : Nat)
    (maxAttempts : UInt32)
    (attempts : Multiset (Attempt Req Ctx)) :
    Nat :=
  (attempts.map (weight width maxAttempts)).sum

variable {width : Nat}
variable {maxAttempts : UInt32}

@[simp] theorem totalWeight_singleton (attempt : Attempt Req Ctx) :
    totalWeight width maxAttempts {attempt} = attempt.weight width maxAttempts :=
  Multiset.sum_singleton _

@[simp] theorem totalWeight_add (first second : Multiset (Attempt Req Ctx)) :
    totalWeight width maxAttempts (first + second) =
      totalWeight width maxAttempts first + totalWeight width maxAttempts second := by
  simp only [totalWeight, Multiset.map_add, Multiset.sum_add]

@[simp] theorem totalWeight_coe (attempts : List (Attempt Req Ctx)) :
    totalWeight width maxAttempts (attempts : Multiset (Attempt Req Ctx)) =
      (attempts.map (weight width maxAttempts)).sum :=
  rfl

theorem weight_pos
    (maxAttempts : UInt32)
    (wide : 1 ≤ width)
    (attempt : Attempt Req Ctx) :
    1 ≤ attempt.weight width maxAttempts :=
  Nat.one_le_pow _ _ wide

/-- An attempt with some ancestors can come to less. -/
theorem weight_le_of_le
    (maxAttempts : UInt32)
    (wide : 1 ≤ width)
    {attempt : Attempt Req Ctx}
    {least : Nat}
    (older : least ≤ attempt.number.toNat) :
    attempt.weight width maxAttempts ≤ width ^ (maxAttempts.toNat - least) :=
  Nat.pow_le_pow_right wide (Nat.sub_le_sub_left older _)

/-- The weights of so many attempts, none of which is heavier than that. -/
theorem totalWeight_le
    {attempts : Multiset (Attempt Req Ctx)}
    {most : Nat}
    (light : ∀ attempt ∈ attempts, attempt.weight width maxAttempts ≤ most) :
    totalWeight width maxAttempts attempts ≤ attempts.card * most := by
  have bound :=
    Multiset.sum_le_card_nsmul (attempts.map (weight width maxAttempts)) most
  rw [Multiset.card_map, smul_eq_mul] at bound
  apply bound
  intro weight member
  obtain ⟨attempt, among, rfl⟩ := Multiset.mem_map.mp member
  exact light attempt among

theorem card_le_totalWeight
    (maxAttempts : UInt32)
    (wide : 1 ≤ width)
    (attempts : Multiset (Attempt Req Ctx)) :
    attempts.card ≤ totalWeight width maxAttempts attempts := by
  induction attempts using Multiset.induction_on with
  | empty => exact Nat.le_refl 0
  | cons attempt others inductionHypothesis =>
      have positive := weight_pos maxAttempts wide attempt
      simp only [totalWeight, Multiset.card_cons, Multiset.map_cons, Multiset.sum_cons] at *
      omega

end Attempt

section Events

variable {width : Nat}
variable {maxAttempts : UInt32}

theorem Judgement.length_followUps_le
    {judgement : Judgement Req Resp Ctx Refusal}
    (narrow :
      ∀ items, judgement.verdict = .ok (.retryWith items) → items.length ≤ width) :
    (judgement.followUps maxAttempts).length ≤ width := by
  unfold followUps
  split
  · rename_i items asked
    split
    · rw [List.length_map]
      exact narrow items asked
    · exact Nat.zero_le _
  · exact Nat.zero_le _

theorem Judgement.followUps_of_spent
    {judgement : Judgement Req Resp Ctx Refusal}
    (spent : ¬ judgement.submission.attempt.number < maxAttempts) :
    judgement.followUps maxAttempts = [] := by
  apply List.eq_nil_iff_forall_not_mem.mpr
  intro attempt member
  obtain ⟨_, _, _, _, _, within⟩ := mem_followUps member
  exact spent within

/-- The follow-ups of a response weigh no more than the attempt that it ends. -/
theorem Judgement.totalWeight_followUps_le
    (maxAttempts : UInt32)
    {judgement : Judgement Req Resp Ctx Refusal}
    (narrow :
      ∀ items, judgement.verdict = .ok (.retryWith items) → items.length ≤ width) :
    Attempt.totalWeight width maxAttempts
        (judgement.followUps maxAttempts : Multiset (Attempt Req Ctx)) ≤
      judgement.submission.attempt.weight width maxAttempts := by
  by_cases within : judgement.submission.attempt.number < maxAttempts
  · have light :
        ∀ attempt ∈ (judgement.followUps maxAttempts : Multiset (Attempt Req Ctx)),
          attempt.weight width maxAttempts ≤
            width ^ (maxAttempts.toNat - (judgement.submission.attempt.number.toNat + 1)) := by
      intro attempt member
      obtain ⟨_, _, _, _, next, _⟩ := mem_followUps (Multiset.mem_coe.mp member)
      rw [Attempt.weight, next, Scenario.toNat_succ within]
    have below := UInt32.lt_iff_toNat_lt.mp within
    have left :
        maxAttempts.toNat - judgement.submission.attempt.number.toNat =
          maxAttempts.toNat - (judgement.submission.attempt.number.toNat + 1) + 1 := by
      omega
    calc Attempt.totalWeight width maxAttempts _
      _ ≤ (judgement.followUps maxAttempts).length * _ := Attempt.totalWeight_le light
      _ ≤ width * _ := Nat.mul_le_mul_right _ (length_followUps_le narrow)
      _ = judgement.submission.attempt.weight width maxAttempts := by
          rw [Attempt.weight, left, Nat.pow_succ, Nat.mul_comm]
  · rw [followUps_of_spent within]
    exact Nat.zero_le _

/-- An event lets in no more than it ends, unless an item is taken from the feed. -/
theorem Event.totalWeight_enters_le
    (maxAttempts : UInt32)
    {event : Event Req Resp Ctx Fault Refusal}
    (unfed : event.pulled? = none)
    (narrow : Journal.Narrow width [event]) :
    Attempt.totalWeight width maxAttempts
        (event.enters maxAttempts : Multiset (Attempt Req Ctx)) ≤
      Attempt.totalWeight width maxAttempts
        (event.finishes : Multiset (Attempt Req Ctx)) := by
  cases event with
  | judged now submission response verdict =>
      have light :=
        Judgement.totalWeight_followUps_le maxAttempts
          (narrow ⟨submission, response, verdict⟩ List.mem_cons_self)
      simpa [enters, finishes, settles, ruling?, Ruling.submission] using light
  | feedAsked now offer =>
      cases offer with
      | item item => cases unfed
      | _ => exact Nat.zero_le _
  | _ => exact Nat.zero_le _

theorem Journal.totalWeight_enters_le
    (maxAttempts : UInt32)
    {events : List (Event Req Resp Ctx Fault Refusal)}
    (unfed : pulled events = [])
    (narrow : Narrow width events) :
    Attempt.totalWeight width maxAttempts
        (events.flatMap (Event.enters maxAttempts) : Multiset (Attempt Req Ctx)) ≤
      Attempt.totalWeight width maxAttempts
        (events.flatMap Event.finishes : Multiset (Attempt Req Ctx)) := by
  induction events with
  | nil => exact Nat.le_refl 0
  | cons event rest inductionHypothesis =>
      have split : Narrow width ([event] ++ rest) := narrow
      obtain ⟨narrowHere, narrowLater⟩ := split.of_append
      have none := List.filterMap_eq_nil_iff.mp unfed
      have here :=
        Event.totalWeight_enters_le maxAttempts
          (none event List.mem_cons_self) narrowHere
      have later := inductionHypothesis (List.filterMap_eq_nil_iff.mpr
        fun other member => none other (List.mem_cons_of_mem event member)) narrowLater
      simp only [List.flatMap_cons, ← Multiset.coe_add, Attempt.totalWeight_add]
      exact Nat.add_le_add here later

end Events

/-! ## The load of a flow -/

/-- The weight of everything in flight, waiting, or takeable. -/
def Flow.load (width : Nat) (flow : Flow Req Ctx) : Nat :=
  let weigh := Attempt.weight width flow.settings.policy.maxAttempts
  (flow.inFlight.map fun submission => weigh submission.attempt).sum +
    (flow.retries.scheduled.map fun entry => weigh entry.payload).sum +
    (flow.retries.ready.map fun entry => weigh entry.payload).sum

theorem Flow.load_eq (width : Nat) (flow : Flow Req Ctx) :
    flow.load width =
      Attempt.totalWeight width flow.settings.policy.maxAttempts flow.work := by
  simp only [load, work, RetryQueue.entries, Attempt.totalWeight_add, Multiset.map_add,
    Multiset.map_coe, Attempt.totalWeight_coe, List.map_map, Function.comp_def, Nat.add_assoc]

/-- What the options allow the work of a flow to come to. -/
def Settings.loadLimit (width : Nat) (settings : Settings) : Nat :=
  let maxAttempts := settings.policy.maxAttempts.toNat
  settings.parallelism * width ^ maxAttempts +
    (settings.retryCapacity - 1) * width ^ (maxAttempts - 1)

section Deeds

variable {env : Surroundings σ Req Resp Ctx Fault Refusal}
variable {station : Station}
variable {before after : Scene Req Resp Ctx Fault Refusal}
variable {next : Option (Next Resp Ctx Fault Refusal)}
variable {width : Nat}

/-- Without a new item from the feed there is nothing more to do than before. -/
theorem Deed.totalWeight_live_le
    {maxAttempts : UInt32}
    (deed : Deed env station before next after)
    (options : before.flow.settings.policy.maxAttempts = maxAttempts)
    (unfed : Journal.pulled after.events = Journal.pulled before.events)
    (narrow : Journal.Narrow width after.events) :
    Attempt.totalWeight width maxAttempts after.live ≤
      Attempt.totalWeight width maxAttempts before.live := by
  obtain ⟨new, lost, grown, settled, _⟩ := deed.work_balance
  rw [grown] at unfed narrow
  have newUnfed : Journal.pulled new = [] := by
    rw [Journal.pulled, List.filterMap_append] at unfed
    exact List.append_right_eq_self.mp unfed
  have spared :=
    Journal.totalWeight_enters_le maxAttempts newUnfed narrow.of_append.2
  have balance := congrArg (Attempt.totalWeight width maxAttempts) settled
  rw [options] at balance
  simp only [Attempt.totalWeight_add] at balance
  omega

/-- An item is taken from the feed when there is a slot and few retries are pending. -/
theorem Deed.pulled_eq_or
    (deed : Deed env station before next after) :
    Journal.pulled after.events = Journal.pulled before.events ∨
      before.flow.HasSlot ∧ ¬ before.flow.Gated ∧
        ∃ item, after.live = before.flow.work + {Attempt.fresh item} := by
  have told :=
    Flow.filterMap_told
      (Event.pulled? : Event Req Resp Ctx Fault Refusal → _)
      fun _ _ => rfl
  cases deed with
  | @pull _ _ _ _ item slot noneReady ungated =>
      right
      refine ⟨slot, ungated, item, ?_⟩
      rw [Scene.live, Flow.work_launch]
      exact add_zero _
  | _ =>
      left
      simp only [Journal.pulled, List.filterMap_append, List.filterMap_cons, List.filterMap_nil,
        List.append_nil, Event.pulled?, told]

theorem Flow.totalWeight_flying_le
    {flow : Flow Req Ctx}
    (wide : 1 ≤ width)
    (slot : flow.HasSlot)
    (attempt : Attempt Req Ctx) :
    Attempt.totalWeight width flow.settings.policy.maxAttempts
        (↑(flow.inFlight.map Submission.attempt) + {attempt}) ≤
      flow.settings.parallelism * width ^ flow.settings.policy.maxAttempts.toNat := by
  have light :
      ∀ other ∈ (↑(flow.inFlight.map Submission.attempt) + {attempt} :
          Multiset (Attempt Req Ctx)),
        other.weight width flow.settings.policy.maxAttempts ≤
          width ^ flow.settings.policy.maxAttempts.toNat := by
    intro other _
    exact Attempt.weight_le_of_le _ wide (Nat.zero_le other.number.toNat)
  apply (Attempt.totalWeight_le light).trans
  apply Nat.mul_le_mul_right
  rw [Multiset.card_add, Multiset.coe_card, List.length_map, Multiset.card_singleton]
  exact slot

/-- As long as the feed is not left alone, few retries are pending, and each is a later attempt. -/
theorem Flow.totalWeight_waiting_le
    {flow : Flow Req Ctx}
    (wide : 1 ≤ width)
    (later : ∀ entry ∈ flow.retries.entries, 1 ≤ entry.payload.number.toNat)
    (ungated : ¬ flow.Gated) :
    Attempt.totalWeight width flow.settings.policy.maxAttempts
        (flow.retries.entries.map Waiting.payload) ≤
      (flow.settings.retryCapacity - 1) *
        width ^ (flow.settings.policy.maxAttempts.toNat - 1) := by
  have room : flow.retries.size ≤ flow.settings.retryCapacity - 1 := by
    have below : ¬ flow.settings.retryCapacity ≤ flow.retries.size := fun full =>
      ungated (.inr full)
    omega
  have held : (flow.retries.entries.map Waiting.payload).card = flow.retries.size := by
    rw [Multiset.card_map, RetryQueue.entries, Multiset.card_add, Multiset.coe_card,
      Multiset.coe_card, RetryQueue.size]
  have light :
      ∀ attempt ∈ flow.retries.entries.map Waiting.payload,
        attempt.weight width flow.settings.policy.maxAttempts ≤
          width ^ (flow.settings.policy.maxAttempts.toNat - 1) := by
    intro attempt member
    obtain ⟨entry, among, rfl⟩ := Multiset.mem_map.mp member
    exact Attempt.weight_le_of_le _ wide (later entry among)
  apply (Attempt.totalWeight_le light).trans
  rw [held]
  exact Nat.mul_le_mul_right _ room

/-- Even with one more item in flight, a flow with a slot and few retries is not overloaded. -/
theorem Flow.totalWeight_work_add_fresh_le
    {flow : Flow Req Ctx}
    {events : List (Event Req Resp Ctx Fault Refusal)}
    {owed : List (Debt Req Resp Ctx)}
    (wide : 1 ≤ width)
    (numbered :
      Scene.Numbered flow.settings.policy
        (⟨flow, events, owed⟩ : Scene Req Resp Ctx Fault Refusal))
    (slot : flow.HasSlot)
    (ungated : ¬ flow.Gated)
    (item : WorkItem Req Ctx) :
    Attempt.totalWeight width flow.settings.policy.maxAttempts
        (flow.work + {Attempt.fresh item}) ≤
      flow.settings.loadLimit width := by
  have flying := Flow.totalWeight_flying_le wide slot (Attempt.fresh item)
  have waiting :=
    Flow.totalWeight_waiting_le wide (fun entry member => (numbered.waiting entry member).1) ungated
  rw [Flow.work, add_right_comm, Attempt.totalWeight_add]
  exact Nat.add_le_add flying waiting

/-- What is left to do stays within the limit as long as no response asks for too much. -/
structure Scene.Limited
    (settings : Settings)
    (width : Nat)
    (scene : Scene Req Resp Ctx Fault Refusal) :
    Prop where
  numbered : scene.Numbered settings.policy
  light :
    Journal.Narrow width scene.events →
      Attempt.totalWeight width settings.policy.maxAttempts scene.live ≤
        settings.loadLimit width

theorem Scene.Limited.of_empty
    {settings : Settings}
    {flow : Flow Req Ctx}
    {events : List (Event Req Resp Ctx Fault Refusal)}
    (noneFlying : flow.inFlight = [])
    (noneWaiting : flow.retries.entries = 0) :
    Limited settings width ⟨flow, events, []⟩ where
  numbered := .of_empty noneFlying noneWaiting
  light _ := by
    have none : (⟨flow, events, []⟩ : Scene Req Resp Ctx Fault Refusal).live = 0 := by
      rw [Scene.live, Flow.work, noneFlying, noneWaiting]
      rfl
    rw [none]
    exact Nat.zero_le _

theorem Deed.limited
    {settings : Settings}
    (wide : 1 ≤ width)
    (deed : Deed env station before next after)
    (options : before.flow.settings = settings)
    (limited : before.Limited settings width) :
    after.Limited settings width where
  numbered := deed.numbered (congrArg Settings.policy options) limited.numbered
  light narrow := by
    subst options
    rcases deed.pulled_eq_or with unfed | ⟨slot, ungated, item, fed⟩
    · obtain ⟨new, _, grown, _⟩ := deed.work_balance
      have earlier : Journal.Narrow width before.events := by
        rw [grown] at narrow
        exact narrow.of_append.1
      exact (deed.totalWeight_live_le rfl unfed narrow).trans (limited.light earlier)
    · rw [fed]
      exact Flow.totalWeight_work_add_fresh_le wide limited.numbered slot ungated item

end Deeds

/-! ## The bound -/

/-- What a flow holds at most when no response asks for more than so many items. -/
structure Buffered
    (settings : Settings)
    (width : Nat)
    (flow : Flow Req Ctx) :
    Prop where
  load :
    1 ≤ settings.policy.maxAttempts.toNat →
      flow.load width ≤
        settings.parallelism * width ^ settings.policy.maxAttempts.toNat +
          (settings.retryCapacity - 1) * width ^ (settings.policy.maxAttempts.toNat - 1)
  count :
    1 ≤ settings.policy.maxAttempts.toNat →
      flow.inFlightCount + flow.pendingCount ≤
        settings.parallelism * width ^ settings.policy.maxAttempts.toNat +
          (settings.retryCapacity - 1) * width ^ (settings.policy.maxAttempts.toNat - 1)
  /-- Without branching there is one retry at most for each submission. -/
  unbranched :
    1 ≤ settings.policy.maxAttempts.toNat →
      width = 1 →
      flow.inFlightCount + flow.pendingCount ≤
        settings.parallelism + settings.retryCapacity - 1
  /-- Without retries there is nothing to hold. -/
  passThrough :
    settings.policy.maxAttempts.toNat = 0 →
      flow.pendingCount = 0 ∧ flow.inFlightCount ≤ settings.parallelism

namespace Reached

variable {env : Surroundings σ Req Resp Ctx Fault Refusal}
variable {settings : Settings}
variable {random : ChaCha12}
variable {outside : σ}
variable {position : Position}
variable {run : Run σ Req Resp Ctx Fault Refusal}
variable {width : Nat}

theorem load_le
    (wide : 1 ≤ width)
    (reached :
      Reached env (Run.start (Flow.start settings random) outside) position run)
    (narrow : Journal.Narrow width run.events) :
    run.flow.load width ≤ settings.loadLimit width := by
  have options : run.flow.settings = settings := reached.settings_eq
  have limited :=
    reached.keeps
      (fun scene => scene.Limited settings width)
      (.of_empty rfl rfl)
      (fun _ options _ limited deed => deed.limited wide options limited)
      (fun _ => .of_empty rfl rfl)
  have within := limited.light narrow
  rw [Scene.live, Run.scene, List.map_nil, Multiset.coe_nil, add_zero] at within
  rw [Flow.load_eq, options]
  exact within

/-- Whatever the upstream offers, the work that a flow holds is bounded by its options. -/
theorem buffered
    (wide : 1 ≤ width)
    (reached :
      Reached env (Run.start (Flow.start settings random) outside) position run)
    (narrow : Journal.Narrow width run.events) :
    Buffered settings width run.flow := by
  have load := reached.load_le wide narrow
  have count : run.flow.inFlightCount + run.flow.pendingCount ≤ run.flow.load width := by
    have card :=
      Attempt.card_le_totalWeight run.flow.settings.policy.maxAttempts wide run.flow.work
    rw [← Flow.load_eq] at card
    apply Nat.le_trans _ card
    simp [Flow.work, RetryQueue.entries, Flow.inFlightCount, Flow.pendingCount, RetryQueue.size]
  have options : run.flow.settings = settings := reached.settings_eq
  constructor
  case load => exact fun _ => load
  case count => exact fun _ => count.trans load
  case unbranched =>
    intro _ single
    have total := count.trans load
    simp only [single, Settings.loadLimit, Nat.one_pow, Nat.mul_one] at total
    have room := settings.retryCapacity_pos
    omega
  case passThrough =>
    intro noRetries
    constructor
    · have none : run.flow.retries.entries = 0 := by
        apply Multiset.eq_zero_of_forall_notMem
        intro entry member
        obtain ⟨positive, allowed⟩ := reached.numbered.waiting entry member
        omega
      have size := congrArg Multiset.card none
      simpa [RetryQueue.entries, Flow.pendingCount, RetryQueue.size] using size
    · rw [← options]
      exact (reached.wellFormed (.start settings random)).slots

/-- A classifier that never asks for much leaves a narrow journal. -/
theorem narrow
    (reached :
      Reached env (Run.start (Flow.start settings random) outside) position run)
    (few :
      ∀ outside response context items,
        (env.classify outside response context).1 = .ok (.retryWith items) →
        items.length ≤ width) :
    Journal.Narrow width run.events := by
  intro judgement member items asked
  obtain ⟨outside, given⟩ :=
    (reached.grounded (.judged judgement) (Journal.mem_judgements.mp member)).2
  exact few outside _ _ items (given.trans asked)

/-- A countdown holds more than its capacity and its slots, but not more than the bound. -/
theorem buffered_countdown :
    let settings := Settings.undelayed 2 .emitLast
    let scenario := Scenario.countdown 9 [2, 1, 3]
    let (_, run) := Run.promptly settings scenario 1
    Journal.Narrow 2 run.events ∧
      Buffered settings 2 run.flow ∧
      settings.parallelism + settings.retryCapacity = 3 ∧
      run.flow.inFlightCount + run.flow.pendingCount = 4 ∧
      run.flow.load 2 = 6 ∧
      settings.loadLimit 2 = 8 := by
  have session :=
    Session.promptly (Settings.undelayed 2 .emitLast) (Scenario.countdown 9 [2, 1, 3]) 1
  have reached := session.reached (by decide +kernel)
  have narrow : Journal.Narrow 2 _ := reached.narrow fun _ response _ items asked => by
    change Except.ok (Verdict.countdown response ()) = _ at asked
    unfold Verdict.countdown at asked
    split at asked
    · cases asked
    · cases asked
      exact Nat.le_refl 2
  exact ⟨narrow, Reached.buffered (by decide) reached narrow, by decide +kernel⟩

end Reached

end Resubmit
