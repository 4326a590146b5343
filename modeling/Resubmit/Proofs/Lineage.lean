import Resubmit.Proofs.Scenario

namespace Resubmit

/-!
# Lineages

An attempt that is no item of the feed was asked for by the response to an earlier
submission, and that one perhaps by the response to a still earlier one.  The number of an
attempt counts these ancestors, so no lineage is longer than the attempts that the policy
allows.
-/

variable {σ Req Resp Ctx Fault Refusal : Type}

/-! ## Numbers of attempts -/

/-- Whether a follow-up may have the number: it is not the first one, nor one too many. -/
def Policy.AllowsRetry (policy : Policy) (number : UInt32) : Prop :=
  1 ≤ number.toNat ∧ number.toNat ≤ policy.maxAttempts.toNat

theorem Policy.allowsRetry_succ
    {policy : Policy}
    {number : UInt32}
    (within : number < policy.maxAttempts) :
    policy.AllowsRetry (number + 1) := by
  have below := UInt32.lt_iff_toNat_lt.mp within
  rw [AllowsRetry, Scenario.toNat_succ within]
  omega

/-- Every attempt has a number that the policy allows. -/
structure Scene.Numbered
    (policy : Policy)
    (scene : Scene Req Resp Ctx Fault Refusal) :
    Prop where
  flying :
    ∀ submission ∈ scene.flow.inFlight,
      submission.attempt.number.toNat ≤ policy.maxAttempts.toNat
  waiting : ∀ entry ∈ scene.flow.retries.entries, policy.AllowsRetry entry.payload.number
  owed : ∀ debt ∈ scene.owed, policy.AllowsRetry debt.attempt.number

namespace Scene.Numbered

variable {policy : Policy}
variable {flow rest : Flow Req Ctx}
variable {events later : List (Event Req Resp Ctx Fault Refusal)}

theorem of_empty
    (noneFlying : flow.inFlight = [])
    (noneWaiting : flow.retries.entries = 0) :
    Numbered policy ⟨flow, events, []⟩ where
  flying _ member := by
    rw [noneFlying] at member
    cases member
  waiting _ member := by
    rw [noneWaiting] at member
    exact (Multiset.notMem_zero _ member).elim
  owed _ member := nomatch member

theorem launch
    {attempt : Attempt Req Ctx}
    {place : Option Place}
    (numbered : Numbered policy ⟨flow, events, []⟩)
    (allowed : attempt.number.toNat ≤ policy.maxAttempts.toNat) :
    Numbered policy ⟨flow.launch attempt place, later, []⟩ where
  flying submission member := by
    rcases List.mem_append.mp member with earlier | new
    · exact numbered.flying submission earlier
    · cases List.mem_singleton.mp new
      exact allowed
  waiting := numbered.waiting
  owed := numbered.owed

theorem takes
    {env : Surroundings σ Req Resp Ctx Fault Refusal}
    {submission : Submission Req Ctx}
    {answer : Except Fault Resp}
    {taking : σ}
    {owed : List (Debt Req Resp Ctx)}
    (numbered : Numbered policy ⟨flow, events, []⟩)
    (taken : flow.Takes env submission answer taking rest)
    (allowed : ∀ debt ∈ owed, policy.AllowsRetry debt.attempt.number) :
    Numbered policy ⟨rest, later, owed⟩ where
  flying other member := by
    apply numbered.flying other
    rw [← Multiset.mem_coe, taken.inFlight_eq]
    exact Multiset.mem_cons_of_mem member
  waiting := by
    rw [taken.retries]
    exact numbered.waiting
  owed := allowed

theorem of_entries
    {after : Flow Req Ctx}
    (numbered : Numbered policy ⟨flow, events, []⟩)
    (flight : after.inFlight = flow.inFlight)
    (same : after.retries.entries = flow.retries.entries) :
    Numbered policy ⟨after, later, []⟩ where
  flying := by
    rw [flight]
    exact numbered.flying
  waiting := by
    rw [same]
    exact numbered.waiting
  owed := numbered.owed

end Scene.Numbered

/-- Every deed keeps the numbers within what the policy allows. -/
theorem Deed.numbered
    {env : Surroundings σ Req Resp Ctx Fault Refusal}
    {station : Station}
    {before after : Scene Req Resp Ctx Fault Refusal}
    {next : Option (Next Resp Ctx Fault Refusal)}
    {policy : Policy}
    (deed : Deed env station before next after)
    (options : before.flow.settings.policy = policy)
    (numbered : before.Numbered policy) :
    after.Numbered policy := by
  have none :
      ∀ debt ∈ ([] : List (Debt Req Resp Ctx)), policy.AllowsRetry debt.attempt.number :=
    fun _ member => nomatch member
  cases deed with
  | promote => exact numbered.of_entries rfl (RetryQueue.entries_promoteDue _ _)
  | @resubmit flow events entry retries _ _ popped =>
      have split := RetryQueue.entries_of_popReady? popped
      have allowed : policy.AllowsRetry entry.payload.number := by
        apply numbered.waiting entry
        change entry ∈ flow.retries.entries
        rw [split]
        exact Multiset.mem_cons_self entry _
      have fewer :
          Scene.Numbered policy
            (⟨{ flow with retries := retries }, events, []⟩ :
              Scene Req Resp Ctx Fault Refusal) := by
        refine ⟨numbered.flying, ?_, none⟩
        intro other member
        apply numbered.waiting other
        change other ∈ flow.retries.entries
        rw [split]
        exact Multiset.mem_cons_of_mem member
      exact fewer.launch allowed.2
  | pull => exact numbered.launch (Nat.zero_le _)
  | stageFault | refusal | exhaustionFault => exact .of_empty rfl rfl
  | done taken | dropBranch taken | exhaust taken => exact numbered.takes taken none
  | branch taken _ within =>
      apply numbered.takes taken
      intro debt member
      obtain ⟨item, _, rfl⟩ := List.mem_map.mp member
      rw [← options]
      exact Policy.allowsRetry_succ within
  | @schedule flow events debt owed _ _ entry _ _ _ scheduled =>
      obtain ⟨added, payload⟩ := RetryQueue.entries_of_schedule? scheduled
      refine ⟨numbered.flying, ?_, ?_⟩
      · intro other member
        have among := added ▸ member
        rcases Multiset.mem_cons.mp among with rfl | earlier
        · rw [payload]
          exact numbered.owed debt List.mem_cons_self
        · exact numbered.waiting other earlier
      · intro other member
        exact numbered.owed other (List.mem_cons_of_mem debt member)
  | timerFires => exact numbered.of_entries rfl (RetryQueue.entries_pollTimer _ _ _)
  | finish | wait => exact numbered.of_entries rfl (RetryQueue.entries_rearmed _)
  | leaveFeed | feedEnds | feedWaits | noAnswer | noDelay | clockOverflow | allScheduled =>
      exact ⟨numbered.flying, numbered.waiting, numbered.owed⟩

/-! ## Where attempts come from -/

/-- Whether the response was followed by a request for more. -/
def Judgement.AsksAgain (judgement : Judgement Req Resp Ctx Refusal) : Prop :=
  ∃ first others, judgement.verdict = .ok (.retryWith (first :: others))

namespace Judgement

variable {judgement : Judgement Req Resp Ctx Refusal}

theorem mem_followUps
    {maxAttempts : UInt32}
    {attempt : Attempt Req Ctx}
    (member : attempt ∈ judgement.followUps maxAttempts) :
    ∃ items,
      judgement.verdict = .ok (.retryWith items) ∧
      attempt.item ∈ items ∧
      attempt.parent = some judgement.submission.ticket ∧
      attempt.number = judgement.submission.attempt.number + 1 ∧
      judgement.submission.attempt.number < maxAttempts := by
  unfold followUps at member
  split at member
  · rename_i items asked
    split at member
    · rename_i within
      obtain ⟨item, among, rfl⟩ := List.mem_map.mp member
      exact ⟨items, asked, among, rfl, rfl, within⟩
    · cases member
  · cases member

/-- An outcome is marked as exhausted when more was asked for and no attempt was left. -/
theorem of_emits
    {policy : Policy}
    {outcome : Outcome Resp Ctx}
    (emits :
      (judgement.consequence policy : Consequence Req Resp Ctx Fault Refusal) =
        .emits outcome) :
    ∃ exhausted,
      outcome = judgement.submission.outcome judgement.response exhausted ∧
      (exhausted = true ↔ judgement.AsksAgain) ∧
      (exhausted = true → policy.maxAttempts ≤ judgement.submission.attempt.number) := by
  obtain ⟨submission, response, verdict⟩ := judgement
  rcases verdict with refusal | _ | (_ | ⟨first, others⟩)
  · cases emits
  · cases emits
    exact ⟨false, rfl, by simp [AsksAgain], by simp⟩
  · cases emits
  · by_cases within : submission.attempt.number < policy.maxAttempts
    · simp only [consequence, within, ↓reduceIte] at emits
      cases emits
    · simp only [consequence, within, ↓reduceIte] at emits
      have spent := UInt32.not_lt.mp within
      cases choice : policy.exhaustion with
      | emitLast =>
          simp only [choice] at emits
          cases emits
          exact ⟨true, rfl, by simp [AsksAgain], fun _ => spent⟩
      | fail =>
          simp only [choice] at emits
          cases emits

theorem of_exhausted
    {policy : Policy}
    {attempts : UInt32}
    (fails :
      (judgement.consequence policy : Consequence Req Resp Ctx Fault Refusal) =
        .fails (.exhausted attempts)) :
    attempts = judgement.submission.attempt.number + 1 ∧
      policy.maxAttempts ≤ judgement.submission.attempt.number := by
  obtain ⟨submission, response, verdict⟩ := judgement
  rcases verdict with refusal | _ | (_ | ⟨first, others⟩)
  · cases fails
  · cases fails
  · cases fails
  · by_cases within : submission.attempt.number < policy.maxAttempts
    · simp only [consequence, within, ↓reduceIte] at fails
      cases fails
    · simp only [consequence, within, ↓reduceIte] at fails
      cases choice : policy.exhaustion with
      | emitLast =>
          simp only [choice] at fails
          cases fails
      | fail =>
          simp only [choice] at fails
          cases fails
          exact ⟨rfl, UInt32.not_lt.mp within⟩

end Judgement

namespace Consequence

variable {consequence : Consequence Req Resp Ctx Fault Refusal}

theorem item?_eq_ok_iff {outcome : Outcome Resp Ctx} :
    consequence.item? = some (.ok outcome) ↔ consequence = .emits outcome := by
  cases consequence <;> simp [item?]

theorem error?_eq_some_iff {error : FlowError Fault Refusal} :
    consequence.error? = some error ↔ consequence = .fails error := by
  cases consequence <;> simp [error?]

end Consequence

namespace Journal

variable {maxAttempts : UInt32}
variable {events : List (Event Req Resp Ctx Fault Refusal)}
variable {attempt : Attempt Req Ctx}

/-- What has entered is an item of the feed or a follow-up. -/
theorem origin_of_entered (member : attempt ∈ entered maxAttempts events) :
    (∃ item ∈ pulled events, attempt = Attempt.fresh item) ∨
      ∃ judgement ∈ judgements events, attempt ∈ judgement.followUps maxAttempts := by
  have among : attempt ∈ (entered maxAttempts events : Multiset (Attempt Req Ctx)) := member
  rw [entered_eq] at among
  rcases Multiset.mem_add.mp among with fresh | later
  · left
    obtain ⟨item, offered, rfl⟩ := Multiset.mem_map.mp fresh
    exact ⟨item, offered, rfl⟩
  · right
    obtain ⟨ruling, ruled, asked⟩ := Multiset.mem_bind.mp later
    cases ruling with
    | failed => cases asked
    | judged judgement => exact ⟨judgement, mem_judgements.mpr ruled, asked⟩

theorem number_le_of_entered (member : attempt ∈ entered maxAttempts events) :
    attempt.number.toNat ≤ maxAttempts.toNat := by
  rcases origin_of_entered member with ⟨item, _, rfl⟩ | ⟨judgement, _, asked⟩
  · exact Nat.zero_le _
  · obtain ⟨_, _, _, _, next, within⟩ := Judgement.mem_followUps asked
    rw [next, Scenario.toNat_succ within]
    exact UInt32.lt_iff_toNat_lt.mp within

end Journal

section Deeds

variable {env : Surroundings σ Req Resp Ctx Fault Refusal}
variable {station : Station}
variable {before after : Scene Req Resp Ctx Fault Refusal}
variable {next : Option (Next Resp Ctx Fault Refusal)}

/-- All work of a flow has entered it, and so has all that was submitted. -/
structure Scene.Entered
    (maxAttempts : UInt32)
    (scene : Scene Req Resp Ctx Fault Refusal) :
    Prop where
  live : ∀ attempt ∈ scene.live, attempt ∈ Journal.entered maxAttempts scene.events
  submitted :
    ∀ submission ∈ Journal.submissions scene.events,
      submission.attempt ∈ Journal.entered maxAttempts scene.events

/-- What has just been submitted is in flight. -/
theorem Deed.submissions_subset
    (deed : Deed env station before next after) :
    ∀ submission ∈ Journal.submissions after.events,
      submission ∈ Journal.submissions before.events ∨ submission.attempt ∈ after.live := by
  have told :=
    Flow.filterMap_told
      (Event.submission? : Event Req Resp Ctx Fault Refusal → _)
      fun _ _ => rfl
  intro submission member
  unfold Journal.submissions at *
  cases deed with
  | resubmit | pull =>
      simp only [List.filterMap_append, List.filterMap_cons, List.filterMap_nil,
        Event.submission?, List.mem_append, List.mem_singleton] at member
      rcases member with earlier | rfl
      · exact .inl earlier
      · right
        rw [Scene.live, Flow.work_launch]
        simp [Flow.submissionOf]
  | _ =>
      simp only [List.filterMap_append, List.filterMap_cons, List.filterMap_nil,
        List.append_nil, Event.submission?, told] at member
      exact .inl member

theorem Deed.entered
    {maxAttempts : UInt32}
    (deed : Deed env station before next after)
    (options : before.flow.settings.policy.maxAttempts = maxAttempts)
    (entered : before.Entered maxAttempts) :
    after.Entered maxAttempts := by
  obtain ⟨new, lost, grown, settled, _⟩ := deed.work_balance
  rw [options] at settled
  have longer : Journal.entered maxAttempts after.events =
      Journal.entered maxAttempts before.events ++
        new.flatMap (Event.enters maxAttempts) := by
    rw [grown]
    exact List.flatMap_append
  have live : ∀ attempt ∈ after.live, attempt ∈ Journal.entered maxAttempts after.events := by
    intro attempt member
    have among : attempt ∈ before.live +
        (new.flatMap (Event.enters maxAttempts) : Multiset (Attempt Req Ctx)) := by
      rw [settled]
      exact Multiset.mem_add.mpr (.inl (Multiset.mem_add.mpr (.inl member)))
    rw [longer]
    rcases Multiset.mem_add.mp among with earlier | fresh
    · exact List.mem_append_left _ (entered.live attempt earlier)
    · exact List.mem_append_right _ fresh
  refine ⟨live, ?_⟩
  intro submission member
  rcases deed.submissions_subset submission member with earlier | flying
  · rw [longer]
    exact List.mem_append_left _ (entered.submitted submission earlier)
  · exact live _ flying

/-- What was judged had been submitted, as submissions are neither lost nor made up. -/
theorem Scene.Balanced.submitted_of_judged
    {scene : Scene Req Resp Ctx Fault Refusal}
    (balanced :
      scene.Balanced (fun scene => scene.flow.flight) Event.launches Event.settles)
    {judgement : Judgement Req Resp Ctx Refusal}
    (judged : judgement ∈ Journal.judgements scene.events) :
    judgement.submission ∈ Journal.submissions scene.events := by
  obtain ⟨lost, total, _⟩ := balanced
  rw [Journal.flatMap_launches, Journal.flatMap_settles] at total
  rw [← Multiset.mem_coe, total]
  apply Multiset.mem_add.mpr
  right
  exact List.mem_map.mpr ⟨.judged judgement, Journal.mem_judgements.mp judged, rfl⟩

/-- A flow that is cancelled keeps no work, and nothing is submitted then. -/
theorem Scene.Entered.cancel
    {maxAttempts : UInt32}
    {flow : Flow Req Ctx}
    {events : List (Event Req Resp Ctx Fault Refusal)}
    (entered : Scene.Entered maxAttempts ⟨flow, events, []⟩) :
    Scene.Entered maxAttempts
      ⟨flow.shutDown,
        events ++ [.cancelled flow.inFlightCount flow.pendingCount], []⟩ := by
  refine ⟨fun _ member => (Multiset.notMem_zero _ member).elim, ?_⟩
  intro submission member
  simp only [Journal.submissions, List.filterMap_append, List.filterMap_cons,
    List.filterMap_nil, List.append_nil, Event.submission?] at member
  have before := entered.submitted submission member
  simpa [Journal.entered, Event.enters] using before

end Deeds

/-! ## Chains of submissions -/

/--
The submissions that led to an attempt, the latest one first.

The first of them was made for an item of the feed, and each asked for the next one.
-/
inductive Lineage (events : List (Event Req Resp Ctx Fault Refusal)) :
    Attempt Req Ctx →
    List (Submission Req Ctx) →
    Prop where
  | root
      {attempt : Attempt Req Ctx}
      (orphan : attempt.parent = none)
      (pulled : attempt.item ∈ Journal.pulled events) :
      Lineage events attempt []
  | next
      {attempt : Attempt Req Ctx}
      {judgement : Judgement Req Resp Ctx Refusal}
      {items : List (WorkItem Req Ctx)}
      {ancestors : List (Submission Req Ctx)}
      (parent : attempt.parent = some judgement.submission.ticket)
      (submitted : judgement.submission ∈ Journal.submissions events)
      (judged : judgement ∈ Journal.judgements events)
      (asked : judgement.verdict = .ok (.retryWith items))
      (among : attempt.item ∈ items)
      (earlier : Lineage events judgement.submission.attempt ancestors) :
      Lineage events attempt (judgement.submission :: ancestors)

/-- An attempt has a lineage, and its number is that of its ancestors. -/
def Attempt.CountsAncestors
    (events : List (Event Req Resp Ctx Fault Refusal))
    (attempt : Attempt Req Ctx) :
    Prop :=
  (∃ ancestors, Lineage events attempt ancestors) ∧
    ∀ ancestors, Lineage events attempt ancestors → ancestors.length = attempt.number.toNat

namespace Reached

variable {env : Surroundings σ Req Resp Ctx Fault Refusal}
variable {settings : Settings}
variable {random : ChaCha12}
variable {outside : σ}
variable {position : Position}
variable {run : Run σ Req Resp Ctx Fault Refusal}

theorem numbered
    (reached :
      Reached env (Run.start (Flow.start settings random) outside) position run) :
    (run.scene []).Numbered settings.policy :=
  reached.keeps
    (fun scene => scene.Numbered settings.policy)
    (.of_empty rfl rfl)
    (fun _ options _ numbered deed =>
      deed.numbered (congrArg Settings.policy options) numbered)
    (fun _ => .of_empty rfl rfl)

theorem entered
    (reached :
      Reached env (Run.start (Flow.start settings random) outside) position run) :
    (run.scene []).Entered settings.policy.maxAttempts := by
  refine
    reached.keeps
      (fun scene => scene.Entered settings.policy.maxAttempts)
      ?_ ?_ ?_
  · refine ⟨fun _ member => (Multiset.notMem_zero _ member).elim, ?_⟩
    intro submission member
    cases member
  · intro station before label after _ options _ entered deed
    exact deed.entered (congrArg (fun settings => settings.policy.maxAttempts) options) entered
  · intro flow events entered
    exact entered.cancel

/-- What was judged had been submitted. -/
theorem submitted_of_judged
    (reached :
      Reached env (Run.start (Flow.start settings random) outside) position run)
    {judgement : Judgement Req Resp Ctx Refusal}
    (judged : judgement ∈ Journal.judgements run.events) :
    judgement.submission ∈ Journal.submissions run.events :=
  reached.flight_balanced.submitted_of_judged judged

/-- A submission is known by its ticket. -/
theorem eq_of_ticket_eq
    (reached :
      Reached env (Run.start (Flow.start settings random) outside) position run)
    {first second : Submission Req Ctx}
    (firstMade : first ∈ Journal.submissions run.events)
    (secondMade : second ∈ Journal.submissions run.events)
    (same : first.ticket = second.ticket) :
    first = second := by
  have distinct : ((Journal.submissions run.events).map Submission.ticket).Nodup := by
    rw [reached.tickets_eq]
    exact List.nodup_range
  exact List.inj_on_of_nodup_map distinct firstMade secondMade same

/-- Whatever has entered has a lineage; one follows it back by the numbers. -/
theorem exists_lineage
    (reached :
      Reached env (Run.start (Flow.start settings random) outside) position run)
    {attempt : Attempt Req Ctx}
    (member : attempt ∈ Journal.entered settings.policy.maxAttempts run.events) :
    ∃ ancestors, Lineage run.events attempt ancestors := by
  generalize counted : attempt.number.toNat = count
  induction count using Nat.strong_induction_on generalizing attempt with
  | _ count inductionHypothesis =>
      rcases Journal.origin_of_entered member with
        ⟨item, pulled, rfl⟩ | ⟨judgement, judged, asked⟩
      · exact ⟨[], .root rfl pulled⟩
      · obtain ⟨items, verdict, among, parent, number, within⟩ := Judgement.mem_followUps asked
        have submitted := reached.submitted_of_judged judged
        have before := reached.entered.submitted _ submitted
        have smaller : judgement.submission.attempt.number.toNat < count := by
          rw [← counted, number, Scenario.toNat_succ within]
          exact Nat.lt_succ_self _
        obtain ⟨ancestors, earlier⟩ := inductionHypothesis _ smaller before rfl
        exact ⟨_, .next parent submitted judged verdict among earlier⟩

/-- The number of an attempt is that of its ancestors, however they are traced. -/
theorem length_of_lineage
    (reached :
      Reached env (Run.start (Flow.start settings random) outside) position run)
    {attempt : Attempt Req Ctx}
    {ancestors : List (Submission Req Ctx)}
    (lineage : Lineage run.events attempt ancestors)
    (member : attempt ∈ Journal.entered settings.policy.maxAttempts run.events) :
    ancestors.length = attempt.number.toNat := by
  induction lineage with
  | root orphan _ =>
      rcases Journal.origin_of_entered member with ⟨item, _, rfl⟩ | ⟨judgement, _, asked⟩
      · rfl
      · obtain ⟨_, _, _, parent, _⟩ := Judgement.mem_followUps asked
        rw [orphan] at parent
        cases parent
  | @next attempt judgement _ ancestors parent submitted _ _ _ _ inductionHypothesis =>
      rcases Journal.origin_of_entered member with ⟨item, _, rfl⟩ | ⟨other, judged, asked⟩
      · cases parent
      · obtain ⟨_, _, _, sameParent, number, within⟩ := Judgement.mem_followUps asked
        have same : other.submission = judgement.submission := by
          apply reached.eq_of_ticket_eq (reached.submitted_of_judged judged) submitted
          rw [sameParent] at parent
          exact Option.some.inj parent
        have shorter := inductionHypothesis (reached.entered.submitted _ submitted)
        rw [number, Scenario.toNat_succ within, same, List.length_cons, shorter]

theorem countsAncestors
    (reached :
      Reached env (Run.start (Flow.start settings random) outside) position run)
    {attempt : Attempt Req Ctx}
    (member : attempt ∈ Journal.entered settings.policy.maxAttempts run.events) :
    attempt.CountsAncestors run.events :=
  ⟨reached.exists_lineage member, fun _ lineage => reached.length_of_lineage lineage member⟩

/-- No submission has a number above the allowed ones. -/
theorem number_le
    (reached :
      Reached env (Run.start (Flow.start settings random) outside) position run)
    {submission : Submission Req Ctx}
    (made : submission ∈ Journal.submissions run.events) :
    submission.attempt.number.toNat ≤ settings.policy.maxAttempts.toNat :=
  Journal.number_le_of_entered (reached.entered.submitted submission made)

/-- The count of submissions does not run over. -/
theorem toNat_number_succ
    (reached :
      Reached env (Run.start (Flow.start settings random) outside) position run)
    (below : settings.policy.maxAttempts.toNat + 1 < UInt32.size)
    {submission : Submission Req Ctx}
    (made : submission ∈ Journal.submissions run.events) :
    (submission.attempt.number + 1).toNat = submission.attempt.number.toNat + 1 := by
  have least := reached.number_le made
  have fits : submission.attempt.number.toNat + 1 < 2 ^ 32 := by
    simp only [UInt32.size] at below
    omega
  rw [UInt32.toNat_add]
  exact Nat.mod_eq_of_lt fits

theorem ruling_of_item
    (reached :
      Reached env (Run.start (Flow.start settings random) outside) position run)
    {item : Item Resp Ctx Fault Refusal}
    (given : item ∈ run.items) :
    ∃ ruling ∈ Journal.rulings run.events,
      (ruling.consequence settings.policy).item? = some item := by
  rw [reached.items_eq] at given
  exact List.mem_filterMap.mp given

/-- Every outcome comes of a judgement. -/
theorem judgement_of_outcome
    (reached :
      Reached env (Run.start (Flow.start settings random) outside) position run)
    {outcome : Outcome Resp Ctx}
    (given : .ok outcome ∈ run.items) :
    ∃ judgement ∈ Journal.judgements run.events,
      (judgement.consequence settings.policy : Consequence Req Resp Ctx Fault Refusal) =
        .emits outcome := by
  obtain ⟨ruling, ruled, gives⟩ := reached.ruling_of_item given
  cases ruling with
  | failed submission fault => cases gives
  | judged judgement =>
      refine ⟨judgement, Journal.mem_judgements.mpr ruled, ?_⟩
      exact Consequence.item?_eq_ok_iff.mp gives

/-- So does the error that tells that the attempts have run out. -/
theorem judgement_of_exhausted
    (reached :
      Reached env (Run.start (Flow.start settings random) outside) position run)
    {attempts : UInt32}
    (given : .error (.exhausted attempts) ∈ run.items) :
    ∃ judgement ∈ Journal.judgements run.events,
      (judgement.consequence settings.policy : Consequence Req Resp Ctx Fault Refusal) =
        .fails (.exhausted attempts) := by
  obtain ⟨ruling, ruled, gives⟩ := reached.ruling_of_item given
  have fails := Consequence.item?_eq_error_iff.mp gives
  cases ruling with
  | failed submission fault => cases fails
  | judged judgement =>
      refine ⟨judgement, Journal.mem_judgements.mpr ruled, ?_⟩
      exact Consequence.error?_eq_some_iff.mp fails

theorem countsAncestors_of_flying
    (reached :
      Reached env (Run.start (Flow.start settings random) outside) position run)
    {submission : Submission Req Ctx}
    (member : submission ∈ run.flow.inFlight) :
    submission.attempt.CountsAncestors run.events := by
  apply reached.countsAncestors
  apply reached.entered.live
  apply Multiset.mem_add.mpr
  left
  apply Multiset.mem_add.mpr
  left
  exact List.mem_map.mpr ⟨submission, member, rfl⟩

theorem countsAncestors_of_held
    (reached :
      Reached env (Run.start (Flow.start settings random) outside) position run)
    {entry : Waiting (Attempt Req Ctx)}
    (member : entry ∈ run.flow.retries.entries) :
    entry.payload.CountsAncestors run.events := by
  apply reached.countsAncestors
  apply reached.entered.live
  apply Multiset.mem_add.mpr
  left
  apply Multiset.mem_add.mpr
  right
  exact Multiset.mem_map.mpr ⟨entry, member, rfl⟩

end Reached

/-- What the numbers of attempts tell in a run of a flow. -/
structure AttemptAccounts
    (settings : Settings)
    (run : Run σ Req Resp Ctx Fault Refusal) :
    Prop where
  /-- A submission in flight counts its ancestors, and they are not too many. -/
  flying :
    ∀ submission ∈ run.flow.inFlight,
      submission.attempt.number.toNat ≤ settings.policy.maxAttempts.toNat ∧
        submission.attempt.CountsAncestors run.events
  /-- So does a pending retry, which has at least one. -/
  pending :
    ∀ entry ∈ run.flow.retries.scheduled ++ run.flow.retries.ready,
      1 ≤ entry.payload.number.toNat ∧
        entry.payload.number.toNat ≤ settings.policy.maxAttempts.toNat ∧
        entry.payload.CountsAncestors run.events
  /-- An outcome is the end of a lineage and counts its submissions. -/
  outcomes :
    ∀ outcome, .ok outcome ∈ run.items →
      ∃ judgement ∈ Journal.judgements run.events, ∃ ancestors,
        judgement.submission ∈ Journal.submissions run.events ∧
        judgement.submission.attempt.CountsAncestors run.events ∧
        Lineage run.events judgement.submission.attempt ancestors ∧
        outcome.response = judgement.response ∧
        outcome.context = judgement.submission.attempt.item.context ∧
        outcome.attempts.toNat = (judgement.submission :: ancestors).length ∧
        outcome.attempts.toNat ≤ settings.policy.maxAttempts.toNat + 1 ∧
        (outcome.exhausted = true ↔ judgement.AsksAgain) ∧
        (outcome.exhausted = true →
          outcome.attempts.toNat = settings.policy.maxAttempts.toNat + 1)
  /-- A flow that fails for want of attempts names their number. -/
  errors :
    ∀ attempts, .error (.exhausted attempts) ∈ run.items →
      attempts.toNat = settings.policy.maxAttempts.toNat + 1
  /-- No lineage has more submissions than the policy allows. -/
  lineages :
    ∀ submission ∈ Journal.submissions run.events, ∀ ancestors,
      Lineage run.events submission.attempt ancestors →
      (submission :: ancestors).length ≤ settings.policy.maxAttempts.toNat + 1

/-- The numbers of attempts count submissions, as long as the count fits into a word. -/
theorem Reached.attemptAccounts
    {env : Surroundings σ Req Resp Ctx Fault Refusal}
    {settings : Settings}
    {random : ChaCha12}
    {outside : σ}
    {position : Position}
    {run : Run σ Req Resp Ctx Fault Refusal}
    (below : settings.policy.maxAttempts.toNat + 1 < UInt32.size)
    (reached :
      Reached env (Run.start (Flow.start settings random) outside) position run) :
    AttemptAccounts settings run := by
  constructor
  case flying =>
    intro submission member
    exact
      ⟨reached.numbered.flying submission member, reached.countsAncestors_of_flying member⟩
  case pending =>
    intro entry member
    have held : entry ∈ run.flow.retries.entries := by
      rw [RetryQueue.entries, Multiset.coe_add]
      exact member
    obtain ⟨positive, allowed⟩ := reached.numbered.waiting entry held
    exact ⟨positive, allowed, reached.countsAncestors_of_held held⟩
  case outcomes =>
    intro outcome given
    obtain ⟨judgement, judged, emits⟩ := reached.judgement_of_outcome given
    obtain ⟨exhausted, rfl, marked, spent⟩ := Judgement.of_emits emits
    have made := reached.submitted_of_judged judged
    have least := reached.number_le made
    have counts := reached.countsAncestors (reached.entered.submitted _ made)
    obtain ⟨ancestors, lineage⟩ := counts.1
    have attempts :
        (judgement.submission.outcome judgement.response exhausted).attempts.toNat =
          judgement.submission.attempt.number.toNat + 1 :=
      reached.toNat_number_succ below made
    refine ⟨judgement, judged, ancestors, made, counts, lineage, rfl, rfl, ?_, ?_, marked, ?_⟩
    · rw [attempts, List.length_cons, counts.2 ancestors lineage]
    · rw [attempts]
      omega
    · intro isExhausted
      have most := UInt32.le_iff_toNat_le.mp (spent isExhausted)
      rw [attempts]
      omega
  case errors =>
    intro attempts given
    obtain ⟨judgement, judged, fails⟩ := reached.judgement_of_exhausted given
    obtain ⟨rfl, spent⟩ := Judgement.of_exhausted fails
    have made := reached.submitted_of_judged judged
    have least := reached.number_le made
    have most := UInt32.le_iff_toNat_le.mp spent
    rw [reached.toNat_number_succ below made]
    omega
  case lineages =>
    intro submission made ancestors lineage
    have length := reached.length_of_lineage lineage (reached.entered.submitted _ made)
    have least := reached.number_le made
    rw [List.length_cons, length]
    omega

/--
A countdown in the middle.

It asks for one attempt too many below the last number, and of the outcomes so far only the
one that comes of this is marked as exhausted.
-/
theorem Reached.attemptAccounts_countdown :
    let settings := Settings.undelayed 2 .emitLast
    let (_, run) := Run.promptly settings (Scenario.countdown 9 [2, 1, 3]) 7
    settings.policy.maxAttempts.toNat + 1 < UInt32.size ∧
      AttemptAccounts settings run ∧
      (run.flow.inFlight.map fun submission => submission.attempt.number) = [2] ∧
      run.items.filterMap (fun item => (item.toOption.map Outcome.attempts)) =
        [2, 2, 2, 3, 3, 2, 3] ∧
      run.items.filterMap (fun item => (item.toOption.map Outcome.exhausted)) =
        [false, false, false, false, false, false, true] := by
  have below : (2 : UInt32).toNat + 1 < UInt32.size := by decide
  have session :=
    Session.promptly (Settings.undelayed 2 .emitLast) (Scenario.countdown 9 [2, 1, 3]) 7
  have reached := session.reached (by decide +kernel)
  exact ⟨below, Reached.attemptAccounts below reached, by decide +kernel⟩

end Resubmit
