import Resubmit.Flow.Collect
import Resubmit.Proofs.Scenario

namespace Resubmit

/-!
# What a flow comes to

A flow that follows a scenario to its end gives out what the trees of its items say,
whatever the delays and the order of the answers.  If no node is faulty, these are all
outcomes of the trees.  Otherwise it fails with the error of one of the faulty nodes.
-/

variable {σ Req Resp Ctx Fault Refusal : Type}

section Ends

variable {env : Surroundings σ Req Resp Ctx Fault Refusal}
variable {settings : Settings}
variable {random : ChaCha12}
variable {outside : σ}
variable {replies : List (Reply Resp Ctx Fault Refusal)}
variable {run : Run σ Req Resp Ctx Fault Refusal}

theorem Flow.Drained.work_eq {flow : Flow Req Ctx} (drained : flow.Drained) :
    flow.work = 0 := by
  rw [work, RetryQueue.entries, drained.inFlight, drained.scheduled, drained.ready]
  rfl

namespace Session

/-- A session without cancelling that gave up its work gave out an error. -/
theorem error_of_gaveUp
    (session : Session env (Run.start (Flow.start settings random) outside) replies run)
    (uncancelled : .cancelled ∉ replies)
    (gaveUp : Journal.GaveUp run.events) :
    ∃ error, .error error ∈ items replies := by
  obtain ⟨reply, member, abandons⟩ := (session.gaveUp_iff rfl).mp gaveUp
  rcases Reply.eq_of_abandons abandons with rfl | ⟨error, rfl⟩
  · exact (uncancelled member).elim
  · exact ⟨error, List.mem_filterMap.mpr ⟨_, member, rfl⟩⟩

theorem filterMap_toOption
    (outcomes : List (Outcome Resp Ctx))
    (error? : Option (FlowError Fault Refusal)) :
    (outcomes.map .ok ++ (error?.map .error).toList : List (Item Resp Ctx Fault Refusal)).filterMap
        Except.toOption =
      outcomes := by
  have all :
      (outcomes.map .ok : List (Item Resp Ctx Fault Refusal)).filterMap Except.toOption =
        outcomes := by
    rw [List.filterMap_map]
    exact List.filterMap_some
  rw [List.filterMap_append, all]
  cases error? <;> simp [Except.toOption]

theorem items_of_rulings
    (session : Session env (Run.start (Flow.start settings random) outside) replies run)
    (sound : Sound replies) :
    items replies =
      (Journal.rulings run.events).filterMap fun ruling =>
        (ruling.consequence settings.policy).item? := by
  rw [← (session.reached sound).items_eq, session.items_eq]
  rfl

end Session

namespace Scenario

variable {scenario : Scenario Req Resp Ctx Fault Refusal}

namespace Played

/--
The nodes ruled on are nodes of the scenario, none of them more often than there.

A flow that has ended and kept its work has ruled on all of them.
-/
theorem forest_eq
    (played : scenario.Played run.events)
    (session : Session env (Run.start (Flow.start settings random) outside) replies run)
    (sound : Session.Sound replies)
    (ended : run.flow.terminated = true) :
    ∃ rest : Multiset (Node Req Ctx),
      (scenario.forest settings.policy.maxAttempts : Multiset (Node Req Ctx)) =
        (Multiset.ofList (Journal.rulings run.events)).map Ruling.node + rest ∧
      (¬ Journal.GaveUp run.events → rest = 0) := by
  obtain ⟨lost, covered, whole⟩ := played.covers (session.reached sound)
  obtain ⟨unpulled, complete⟩ := played.fed
  let trees (items : List (WorkItem Req Ctx)) : Multiset (Node Req Ctx) :=
    ↑(items.flatMap fun item => scenario.under settings.policy.maxAttempts ⟨item, 0⟩)
  have pulled :
      ((Journal.pulled run.events : Multiset (WorkItem Req Ctx)).map Attempt.fresh).bind
          (scenario.tree settings.policy.maxAttempts) =
        trees (Journal.pulled run.events) := by
    rw [Multiset.bind_map]
    exact Multiset.coe_bind _ _
  have split :
      trees scenario.items = trees (Journal.pulled run.events) + trees unpulled := by
    simp only [trees, ← complete, List.flatMap_append, Multiset.coe_add]
  refine
    ⟨(run.flow.work + lost).bind (scenario.tree settings.policy.maxAttempts) +
      trees unpulled, ?_, ?_⟩
  · rw [← add_assoc, ← covered, pulled]
    exact split
  · intro kept
    have feedEnded := (session.gaveUp_or_feedEnded rfl ended).resolve_left kept
    obtain ⟨now, asked⟩ := session.asked rfl feedEnded
    have none : unpulled = [] := by
      rw [played.drained now asked] at complete
      exact List.append_right_eq_self.mp complete
    rw [(session.drained rfl ended).work_eq, whole kept, none]
    rfl

theorem node_mem
    (played : scenario.Played run.events)
    (session : Session env (Run.start (Flow.start settings random) outside) replies run)
    (sound : Session.Sound replies)
    (ended : run.flow.terminated = true)
    {ruling : Ruling Req Resp Ctx Fault Refusal}
    (member : ruling ∈ Journal.rulings run.events) :
    ruling.node ∈ scenario.forest settings.policy.maxAttempts := by
  obtain ⟨rest, covered, _⟩ := played.forest_eq session sound ended
  have counted : ruling.node ∈ (Multiset.ofList (Journal.rulings run.events)).map Ruling.node :=
    Multiset.mem_map_of_mem Ruling.node member
  rw [← Multiset.mem_coe, covered]
  exact Multiset.mem_add.mpr (.inl counted)

/-- The outcomes given out are those of the nodes that were ruled on, in the same order. -/
theorem outcomes_eq
    (played : scenario.Played run.events)
    (session : Session env (Run.start (Flow.start settings random) outside) replies run)
    (sound : Session.Sound replies) :
    (Session.items replies).filterMap Except.toOption =
      ((Journal.rulings run.events).map Ruling.node).filterMap
        (scenario.outcome? settings.policy) := by
  rw [session.items_of_rulings sound, List.filterMap_filterMap, List.filterMap_map]
  refine List.filterMap_congr fun ruling member => ?_
  rw [Consequence.item?_bind_toOption]
  exact (played.rules (session.reached sound) ruling member).outcome?_eq settings.policy

theorem error?_eq
    (played : scenario.Played run.events)
    (session : Session env (Run.start (Flow.start settings random) outside) replies run)
    (sound : Session.Sound replies)
    (ended : run.flow.terminated = true)
    {ruling : Ruling Req Resp Ctx Fault Refusal}
    (member : ruling ∈ Journal.rulings run.events) :
    (ruling.consequence settings.policy).error? =
      scenario.error? settings.policy ruling.node := by
  have rules := played.rules (session.reached sound) ruling member
  exact rules.error?_eq settings.policy
    (number_le_of_mem_forest (played.node_mem session sound ended member))

/-- An error that was given out is the one of a faulty node. -/
theorem faulty_of_error
    (played : scenario.Played run.events)
    (session : Session env (Run.start (Flow.start settings random) outside) replies run)
    (sound : Session.Sound replies)
    (ended : run.flow.terminated = true)
    {error : FlowError Fault Refusal}
    (given : .error error ∈ Session.items replies) :
    ∃ node ∈ scenario.forest settings.policy.maxAttempts,
      scenario.error? settings.policy node = some error := by
  rw [session.items_of_rulings sound] at given
  obtain ⟨ruling, member, gives⟩ := List.mem_filterMap.mp given
  refine ⟨ruling.node, played.node_mem session sound ended member, ?_⟩
  rw [← played.error?_eq session sound ended member]
  exact Consequence.item?_eq_error_iff.mp gives

/-- A flow that has ended and kept its work has met no faulty node. -/
theorem sound_of_kept
    (played : scenario.Played run.events)
    (session : Session env (Run.start (Flow.start settings random) outside) replies run)
    (sound : Session.Sound replies)
    (ended : run.flow.terminated = true)
    (kept : ¬ Journal.GaveUp run.events) :
    ∀ node ∈ scenario.forest settings.policy.maxAttempts,
      scenario.error? settings.policy node = none := by
  intro node member
  obtain ⟨rest, covered, whole⟩ := played.forest_eq session sound ended
  rw [whole kept, add_zero] at covered
  rw [← Multiset.mem_coe, covered] at member
  obtain ⟨ruling, ruled, rfl⟩ := Multiset.mem_map.mp member
  rw [← played.error?_eq session sound ended ruled]
  cases consequence : ruling.consequence settings.policy with
  | fails error =>
      exact (kept ((session.reached sound).gaveUp_of_fails ruled consequence)).elim
  | _ => rfl

end Played

/--
The outcomes given out are outcomes of the scenario, none of them more often than there.

A flow that has ended and kept its work has given out all of them.
-/
theorem Played.outcomes_among
    (played : scenario.Played run.events)
    (session : Session env (Run.start (Flow.start settings random) outside) replies run)
    (sound : Session.Sound replies)
    (ended : run.flow.terminated = true) :
    let given := (Session.items replies).filterMap Except.toOption
    let told :=
      (scenario.forest settings.policy.maxAttempts).filterMap
        (scenario.outcome? settings.policy)
    (given : Multiset (Outcome Resp Ctx)) ≤ told ∧
      (¬ Journal.GaveUp run.events → given.Perm told) := by
  intro given told
  obtain ⟨rest, covered, whole⟩ := played.forest_eq session sound ended
  have ofRulings :
      (given : Multiset (Outcome Resp Ctx)) =
        Multiset.filterMap (scenario.outcome? settings.policy)
          ((Multiset.ofList (Journal.rulings run.events)).map Ruling.node) :=
    congrArg Multiset.ofList (played.outcomes_eq session sound)
  have ofForest :
      (told : Multiset (Outcome Resp Ctx)) =
        given + Multiset.filterMap (scenario.outcome? settings.policy) rest := by
    rw [ofRulings, ← Multiset.filterMap_add, ← covered]
    rfl
  constructor
  · rw [ofForest]
    exact Multiset.le_add_right _ _
  · intro kept
    rw [whole kept, Multiset.filterMap_zero, add_zero] at ofForest
    exact Multiset.coe_eq_coe.mp ofForest.symm

end Scenario

end Ends

/-! ## The reference recursion -/

/--
The outcomes of an item whose submission has the number, when nobody fails.

A response that is final is given out.  One that asks for follow-ups is given out as
exhausted when no attempt is left, and otherwise the follow-ups are settled in its place.
-/
def settle
    (maxAttempts : UInt32)
    (respond : Req → Resp)
    (judge : Resp → Ctx → Verdict Req Ctx)
    (item : WorkItem Req Ctx)
    (number : UInt32) :
    List (Outcome Resp Ctx) :=
  match judge (respond item.request) item.context with
  | .done => [⟨respond item.request, item.context, number + 1, false⟩]
  | .retryWith [] => []
  | .retryWith (first :: others) =>
      if spent : maxAttempts ≤ number then
        [⟨respond item.request, item.context, number + 1, true⟩]
      else
        (first :: others).flatMap fun followUp =>
          settle maxAttempts respond judge followUp (number + 1)
termination_by maxAttempts.toNat - number.toNat
decreasing_by
  have below := UInt32.lt_iff_toNat_lt.mp (UInt32.not_le.mp spent)
  rw [Scenario.toNat_succ (UInt32.not_le.mp spent)]
  omega

namespace Scenario

/-- The scenario of a stage and a classifier that never fail. -/
def unfailing
    (items : List (WorkItem Req Ctx))
    (respond : Req → Resp)
    (judge : Resp → Ctx → Verdict Req Ctx) :
    Scenario Req Resp Ctx Fault Refusal where
  items := items
  respond request := .ok (respond request)
  judge response context := .ok (judge response context)

variable {respond : Req → Resp}
variable {judge : Resp → Ctx → Verdict Req Ctx}

/-- What the recursion gives out for an item are the outcomes of the nodes under it. -/
theorem settle_eq
    {policy : Policy}
    (emitsLast : policy.exhaustion = .emitLast)
    (items : List (WorkItem Req Ctx))
    (item : WorkItem Req Ctx)
    (number : UInt32) :
    settle policy.maxAttempts respond judge item number =
      ((unfailing items respond judge : Scenario Req Resp Ctx Fault Refusal).under
          policy.maxAttempts ⟨item, number⟩).filterMap
        ((unfailing items respond judge : Scenario Req Resp Ctx Fault Refusal).outcome?
          policy) := by
  fun_induction settle policy.maxAttempts respond judge item number with
  | case1 item number final =>
      simp [under_eq, children, followUps, outcome?, unfailing, final]
  | case2 item number dropped =>
      simp [under_eq, children, followUps, outcome?, unfailing, dropped]
  | case3 item number first others asked spent =>
      simp [under_eq, children, outcome?, unfailing, asked, spent,
        UInt32.not_lt.mpr spent, emitsLast]
  | case4 item number first others asked spent inductionHypothesis =>
      have within := UInt32.not_le.mp spent
      have noOutcome :
          (unfailing items respond judge : Scenario Req Resp Ctx Fault Refusal).outcome?
            policy ⟨item, number⟩ = none := by
        simp [outcome?, unfailing, asked, spent]
      have below :
          (unfailing items respond judge : Scenario Req Resp Ctx Fault Refusal).children
              policy.maxAttempts ⟨item, number⟩ =
            (first :: others).map fun followUp => ⟨followUp, number + 1⟩ := by
        simp [children, followUps, unfailing, asked, within]
      rw [under_eq, List.filterMap_cons_none noOutcome, below, List.flatMap_map,
        List.filterMap_flatMap]
      congr 1
      funext followUp
      exact inductionHypothesis followUp

theorem error?_unfailing
    {policy : Policy}
    (emitsLast : policy.exhaustion = .emitLast)
    (items : List (WorkItem Req Ctx))
    (node : Node Req Ctx) :
    (unfailing items respond judge : Scenario Req Resp Ctx Fault Refusal).error?
      policy node = none := by
  rcases judged : judge (respond node.item.request) node.item.context with _ | (_ | _) <;>
    simp [error?, unfailing, judged, emitsLast]

/--
When nobody fails, a flow that ends by itself gives out what the recursion says.

It gives out no error, and the outcomes are those of the items, whatever the delays, the
parallelism, the capacity for retries, and the order and the times of the answers.
-/
theorem settles_whatever_the_schedule
    {env : Surroundings σ Req Resp Ctx Fault Refusal}
    {settings : Settings}
    {random : ChaCha12}
    {outside : σ}
    {replies : List (Reply Resp Ctx Fault Refusal)}
    {run : Run σ Req Resp Ctx Fault Refusal}
    {items : List (WorkItem Req Ctx)}
    (emitsLast : settings.policy.exhaustion = .emitLast)
    (session : Session env (Run.start (Flow.start settings random) outside) replies run)
    (sound : Session.Sound replies)
    (uncancelled : .cancelled ∉ replies)
    (ended : run.flow.terminated = true)
    (played :
      (unfailing items respond judge : Scenario Req Resp Ctx Fault Refusal).Played
        run.events) :
    ∃ outcomes : List (Outcome Resp Ctx),
      Session.items replies = outcomes.map .ok ∧
        outcomes.Perm
          (items.flatMap fun item =>
            settle settings.policy.maxAttempts respond judge item 0) := by
  have errorless (error : FlowError Fault Refusal) : .error error ∉ Session.items replies := by
    intro given
    obtain ⟨node, _, faulty⟩ := played.faulty_of_error session sound ended given
    rw [error?_unfailing emitsLast] at faulty
    cases faulty
  have kept : ¬ Journal.GaveUp run.events := by
    intro gaveUp
    obtain ⟨error, given⟩ := session.error_of_gaveUp uncancelled gaveUp
    exact errorless error given
  obtain ⟨outcomes, error?, given⟩ := session.ordered.items_eq
  have complete := (played.outcomes_among session sound ended).2 kept
  simp only [given, Session.filterMap_toOption] at complete
  refine ⟨outcomes, ?_, ?_⟩
  · cases error? with
    | none => rw [given, Option.map_none, Option.toList_none, List.append_nil]
    | some error =>
        refine (errorless error ?_).elim
        rw [given]
        exact List.mem_append_right _ (List.mem_singleton_self _)
  · refine complete.trans (List.Perm.of_eq ?_)
    rw [forest, List.filterMap_flatMap]
    congr 1
    funext item
    exact (settle_eq emitsLast items item 0).symm

/-- Countdowns are settled as the recursion says. -/
theorem settles_countdown :
    let scenario : Scenario Nat Nat Unit Unit Unit :=
      unfailing [⟨2, ()⟩, ⟨1, ()⟩, ⟨3, ()⟩] id Verdict.countdown
    let (replies, _) := Run.promptly (Settings.undelayed 2 .emitLast) scenario 9
    ∃ outcomes : List (Outcome Nat Unit),
      Session.items replies = outcomes.map .ok ∧
        outcomes.Perm
          (scenario.items.flatMap fun item => settle 2 id Verdict.countdown item 0) ∧
        (Session.items replies).length = 8 := by
  intro scenario
  have session := Session.promptly (Settings.undelayed 2 .emitLast) scenario 9
  have uncancelled :=
    Session.uncancelled_promptly (Settings.undelayed 2 .emitLast) scenario 9
  have sound :
      Session.Sound (Run.promptly (Settings.undelayed 2 .emitLast) scenario 9).1 := by
    decide +kernel
  have played :
      scenario.Played (Run.promptly (Settings.undelayed 2 .emitLast) scenario 9).2.events :=
    .of_abides (abides_prompt scenario) (session.reached sound) (by decide +kernel)
      fun _ _ => by decide +kernel
  obtain ⟨outcomes, given, settled⟩ :=
    settles_whatever_the_schedule rfl session sound uncancelled (by decide +kernel) played
  exact ⟨outcomes, given, settled, by decide +kernel⟩

end Scenario

end Resubmit
