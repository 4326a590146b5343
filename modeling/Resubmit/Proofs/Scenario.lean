import Mathlib.Data.Multiset.Bind
import Resubmit.Proofs.Ledger

namespace Resubmit

/-!
# The trees of a scenario

In a scenario every item has a tree of submissions under it that can be told in advance:
the item itself, and below a submission the follow-ups that it asks for, down to the last
attempt.  Whatever the order of the answers, a flow rules on the nodes of these trees.
-/

/-- A submission of a scenario. -/
structure Node (Req Ctx : Type) where
  item : WorkItem Req Ctx
  /-- Zero for an item of the feed, and one more for each resubmission. -/
  number : UInt32
  deriving Repr, DecidableEq

variable {σ Req Resp Ctx Fault Refusal : Type}

namespace Scenario

/-- The items that the response to a node asks for. -/
def followUps
    (scenario : Scenario Req Resp Ctx Fault Refusal)
    (node : Node Req Ctx) :
    List (WorkItem Req Ctx) :=
  match scenario.respond node.item.request with
  | .error _ => []
  | .ok response =>
      match scenario.judge response node.item.context with
      | .ok (.retryWith items) => items
      | _ => []

/-- The outcome of a node, if it has one. -/
def outcome?
    (scenario : Scenario Req Resp Ctx Fault Refusal)
    (policy : Policy)
    (node : Node Req Ctx) :
    Option (Outcome Resp Ctx) :=
  match scenario.respond node.item.request with
  | .error _ => none
  | .ok response =>
      match scenario.judge response node.item.context with
      | .ok .done => some ⟨response, node.item.context, node.number + 1, false⟩
      | .ok (.retryWith (_ :: _)) =>
          if policy.maxAttempts ≤ node.number ∧ policy.exhaustion = .emitLast then
            some ⟨response, node.item.context, node.number + 1, true⟩
          else
            none
      | _ => none

/-- The error of a node, if it is faulty. -/
def error?
    (scenario : Scenario Req Resp Ctx Fault Refusal)
    (policy : Policy)
    (node : Node Req Ctx) :
    Option (FlowError Fault Refusal) :=
  match scenario.respond node.item.request with
  | .error fault => some (.stage fault)
  | .ok response =>
      match scenario.judge response node.item.context with
      | .error refusal => some (.classifier refusal)
      | .ok (.retryWith (_ :: _)) =>
          if node.number = policy.maxAttempts ∧ policy.exhaustion = .fail then
            some (.exhausted (node.number + 1))
          else
            none
      | _ => none

theorem toNat_succ
    {number maxAttempts : UInt32}
    (within : number < maxAttempts) :
    (number + 1).toNat = number.toNat + 1 := by
  have below := UInt32.lt_iff_toNat_lt.mp within
  have bounded := maxAttempts.toNat_lt
  rw [UInt32.toNat_add]
  exact Nat.mod_eq_of_lt (by simp; omega)

/-- A node and all that come of it, down to the last attempt. -/
def under
    (scenario : Scenario Req Resp Ctx Fault Refusal)
    (maxAttempts : UInt32)
    (node : Node Req Ctx) :
    List (Node Req Ctx) :=
  if within : node.number < maxAttempts then
    node ::
      (scenario.followUps node).flatMap fun item =>
        under scenario maxAttempts ⟨item, node.number + 1⟩
  else
    [node]
termination_by maxAttempts.toNat - node.number.toNat
decreasing_by
  have below := UInt32.lt_iff_toNat_lt.mp within
  rw [toNat_succ within]
  omega

/-- All nodes of a scenario. -/
def forest
    (scenario : Scenario Req Resp Ctx Fault Refusal)
    (maxAttempts : UInt32) :
    List (Node Req Ctx) :=
  scenario.items.flatMap fun item => scenario.under maxAttempts ⟨item, 0⟩

/-- The nodes right below a node. -/
def children
    (scenario : Scenario Req Resp Ctx Fault Refusal)
    (maxAttempts : UInt32)
    (node : Node Req Ctx) :
    List (Node Req Ctx) :=
  if node.number < maxAttempts then
    (scenario.followUps node).map fun item => ⟨item, node.number + 1⟩
  else
    []

variable {scenario : Scenario Req Resp Ctx Fault Refusal}

/-- Under a node are the node itself and what is under its children. -/
theorem under_eq (maxAttempts : UInt32) (node : Node Req Ctx) :
    scenario.under maxAttempts node =
      node :: (scenario.children maxAttempts node).flatMap (scenario.under maxAttempts) := by
  rw [under, children]
  split
  · rw [List.flatMap_map]
  · rfl

theorem number_le_of_mem_under
    {maxAttempts : UInt32}
    {node other : Node Req Ctx}
    (within : node.number ≤ maxAttempts)
    (member : other ∈ scenario.under maxAttempts node) :
    other.number ≤ maxAttempts := by
  fun_induction under scenario maxAttempts node with
  | case1 node below inductionHypothesis =>
      rcases List.mem_cons.mp member with rfl | deeper
      · exact within
      · obtain ⟨item, _, found⟩ := List.mem_flatMap.mp deeper
        refine inductionHypothesis item ?_ found
        rw [UInt32.le_iff_toNat_le, toNat_succ below]
        exact UInt32.lt_iff_toNat_lt.mp below
  | case2 node below =>
      cases List.mem_singleton.mp member
      exact within

theorem number_le_of_mem_forest
    {maxAttempts : UInt32}
    {node : Node Req Ctx}
    (member : node ∈ scenario.forest maxAttempts) :
    node.number ≤ maxAttempts := by
  obtain ⟨item, _, found⟩ := List.mem_flatMap.mp member
  exact number_le_of_mem_under (UInt32.zero_le) found

end Scenario

/-! ## Runs that follow a scenario -/

/-- An attempt as a node. -/
def Attempt.node (attempt : Attempt Req Ctx) : Node Req Ctx :=
  ⟨attempt.item, attempt.number⟩

/-- What was ruled on, as a node. -/
def Ruling.node (ruling : Ruling Req Resp Ctx Fault Refusal) : Node Req Ctx :=
  ruling.submission.attempt.node

namespace Scenario

/-- A journal in which the feed, the stage and the classifier go by the scenario. -/
structure Played
    (scenario : Scenario Req Resp Ctx Fault Refusal)
    (events : List (Event Req Resp Ctx Fault Refusal)) :
    Prop where
  /-- The feed offers the items in order. -/
  fed : Journal.pulled events <+: scenario.items
  /-- The feed does not end before it has offered them all. -/
  drained :
    ∀ now, .feedAsked now .ended ∈ events → Journal.pulled events = scenario.items
  /-- The stage answers a submission by its request. -/
  answered :
    ∀ answer ∈ Journal.answers events,
      answer.2 = scenario.respond answer.1.attempt.item.request
  /-- The classifier judges by the response and the context. -/
  judged :
    ∀ judgement ∈ Journal.judgements events,
      judgement.verdict =
        scenario.judge judgement.response judgement.submission.attempt.item.context

/-- The stage and the classifier of the surroundings go by the scenario. -/
structure Abides
    (scenario : Scenario Req Resp Ctx Fault Refusal)
    (env : Surroundings σ Req Resp Ctx Fault Refusal) :
    Prop where
  stage :
    ∀ {submission : Submission Req Ctx} {answer : Except Fault Resp},
      submission.AnsweredBy env answer →
      answer = scenario.respond submission.attempt.item.request
  classifier :
    ∀ {judgement : Judgement Req Resp Ctx Refusal},
      judgement.GivenBy env →
      judgement.verdict =
        scenario.judge judgement.response judgement.submission.attempt.item.context

/-- Prompt surroundings go by their scenario. -/
theorem abides_prompt (scenario : Scenario Req Resp Ctx Fault Refusal) :
    scenario.Abides (Surroundings.prompt scenario) where
  stage := by
    rintro submission answer ⟨offered, inFlight, completion, collected, rfl, rfl⟩
    cases inFlight with
    | nil => cases collected
    | cons oldest others =>
        cases collected
        rfl
  classifier := by
    rintro judgement ⟨offered, given⟩
    exact given.symm

/-- Whether the ruling is the one of the scenario. -/
def Rules (scenario : Scenario Req Resp Ctx Fault Refusal) :
    Ruling Req Resp Ctx Fault Refusal →
    Prop
  | .failed submission fault =>
      scenario.respond submission.attempt.item.request = .error fault
  | .judged judgement =>
      scenario.respond judgement.submission.attempt.item.request = .ok judgement.response ∧
        scenario.judge judgement.response judgement.submission.attempt.item.context =
          judgement.verdict

namespace Rules

variable {scenario : Scenario Req Resp Ctx Fault Refusal}
variable {ruling : Ruling Req Resp Ctx Fault Refusal}

theorem followUps_eq
    (rules : scenario.Rules ruling)
    (maxAttempts : UInt32) :
    (ruling.followUps maxAttempts).map Attempt.node =
      scenario.children maxAttempts ruling.node := by
  cases ruling with
  | failed submission fault =>
      simp only [Rules] at rules
      simp [Ruling.followUps, children, followUps, Ruling.node, Ruling.submission,
        Attempt.node, rules]
  | judged judgement =>
      obtain ⟨submission, response, verdict⟩ := judgement
      obtain ⟨answered, judged⟩ := rules
      simp only at answered judged
      by_cases within : submission.attempt.number < maxAttempts <;>
        rcases verdict with refusal | _ | items <;>
        simp [Ruling.followUps, Judgement.followUps, children, followUps, Ruling.node,
          Ruling.submission, Attempt.node, Attempt.followUp, answered, judged, within]

theorem outcome?_eq
    (rules : scenario.Rules ruling)
    (policy : Policy) :
    (ruling.consequence policy).outcome? = scenario.outcome? policy ruling.node := by
  cases ruling with
  | failed submission fault =>
      simp only [Rules] at rules
      simp [Ruling.consequence, Consequence.outcome?, outcome?, Ruling.node,
        Ruling.submission, Attempt.node, rules]
  | judged judgement =>
      obtain ⟨submission, response, verdict⟩ := judgement
      obtain ⟨answered, judged⟩ := rules
      simp only at answered judged
      by_cases within : submission.attempt.number < policy.maxAttempts <;>
        cases choice : policy.exhaustion <;>
        rcases verdict with refusal | _ | (_ | ⟨first, others⟩) <;>
        simp [Ruling.consequence, Judgement.consequence, Consequence.outcome?, outcome?,
          Ruling.node, Ruling.submission, Submission.outcome, Attempt.node, answered, judged,
          within, choice]

theorem error?_eq
    (rules : scenario.Rules ruling)
    (policy : Policy)
    (within : ruling.node.number ≤ policy.maxAttempts) :
    (ruling.consequence policy).error? = scenario.error? policy ruling.node := by
  cases ruling with
  | failed submission fault =>
      simp only [Rules] at rules
      simp [Ruling.consequence, Consequence.error?, error?, Ruling.node,
        Ruling.submission, Attempt.node, rules]
  | judged judgement =>
      obtain ⟨submission, response, verdict⟩ := judgement
      obtain ⟨answered, judged⟩ := rules
      simp only at answered judged
      have spent :
          submission.attempt.number = policy.maxAttempts ↔
            ¬ submission.attempt.number < policy.maxAttempts := by
        rw [UInt32.not_lt]
        constructor
        · intro same
          exact UInt32.le_of_eq same.symm
        · intro least
          exact UInt32.le_antisymm within least
      by_cases below : submission.attempt.number < policy.maxAttempts <;>
        cases choice : policy.exhaustion <;>
        rcases verdict with refusal | _ | (_ | ⟨first, others⟩) <;>
        simp [Ruling.consequence, Judgement.consequence, Consequence.error?, error?,
          Ruling.node, Ruling.submission, Attempt.node, answered, judged, below, choice,
          spent]

end Rules

end Scenario

/-- The attempts that a ruling adds to the work, in whatever order. -/
def Ruling.brood
    (maxAttempts : UInt32)
    (ruling : Ruling Req Resp Ctx Fault Refusal) :
    Multiset (Attempt Req Ctx) :=
  ruling.followUps maxAttempts

/-- What has entered came from the feed or is a follow-up. -/
theorem Journal.entered_eq
    (maxAttempts : UInt32)
    (events : List (Event Req Resp Ctx Fault Refusal)) :
    (entered maxAttempts events : Multiset (Attempt Req Ctx)) =
      (pulled events : Multiset (WorkItem Req Ctx)).map Attempt.fresh +
        (Multiset.ofList (rulings events)).bind (Ruling.brood maxAttempts) := by
  induction events with
  | nil => rfl
  | cons event rest inductionHypothesis =>
      have first :
          (event.enters maxAttempts : Multiset (Attempt Req Ctx)) =
            (event.pulled?.toList : Multiset (WorkItem Req Ctx)).map Attempt.fresh +
              (Multiset.ofList event.ruling?.toList).bind (Ruling.brood maxAttempts) := by
        cases event with
        | feedAsked _ offer =>
            cases offer <;> simp [Event.enters, Event.pulled?, Event.ruling?]
        | answered _ _ answer =>
            cases answer <;>
              simp [Event.enters, Event.pulled?, Event.ruling?, Ruling.brood,
                Ruling.followUps]
        | judged =>
            simp [Event.enters, Event.pulled?, Event.ruling?, Ruling.brood,
              Ruling.followUps]
        | _ => simp [Event.enters, Event.pulled?, Event.ruling?]
      have pulledSplit : pulled (event :: rest) = event.pulled?.toList ++ pulled rest := by
        unfold pulled
        cases shown : event.pulled? <;> simp [shown]
      have rulingsSplit : rulings (event :: rest) = event.ruling?.toList ++ rulings rest := by
        unfold rulings
        cases shown : event.ruling? <;> simp [shown]
      have split :
          entered maxAttempts (event :: rest) =
            event.enters maxAttempts ++ entered maxAttempts rest :=
        List.flatMap_cons
      rw [split, pulledSplit, rulingsSplit, ← Multiset.coe_add, ← Multiset.coe_add,
        ← Multiset.coe_add, Multiset.map_add, Multiset.add_bind, first,
        inductionHypothesis]
      abel

namespace Scenario

/-- What is under an attempt, in whatever order. -/
def tree
    (scenario : Scenario Req Resp Ctx Fault Refusal)
    (maxAttempts : UInt32)
    (attempt : Attempt Req Ctx) :
    Multiset (Node Req Ctx) :=
  scenario.under maxAttempts attempt.node

/-- Under a submission that has been ruled on are its node and what is under its follow-ups. -/
theorem Rules.tree_eq
    {scenario : Scenario Req Resp Ctx Fault Refusal}
    {ruling : Ruling Req Resp Ctx Fault Refusal}
    (rules : scenario.Rules ruling)
    (maxAttempts : UInt32) :
    scenario.tree maxAttempts ruling.submission.attempt =
      ruling.node ::ₘ
        (ruling.brood maxAttempts).bind (scenario.tree maxAttempts) := by
  have below :
      (ruling.brood maxAttempts).bind (scenario.tree maxAttempts) =
        ↑((scenario.children maxAttempts ruling.node).flatMap
          (scenario.under maxAttempts)) := by
    rw [← rules.followUps_eq, List.flatMap_map, ← Multiset.coe_bind]
    rfl
  rw [below, Multiset.cons_coe, ← under_eq]
  rfl

section Covering

variable {scenario : Scenario Req Resp Ctx Fault Refusal}
variable {env : Surroundings σ Req Resp Ctx Fault Refusal}
variable {settings : Settings}
variable {random : ChaCha12}
variable {outside : σ}
variable {position : Position}
variable {run : Run σ Req Resp Ctx Fault Refusal}

namespace Played

/-- When the surroundings go by the scenario, only the feed is left to look at. -/
theorem of_abides
    (abides : scenario.Abides env)
    (reached :
      Reached env (Run.start (Flow.start settings random) outside) position run)
    (fed : Journal.pulled run.events <+: scenario.items)
    (drained :
      ∀ now, .feedAsked now .ended ∈ run.events → Journal.pulled run.events = scenario.items) :
    scenario.Played run.events where
  fed := fed
  drained := drained
  answered answer member := by
    rw [reached.answers_eq] at member
    obtain ⟨ruling, ruled, rfl⟩ := List.mem_map.mp member
    have grounded := reached.grounded ruling ruled
    cases ruling with
    | failed submission fault => exact abides.stage grounded
    | judged judgement => exact abides.stage grounded.1
  judged judgement member := by
    have grounded := reached.grounded (.judged judgement) (Journal.mem_judgements.mp member)
    exact abides.classifier grounded.2

theorem rules
    (played : scenario.Played run.events)
    (reached :
      Reached env (Run.start (Flow.start settings random) outside) position run) :
    ∀ ruling ∈ Journal.rulings run.events, scenario.Rules ruling := by
  intro ruling member
  have answered : ruling.answer = scenario.respond ruling.submission.attempt.item.request := by
    apply played.answered (ruling.submission, ruling.answer)
    rw [reached.answers_eq]
    exact List.mem_map.mpr ⟨ruling, member, rfl⟩
  cases ruling with
  | failed submission fault => exact answered.symm
  | judged judgement =>
      exact ⟨answered.symm, (played.judged judgement (Journal.mem_judgements.mpr member)).symm⟩

/--
What is under the items pulled has been ruled on, or is under work that is left to do or
was given up.

This is the balance of the work, each attempt taken with all that is under it: what is
under the follow-ups of the rulings is on both sides and cancels.
-/
theorem covers
    (played : scenario.Played run.events)
    (reached :
      Reached env (Run.start (Flow.start settings random) outside) position run) :
    ∃ lost : Multiset (Attempt Req Ctx),
      ((Journal.pulled run.events : Multiset (WorkItem Req Ctx)).map Attempt.fresh).bind
          (scenario.tree settings.policy.maxAttempts) =
        (Multiset.ofList (Journal.rulings run.events)).map Ruling.node +
          (run.flow.work + lost).bind (scenario.tree settings.policy.maxAttempts) ∧
      (¬ Journal.GaveUp run.events → lost = 0) := by
  obtain ⟨lost, total, whole⟩ := reached.work_balanced
  refine ⟨lost, ?_, whole⟩
  let trees (attempts : Multiset (Attempt Req Ctx)) : Multiset (Node Req Ctx) :=
    attempts.bind (scenario.tree settings.policy.maxAttempts)
  let rulings := Multiset.ofList (Journal.rulings run.events)
  let brood := rulings.bind (Ruling.brood settings.policy.maxAttempts)
  let fresh : Multiset (Attempt Req Ctx) :=
    (Journal.pulled run.events : Multiset (WorkItem Req Ctx)).map Attempt.fresh
  have entered :
      fresh + brood =
        run.flow.work + 0 + lost + ↑(run.events.flatMap Event.finishes) :=
    (Journal.entered_eq _ _).symm.trans total
  have finished :
      trees ↑(run.events.flatMap Event.finishes) = rulings.map Ruling.node + trees brood := by
    calc trees ↑(run.events.flatMap Event.finishes)
      _ = rulings.bind fun ruling =>
            scenario.tree settings.policy.maxAttempts ruling.submission.attempt := by
          simp only [trees, Journal.flatMap_finishes, ← Multiset.map_coe, Multiset.bind_map]
          rfl
      _ = rulings.bind fun ruling =>
            ruling.node ::ₘ trees (ruling.brood settings.policy.maxAttempts) :=
          Multiset.bind_congr fun ruling member =>
            (played.rules reached ruling member).tree_eq _
      _ = rulings.map Ruling.node + trees brood := by
          rw [Multiset.bind_cons]
          simp only [trees, brood, Multiset.bind_assoc]
  have balance : trees fresh + trees brood =
      (rulings.map Ruling.node + trees (run.flow.work + lost)) + trees brood := by
    calc trees fresh + trees brood
      _ = trees (fresh + brood) := (Multiset.add_bind ..).symm
      _ = trees (run.flow.work + lost) + trees ↑(run.events.flatMap Event.finishes) := by
          rw [entered, add_zero]
          exact Multiset.add_bind ..
      _ = (rulings.map Ruling.node + trees (run.flow.work + lost)) + trees brood := by
          rw [finished]
          abel
  exact add_right_cancel balance

end Played

end Covering

end Scenario

end Resubmit
