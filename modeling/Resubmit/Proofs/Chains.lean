import Mathlib.Data.List.Sort
import Resubmit.Proofs.Lineage
import Resubmit.Proofs.Settlement

namespace Resubmit

/-!
# Chains of calls

When a classifier asks for one follow-up at most, the calls that are made for an item are a
chain: the first call is made for the item itself, and each later one was asked for by the one
before it.  A flow that has ended and kept its work has made the chains of the items from its
feed, and no other calls.
-/

variable {σ Req Resp Ctx Fault Refusal : Type}

/-! ## Follow-ups come later -/

/-- Whatever has asked for a submission was itself submitted before. -/
structure Scene.Aged
    (maxAttempts : UInt32)
    (scene : Scene Req Resp Ctx Fault Refusal) :
    Prop where
  entered : scene.Entered maxAttempts
  balanced : scene.Balanced (fun scene => scene.flow.flight) Event.launches Event.settles
  numbered :
    (Journal.submissions scene.events).map Submission.ticket = List.range scene.flow.nextTicket
  older :
    ∀ submission ∈ Journal.submissions scene.events,
      ∀ parent, submission.attempt.parent = some parent → parent < submission.ticket

section Deeds

variable {env : Surroundings σ Req Resp Ctx Fault Refusal}
variable {station : Station}
variable {before after : Scene Req Resp Ctx Fault Refusal}
variable {next : Option (Next Resp Ctx Fault Refusal)}
variable {maxAttempts : UInt32}

/-- What an attempt comes of has a ticket already. -/
theorem Scene.Aged.parent_lt
    (aged : before.Aged maxAttempts)
    {attempt : Attempt Req Ctx}
    {parent : Nat}
    (live : attempt ∈ before.live)
    (descends : attempt.parent = some parent) :
    parent < before.flow.nextTicket := by
  rcases Journal.origin_of_entered (aged.entered.live attempt live) with
    ⟨item, _, rfl⟩ | ⟨judgement, judged, asked⟩
  · cases descends
  · obtain ⟨_, _, _, sameParent, _⟩ := Judgement.mem_followUps asked
    cases sameParent.symm.trans descends
    have made := aged.balanced.submitted_of_judged judged
    rw [← List.mem_range, ← aged.numbered]
    exact List.mem_map_of_mem made

theorem Deed.aged
    (deed : Deed env station before next after)
    (options : before.flow.settings.policy.maxAttempts = maxAttempts)
    (aged : before.Aged maxAttempts) :
    after.Aged maxAttempts := by
  obtain ⟨_, lost, grown, settled, kept⟩ := deed.flight_balance
  have told :=
    Flow.filterMap_told
      (Event.submission? : Event Req Resp Ctx Fault Refusal → _)
      fun _ _ => rfl
  refine
    ⟨deed.entered options aged.entered, aged.balanced.after lost grown settled kept,
      deed.tickets_eq aged.numbered, ?_⟩
  intro submission member parent descends
  have older := aged.older
  unfold Journal.submissions at member older
  cases deed with
  | @resubmit flow events entry retries _ _ popped =>
      simp only [List.filterMap_append, List.filterMap_cons, List.filterMap_nil,
        Event.submission?, List.mem_append, List.mem_singleton] at member
      rcases member with earlier | rfl
      · exact older submission earlier parent descends
      · have live : entry.payload ∈ flow.work := by
          rw [Flow.work_of_popReady? popped]
          simp
        exact aged.parent_lt (Multiset.mem_add.mpr (.inl live)) descends
  | pull =>
      simp only [List.filterMap_append, List.filterMap_cons, List.filterMap_nil,
        Event.submission?, List.mem_append, List.mem_singleton] at member
      rcases member with earlier | rfl
      · exact older submission earlier parent descends
      · cases descends
  | _ =>
      simp only [List.filterMap_append, List.filterMap_cons, List.filterMap_nil,
        List.append_nil, Event.submission?, told] at member
      exact older submission member parent descends

end Deeds

/-! ## Chains -/

/-- The calls that are made for an attempt and for what is asked for by its response. -/
inductive Chain (maxAttempts : UInt32) :
    Attempt Req Ctx →
    List (Judgement Req Resp Ctx Refusal) →
    Prop where
  | last
      {judgement : Judgement Req Resp Ctx Refusal}
      (final : judgement.followUps maxAttempts = []) :
      Chain maxAttempts judgement.submission.attempt [judgement]
  | next
      {judgement : Judgement Req Resp Ctx Refusal}
      {followUp : Attempt Req Ctx}
      {later : List (Judgement Req Resp Ctx Refusal)}
      (asked : judgement.followUps maxAttempts = [followUp])
      (rest : Chain maxAttempts followUp later) :
      Chain maxAttempts judgement.submission.attempt (judgement :: later)

namespace Chain

variable {maxAttempts : UInt32}
variable {attempt : Attempt Req Ctx}
variable {calls : List (Judgement Req Resp Ctx Refusal)}

theorem exists_first (chain : Chain maxAttempts attempt calls) :
    ∃ first later, calls = first :: later ∧ first.submission.attempt = attempt := by
  cases chain with
  | last => exact ⟨_, _, rfl, rfl⟩
  | next => exact ⟨_, _, rfl, rfl⟩

/-- Only the last call has no follow-up. -/
theorem exists_last (chain : Chain maxAttempts attempt calls) :
    ∃ earlier last,
      calls = earlier ++ [last] ∧
        last.followUps maxAttempts = [] ∧
        ∀ call ∈ earlier, call.followUps maxAttempts ≠ [] := by
  induction chain with
  | last final => exact ⟨[], _, rfl, final, List.forall_mem_nil _⟩
  | @next judgement _ _ asked _ inductionHypothesis =>
      obtain ⟨earlier, last, rfl, final, further⟩ := inductionHypothesis
      refine ⟨judgement :: earlier, last, rfl, final, ?_⟩
      refine List.forall_mem_cons.mpr ⟨?_, further⟩
      rw [asked]
      exact List.cons_ne_nil _ _

/-- The calls of a chain are numbered in their order. -/
theorem pairwise_ticket
    (chain : Chain maxAttempts attempt calls)
    (older :
      ∀ call ∈ calls,
        ∀ parent, call.submission.attempt.parent = some parent → parent < call.submission.ticket) :
    (calls.map Judgement.submission).Pairwise fun a b => a.ticket < b.ticket := by
  induction chain with
  | last => exact List.pairwise_singleton _ _
  | @next judgement followUp later asked rest inductionHypothesis =>
      have sorted := inductionHypothesis fun call member =>
        older call (List.mem_cons_of_mem judgement member)
      obtain ⟨first, others, rfl, same⟩ := rest.exists_first
      obtain ⟨_, _, _, descends, _⟩ :=
        Judgement.mem_followUps (asked ▸ List.mem_singleton_self followUp)
      have next : judgement.submission.ticket < first.submission.ticket := by
        apply older first (List.mem_cons_of_mem judgement List.mem_cons_self)
        rw [same]
        exact descends
      refine List.pairwise_cons.mpr ⟨?_, sorted⟩
      intro submission member
      rcases List.mem_cons.mp member with rfl | deeper
      · exact next
      · exact next.trans ((List.pairwise_cons.mp sorted).1 submission deeper)

/-- Calls each of which was asked for by another one: there are none, as numbers go down. -/
theorem eq_zero_of_asked
    {judgements : Multiset (Judgement Req Resp Ctx Refusal)}
    (asked :
      ∀ judgement ∈ judgements,
        ∃ other ∈ judgements,
          judgement.submission.attempt ∈ other.followUps maxAttempts) :
    judgements = 0 := by
  have none (number : Nat) :
      ∀ judgement ∈ judgements, judgement.submission.attempt.number.toNat ≠ number := by
    induction number using Nat.strong_induction_on with
    | _ number inductionHypothesis =>
        intro judgement member counted
        obtain ⟨other, among, follows⟩ := asked judgement member
        obtain ⟨_, _, _, _, next, within⟩ := Judgement.mem_followUps follows
        rw [next, Scenario.toNat_succ within] at counted
        exact inductionHypothesis _ (by omega) other among rfl
  refine Multiset.eq_zero_of_forall_notMem ?_
  intro judgement member
  exact none _ judgement member rfl

/--
Calls that were made for some attempts and for what they led to fall into chains.

By induction on the number of calls: the call of the first attempt is taken away, and what it
asked for takes the place of that attempt.
-/
theorem exists_chains
    (attempts : List (Attempt Req Ctx))
    (judgements : Multiset (Judgement Req Resp Ctx Refusal))
    (single : ∀ judgement ∈ judgements, (judgement.followUps maxAttempts).length ≤ 1)
    (balance :
      Multiset.ofList attempts +
          judgements.bind (fun judgement => ↑(judgement.followUps maxAttempts)) =
        judgements.map fun judgement => judgement.submission.attempt) :
    ∃ chains : List (List (Judgement Req Resp Ctx Refusal)),
      List.Forall₂ (Chain maxAttempts) attempts chains ∧
        (↑chains.flatten : Multiset (Judgement Req Resp Ctx Refusal)) = judgements := by
  generalize counted : judgements.card = count
  induction count generalizing attempts judgements with
  | zero =>
      rw [Multiset.card_eq_zero] at counted
      subst counted
      rw [Multiset.zero_bind, add_zero, Multiset.map_zero, Multiset.coe_eq_zero] at balance
      subst balance
      exact ⟨[], .nil, rfl⟩
  | succ count inductionHypothesis =>
      cases attempts with
      | nil =>
          have none : judgements = 0 := by
            rw [Multiset.coe_nil, zero_add] at balance
            have asked (judgement) (member : judgement ∈ judgements) :
                ∃ other ∈ judgements,
                  judgement.submission.attempt ∈ other.followUps maxAttempts := by
              have follows := Multiset.mem_map_of_mem
                (fun judgement : Judgement Req Resp Ctx Refusal => judgement.submission.attempt)
                member
              rw [← balance] at follows
              exact Multiset.mem_bind.mp follows
            exact eq_zero_of_asked asked
          rw [none] at counted
          cases counted
      | cons attempt rest =>
          have among :
              attempt ∈ judgements.map fun judgement => judgement.submission.attempt := by
            rw [← balance]
            exact Multiset.mem_add.mpr (.inl List.mem_cons_self)
          obtain ⟨judgement, member, rfl⟩ := Multiset.mem_map.mp among
          obtain ⟨others, rfl⟩ := Multiset.exists_cons_of_mem member
          have fewer :
              Multiset.ofList (judgement.followUps maxAttempts ++ rest) +
                  others.bind (fun judgement => ↑(judgement.followUps maxAttempts)) =
                others.map fun judgement => judgement.submission.attempt := by
            rw [Multiset.cons_bind, Multiset.map_cons, ← Multiset.cons_coe,
              Multiset.cons_add, Multiset.cons_inj_right] at balance
            rw [← balance, ← Multiset.coe_add]
            abel
          rw [Multiset.card_cons, Nat.add_right_cancel_iff] at counted
          obtain ⟨chains, chained, whole⟩ :=
            inductionHypothesis _ others
              (fun other among => single other (Multiset.mem_cons_of_mem among)) fewer counted
          cases asked : judgement.followUps maxAttempts with
          | nil =>
              rw [asked, List.nil_append] at chained
              refine ⟨[judgement] :: chains, .cons (.last asked) chained, ?_⟩
              rw [List.flatten_cons, List.singleton_append, ← Multiset.cons_coe, whole]
          | cons followUp further =>
              have alone : further = [] := by
                have short := single judgement (Multiset.mem_cons_self judgement others)
                rw [asked, List.length_cons] at short
                exact List.eq_nil_of_length_eq_zero (by omega)
              subst alone
              rw [asked] at chained
              cases chained with
              | @cons _ later _ chains chain chained =>
                  refine ⟨(judgement :: later) :: chains, .cons (.next asked chain) chained, ?_⟩
                  rw [List.flatten_cons, List.cons_append, ← List.flatten_cons,
                    ← Multiset.cons_coe, whole]

end Chain

/-! ## The chains of a flow -/

section Ends

variable {env : Surroundings σ Req Resp Ctx Fault Refusal}
variable {settings : Settings}
variable {random : ChaCha12}
variable {outside : σ}
variable {position : Position}
variable {replies : List (Reply Resp Ctx Fault Refusal)}
variable {run : Run σ Req Resp Ctx Fault Refusal}

theorem Reached.aged
    (reached :
      Reached env (Run.start (Flow.start settings random) outside) position run) :
    (run.scene []).Aged settings.policy.maxAttempts := by
  refine
    reached.keeps
      (fun scene => scene.Aged settings.policy.maxAttempts)
      ?_ ?_ ?_
  · refine
      ⟨⟨fun _ member => (Multiset.notMem_zero _ member).elim, ?_⟩, ⟨0, rfl, fun _ => rfl⟩, rfl, ?_⟩
    · intro submission member
      cases member
    · intro submission member
      cases member
  · intro station before label after _ options _ aged deed
    exact deed.aged (congrArg (fun settings => settings.policy.maxAttempts) options) aged
  · intro flow events aged
    refine ⟨aged.entered.cancel, aged.balanced.after flow.flight rfl ?_ ?_, ?_, ?_⟩
    · simp [Flow.flight_shutDown, Event.launches, Event.submission?, Event.settles,
        Event.ruling?]
    · simp [Journal.GaveUp, Event.givesUp]
    · simpa [Journal.submissions, List.filterMap_cons, Event.submission?, Flow.shutDown]
        using aged.numbered
    · simpa [Journal.submissions, List.filterMap_cons, Event.submission?] using aged.older

namespace Session

/-- A flow that has ended and kept its work has judged all that entered, and nothing else. -/
theorem judged_all
    (session : Session env (Run.start (Flow.start settings random) outside) replies run)
    (sound : Sound replies)
    (ended : run.flow.terminated = true)
    (kept : ¬ Journal.GaveUp run.events) :
    (↑((Journal.pulled run.events).map Attempt.fresh) : Multiset (Attempt Req Ctx)) +
          (Multiset.ofList (Journal.judgements run.events)).bind
            (fun judgement => ↑(judgement.followUps settings.policy.maxAttempts)) =
        (Multiset.ofList (Journal.judgements run.events)).map
          (fun judgement => judgement.submission.attempt) ∧
      ((Journal.judgements run.events).map Judgement.submission).Perm
        (Journal.submissions run.events) := by
  have reached := session.reached sound
  have drained := session.drained rfl ended
  have rulings := reached.rulings_eq kept
  constructor
  · obtain ⟨lost, total, whole⟩ := reached.work_balanced
    cases whole kept
    change (↑(Journal.entered settings.policy.maxAttempts run.events) :
        Multiset (Attempt Req Ctx)) =
      run.flow.work + ↑([] : List (Attempt Req Ctx)) + 0 +
        ↑(run.events.flatMap Event.finishes) at total
    rw [drained.work_eq, Journal.flatMap_finishes, Journal.entered_eq, rulings] at total
    simpa [← Multiset.map_coe, Multiset.bind_map, Ruling.brood, Ruling.followUps,
      Ruling.submission, Function.comp_def] using total
  · obtain ⟨lost, total, whole⟩ := reached.flight_balanced
    cases whole kept
    change (↑(run.events.flatMap Event.launches) : Multiset (Submission Req Ctx)) =
      run.flow.flight + 0 + ↑(run.events.flatMap Event.settles) at total
    rw [Journal.flatMap_launches, Journal.flatMap_settles, rulings, List.map_map, Flow.flight,
      drained.inFlight] at total
    rw [Multiset.coe_nil, zero_add, zero_add, Multiset.coe_eq_coe] at total
    exact total.symm

/-- The calls of a flow fall into the chains of the items from its feed. -/
theorem exists_chains
    (session : Session env (Run.start (Flow.start settings random) outside) replies run)
    (sound : Sound replies)
    (ended : run.flow.terminated = true)
    (kept : ¬ Journal.GaveUp run.events)
    (single :
      ∀ judgement ∈ Journal.judgements run.events,
        (judgement.followUps settings.policy.maxAttempts).length ≤ 1) :
    ∃ chains : List (List (Judgement Req Resp Ctx Refusal)),
      List.Forall₂ (Chain settings.policy.maxAttempts)
          ((Journal.pulled run.events).map Attempt.fresh) chains ∧
        chains.flatten.Perm (Journal.judgements run.events) ∧
        ∀ calls ∈ chains,
          (calls.map Judgement.submission).Sublist (Journal.submissions run.events) := by
  have reached := session.reached sound
  obtain ⟨balance, everyOne⟩ := session.judged_all sound ended kept
  obtain ⟨chains, chained, whole⟩ := Chain.exists_chains _ _ single balance
  have calls_eq := Multiset.coe_eq_coe.mp whole
  refine ⟨chains, chained, calls_eq, ?_⟩
  intro calls member
  have made : ∀ call ∈ calls, call.submission ∈ Journal.submissions run.events := by
    intro call among
    apply reached.submitted_of_judged
    exact calls_eq.mem_iff.mp (List.mem_flatten.mpr ⟨calls, member, among⟩)
  obtain ⟨attempt, chain⟩ : ∃ attempt, Chain settings.policy.maxAttempts attempt calls := by
    obtain ⟨index, bound, rfl⟩ := List.mem_iff_getElem.mp member
    exact ⟨_, (List.forall₂_iff_get.mp chained).2 index (chained.length_eq ▸ bound) bound⟩
  have sorted := chain.pairwise_ticket fun call among =>
    reached.aged.older call.submission (made call among)
  have order :
      (Journal.submissions run.events).Pairwise fun a b => a.ticket < b.ticket := by
    have range : (List.range run.flow.nextTicket).Pairwise (· < ·) := List.pairwise_lt_range
    rw [← reached.tickets_eq] at range
    exact List.pairwise_map.mp range
  have among : calls.map Judgement.submission ⊆ Journal.submissions run.events := by
    intro submission among
    obtain ⟨call, member, rfl⟩ := List.mem_map.mp among
    exact made call member
  have irreflexive : Std.Irrefl fun a b : Submission Req Ctx => a.ticket < b.ticket :=
    ⟨fun a => Nat.lt_irrefl a.ticket⟩
  have antisymmetric : Std.Antisymm fun a b : Submission Req Ctx => a.ticket < b.ticket :=
    ⟨fun _ _ first second => (Nat.lt_asymm first second).elim⟩
  exact
    List.sublist_of_subperm_of_pairwise (List.subperm_of_subset sorted.nodup among) sorted order

/-- A flow that has kept its work has given out the outcomes of its judgements. -/
theorem items_of_judgements
    (session : Session env (Run.start (Flow.start settings random) outside) replies run)
    (sound : Sound replies)
    (kept : ¬ Journal.GaveUp run.events) :
    items replies =
      ((Journal.judgements run.events).filterMap fun judgement =>
        (judgement.consequence settings.policy :
          Consequence Req Resp Ctx Fault Refusal).outcome?).map .ok := by
  have reached := session.reached sound
  rw [session.items_of_rulings sound, reached.rulings_eq kept, List.filterMap_map,
    List.map_filterMap]
  refine List.filterMap_congr fun judgement member => ?_
  have ruled := Journal.mem_judgements.mp member
  change (judgement.consequence settings.policy).item? = _
  cases consequence :
      (judgement.consequence settings.policy : Consequence Req Resp Ctx Fault Refusal) with
  | fails error => exact (kept (reached.gaveUp_of_fails ruled consequence)).elim
  | _ => rfl

end Session

namespace Scenario

/-- When nobody fails and no attempt is the last one, a flow that ends by itself keeps its work. -/
theorem Played.kept_of_unfailing
    {items : List (WorkItem Req Ctx)}
    {respond : Req → Resp}
    {judge : Resp → Ctx → Verdict Req Ctx}
    (played :
      (unfailing items respond judge : Scenario Req Resp Ctx Fault Refusal).Played run.events)
    (session : Session env (Run.start (Flow.start settings random) outside) replies run)
    (sound : Session.Sound replies)
    (uncancelled : .cancelled ∉ replies)
    (ended : run.flow.terminated = true)
    (emitsLast : settings.policy.exhaustion = .emitLast) :
    ¬ Journal.GaveUp run.events := by
  intro gaveUp
  obtain ⟨error, given⟩ := session.error_of_gaveUp uncancelled gaveUp
  obtain ⟨node, _, faulty⟩ := played.faulty_of_error session sound ended given
  rw [error?_unfailing emitsLast] at faulty
  cases faulty

/-- A flow that has ended and kept its work has taken everything from the feed. -/
theorem Played.pulled_eq
    {scenario : Scenario Req Resp Ctx Fault Refusal}
    (played : scenario.Played run.events)
    (session : Session env (Run.start (Flow.start settings random) outside) replies run)
    (ended : run.flow.terminated = true)
    (kept : ¬ Journal.GaveUp run.events) :
    Journal.pulled run.events = scenario.items := by
  have feedEnded := (session.gaveUp_or_feedEnded rfl ended).resolve_left kept
  obtain ⟨now, asked⟩ := session.asked rfl feedEnded
  exact played.drained now asked

end Scenario

end Ends

end Resubmit
