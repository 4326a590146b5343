import Resubmit.Proofs.Settlement

namespace Resubmit

/-!
# Faulty nodes and failing flows

Which of several faults ends a flow depends on the order of the answers; whether there is
one does not.  Whoever takes every outcome in turn is given what the session gave out.
-/

variable {σ Req Resp Ctx Fault Refusal : Type}

/-! ## Taking every outcome -/

/-- Whether the reply lets a consumer go on that takes every outcome. -/
def Reply.GoesOn (reply : Reply Resp Ctx Fault Refusal) : Prop :=
  reply = .polled .pending ∨ ∃ outcome, reply = .polled (.item (.ok outcome))

section Collecting

variable {env : Surroundings σ Req Resp Ctx Fault Refusal}
variable {start run after : Run σ Req Resp Ctx Fault Refusal}
variable {wait : Run σ Req Resp Ctx Fault Refusal → Option σ}
variable {budget : Nat}
variable {replies : List (Reply Resp Ctx Fault Refusal)}

/-- The result of a poll as which an awaited item or the end was received. -/
def Awaited.result? :
    Awaited Resp Ctx Fault Refusal →
    Option (PollResult Resp Ctx Fault Refusal)
  | .item given => some (.item given)
  | .ended => some .ended
  | _ => none

namespace Session

/-- Waiting for an item is a session of polls that are pending until the last one. -/
theorem of_await
    {turns : Nat}
    {awaited : Awaited Resp Ctx Fault Refusal}
    {result : PollResult Resp Ctx Fault Refusal}
    (session : Session env start replies run)
    (waited : run.await env wait budget turns = (awaited, after))
    (received : awaited.result? = some result) :
    ∃ waits,
      (∀ reply ∈ waits, reply = .polled .pending) ∧
        Session env start (replies ++ waits ++ [.polled result]) after := by
  induction turns generalizing run replies with
  | zero =>
      cases waited
      cases received
  | succ turns inductionHypothesis =>
      rcases polled : run.poll env budget with ⟨_ | (item | _ | _ | cause), stood⟩
      · simp only [Run.await, polled] at waited
        cases waited
        cases received
      · simp only [Run.await, polled] at waited
        cases waited
        cases received
        exact ⟨[], by simp, by simpa using session.poll polled⟩
      · simp only [Run.await, polled] at waited
        cases waited
        cases received
        exact ⟨[], by simp, by simpa using session.poll polled⟩
      · simp only [Run.await, polled] at waited
        cases passed : wait stood with
        | none =>
            simp only [passed] at waited
            cases waited
            cases received
        | some outside =>
            simp only [passed] at waited
            obtain ⟨waits, pending, later⟩ :=
              inductionHypothesis ((session.poll polled).elapse outside) waited
            refine ⟨.polled .pending :: waits, ?_, by simpa using later⟩
            intro reply member
            rcases List.mem_cons.mp member with same | deeper
            · exact same
            · exact pending reply deeper
      · simp only [Run.await, polled] at waited
        cases waited
        cases received

theorem items_of_pending
    {waits : List (Reply Resp Ctx Fault Refusal)}
    (pending : ∀ reply ∈ waits, reply = .polled .pending) :
    items waits = [] := by
  apply List.filterMap_eq_nil_iff.mpr
  intro reply member
  rw [pending reply member]
  rfl

/--
Whoever takes every outcome and comes to an end has held a session.

He has the outcomes that it gave out, in that order, or the error that it ended with.
-/
theorem of_collectOutcomes
    {takes : Nat}
    {taken : List (Outcome Resp Ctx)}
    {conclusion : Conclusion}
    {result : Except (FlowError Fault Refusal) (List (Outcome Resp Ctx))}
    (session : Session env start replies run)
    (collected :
      run.collectOutcomes env wait budget takes taken = (conclusion, result, after))
    (concluded : conclusion = .ended ∨ conclusion = .satisfied) :
    ∃ later last,
      Session env start (replies ++ later ++ [.polled last]) after ∧
      (∀ reply ∈ later, reply.GoesOn) ∧
      ∃ outcomes : List (Outcome Resp Ctx),
        items later = outcomes.map .ok ∧
        ((last = .ended ∧ result = .ok (taken.reverse ++ outcomes)) ∨
          ∃ error, last = .item (.error error) ∧ result = .error error) := by
  induction takes generalizing run replies taken with
  | zero =>
      cases collected
      rcases concluded with ended | satisfied
      · cases ended
      · cases satisfied
  | succ takes inductionHypothesis =>
      rcases waited : run.await env wait budget budget with
        ⟨(error | outcome) | _ | cause | _ | _, stood⟩
      · simp only [Run.collectOutcomes, waited] at collected
        cases collected
        obtain ⟨waits, pending, held⟩ := session.of_await waited rfl
        refine ⟨waits, _, held, fun reply member => .inl (pending reply member), [], ?_, ?_⟩
        · exact items_of_pending pending
        · exact .inr ⟨error, rfl, rfl⟩
      · simp only [Run.collectOutcomes, waited] at collected
        obtain ⟨waits, pending, held⟩ := session.of_await waited rfl
        obtain ⟨later, last, longer, goesOn, outcomes, given, settled⟩ :=
          inductionHypothesis held collected
        refine
          ⟨waits ++ .polled (.item (.ok outcome)) :: later, last, ?_, ?_,
            outcome :: outcomes, ?_, ?_⟩
        · simpa using longer
        · intro reply member
          rcases List.mem_append.mp member with waiting | taking
          · exact .inl (pending reply waiting)
          · rcases List.mem_cons.mp taking with same | deeper
            · exact .inr ⟨outcome, same⟩
            · exact goesOn reply deeper
        · have nothing : waits.filterMap Reply.item? = [] := items_of_pending pending
          have rest : later.filterMap Reply.item? = outcomes.map .ok := given
          simp [items, nothing, rest, Reply.item?]
        · simpa using settled
      · simp only [Run.collectOutcomes, waited] at collected
        cases collected
        obtain ⟨waits, pending, held⟩ := session.of_await waited rfl
        refine ⟨waits, _, held, fun reply member => .inl (pending reply member), [], ?_, ?_⟩
        · exact items_of_pending pending
        · exact .inl ⟨rfl, by simp⟩
      all_goals
        simp only [Run.collectOutcomes, waited] at collected
        cases collected
        rcases concluded with ended | satisfied
        · cases ended
        · cases satisfied

/--
Taking every outcome of a flow from its beginning is a session up to the end of the flow.

What is returned is the error that the session gave out, or all of its outcomes in order.
-/
theorem ended_of_collectOutcomes
    {settings : Settings}
    {random : ChaCha12}
    {outside : σ}
    {takes : Nat}
    {conclusion : Conclusion}
    {result : Except (FlowError Fault Refusal) (List (Outcome Resp Ctx))}
    (collected :
      (Run.start (Flow.start settings random) outside).collectOutcomes
        env wait budget takes [] = (conclusion, result, after))
    (concluded : conclusion = .ended ∨ conclusion = .satisfied) :
    ∃ replies,
      Session env (Run.start (Flow.start settings random) outside) replies after ∧
      Sound replies ∧
      .cancelled ∉ replies ∧
      after.flow.terminated = true ∧
      ∃ outcomes : List (Outcome Resp Ctx),
        (items replies = outcomes.map .ok ∧ result = .ok outcomes) ∨
          ∃ error, items replies = outcomes.map .ok ++ [.error error] ∧ result = .error error := by
  obtain ⟨later, last, session, goesOn, outcomes, given, settled⟩ :=
    Session.start.of_collectOutcomes collected concluded
  rw [List.nil_append] at session
  have final : last.ends = true ∧ last.breaksDown = false := by
    rcases settled with ⟨rfl, _⟩ | ⟨error, rfl, _⟩ <;> exact ⟨rfl, rfl⟩
  refine ⟨later ++ [.polled last], session, ?_, ?_, ?_, outcomes, ?_⟩
  · intro reply member
    rcases List.mem_append.mp member with taking | atEnd
    · rcases goesOn reply taking with rfl | ⟨outcome, rfl⟩ <;> rfl
    · cases List.mem_singleton.mp atEnd
      exact final.2
  · intro member
    rcases List.mem_append.mp member with taking | atEnd
    · rcases goesOn _ taking with same | ⟨outcome, same⟩ <;> cases same
    · cases List.mem_singleton.mp atEnd
  · rw [session.terminated_eq]
    simp [Reply.ends, final.1]
  · have split :
        items (later ++ [.polled last]) = outcomes.map .ok ++ items [.polled last] := by
      rw [← given]
      exact List.filterMap_append
    rw [split]
    rcases settled with ⟨rfl, rfl⟩ | ⟨error, rfl, rfl⟩
    · exact .inl ⟨List.append_nil _, rfl⟩
    · exact .inr ⟨error, rfl, rfl⟩

end Session

end Collecting

/-! ## Which flows fail -/

namespace Scenario

/--
What a scenario says of the items that a flow has given out at its end.

There is an error among them exactly when a node is faulty.  It is then the last item and
the error of a faulty node, and the outcomes before it are outcomes of the scenario.
-/
structure Decides
    (scenario : Scenario Req Resp Ctx Fault Refusal)
    (policy : Policy)
    (items : List (Item Resp Ctx Fault Refusal)) :
    Prop where
  fails_iff :
    (∃ error, .error error ∈ items) ↔
      ∃ node ∈ scenario.forest policy.maxAttempts,
        ∃ error, scenario.error? policy node = some error
  items_eq :
    ∃ outcomes : List (Outcome Resp Ctx),
      (outcomes : Multiset (Outcome Resp Ctx)) ≤
          ↑((scenario.forest policy.maxAttempts).filterMap (scenario.outcome? policy)) ∧
        (items = outcomes.map .ok ∨
          ∃ node ∈ scenario.forest policy.maxAttempts,
            ∃ error,
              scenario.error? policy node = some error ∧
                items = outcomes.map .ok ++ [.error error])

section Deciding

variable {scenario : Scenario Req Resp Ctx Fault Refusal}
variable {env : Surroundings σ Req Resp Ctx Fault Refusal}
variable {settings : Settings}
variable {random : ChaCha12}
variable {outside : σ}
variable {replies : List (Reply Resp Ctx Fault Refusal)}
variable {run : Run σ Req Resp Ctx Fault Refusal}

/-- A session that was driven to its end has given out what the scenario says. -/
theorem Played.decides
    (played : scenario.Played run.events)
    (session : Session env (Run.start (Flow.start settings random) outside) replies run)
    (sound : Session.Sound replies)
    (uncancelled : .cancelled ∉ replies)
    (ended : run.flow.terminated = true) :
    scenario.Decides settings.policy (Session.items replies) where
  fails_iff := by
    constructor
    · rintro ⟨error, given⟩
      obtain ⟨node, member, faulty⟩ := played.faulty_of_error session sound ended given
      exact ⟨node, member, error, faulty⟩
    · rintro ⟨node, member, error, faulty⟩
      apply session.error_of_gaveUp uncancelled
      by_contra kept
      rw [played.sound_of_kept session sound ended kept node member] at faulty
      cases faulty
  items_eq := by
    obtain ⟨outcomes, error?, given⟩ := session.ordered.items_eq
    have among := (played.outcomes_among session sound ended).1
    simp only [given, Session.filterMap_toOption] at among
    refine ⟨outcomes, among, ?_⟩
    cases error? with
    | none =>
        exact .inl (given.trans (List.append_nil _))
    | some error =>
        have last : .error error ∈ Session.items replies := by
          rw [given]
          exact List.mem_append_right _ (List.mem_singleton_self _)
        obtain ⟨node, member, faulty⟩ := played.faulty_of_error session sound ended last
        exact .inr ⟨node, member, error, faulty, given⟩

/--
Whether a flow fails is decided by the scenario, and not by when the answers come.

The second part is about whoever takes every outcome in turn: he is given the error if
there is one, and otherwise all outcomes in the order in which they were given out.
-/
theorem faults_decide :
    (∀ {replies run},
      Session env (Run.start (Flow.start settings random) outside) replies run →
      Session.Sound replies →
      .cancelled ∉ replies →
      run.flow.terminated = true →
      scenario.Played run.events →
      scenario.Decides settings.policy (Session.items replies)) ∧
    (∀ {wait budget takes conclusion result run},
      (Run.start (Flow.start settings random) outside).collectOutcomes
          env wait budget takes [] = (conclusion, result, run) →
      conclusion = .ended ∨ conclusion = .satisfied →
      scenario.Played run.events →
      scenario.Decides settings.policy run.items ∧
        ∃ outcomes : List (Outcome Resp Ctx),
          (run.items = outcomes.map .ok ∧ result = .ok outcomes) ∨
            ∃ error,
              run.items = outcomes.map .ok ++ [.error error] ∧ result = .error error) := by
  constructor
  · intro replies run session sound uncancelled ended played
    exact played.decides session sound uncancelled ended
  · intro wait budget takes conclusion result run collected concluded played
    obtain ⟨replies, session, sound, uncancelled, ended, outcomes, settled⟩ :=
      Session.ended_of_collectOutcomes collected concluded
    have shown : run.items = Session.items replies := session.items_eq
    rw [shown]
    exact ⟨played.decides session sound uncancelled ended, outcomes, settled⟩

/-- A countdown that meets a number to which the stage cannot answer fails in both ways. -/
theorem faults_decide_countdown :
    let settings := Settings.undelayed 3 .fail
    let scenario := Scenario.countdown 7 [1, 8]
    let replies := (Run.promptly settings scenario 9).1
    let collected :=
      (Run.prompt settings scenario).collectOutcomes (Surroundings.prompt scenario)
        (fun run => some run.outside) 100 9 []
    scenario.Decides settings.policy (Session.items replies) ∧
      scenario.Decides settings.policy collected.2.2.items ∧
      (Session.items replies).length = 3 ∧
      collected.2.1 = .error (.stage ()) := by
  intro settings scenario replies collected
  have session := Session.promptly settings scenario 9
  have uncancelled := Session.uncancelled_promptly settings scenario 9
  have abides := abides_prompt scenario
  have sound : Session.Sound replies := by decide +kernel
  have played : scenario.Played (Run.promptly settings scenario 9).2.events :=
    .of_abides abides (session.reached sound) (by decide +kernel)
      fun _ _ => by decide +kernel
  have came :
      (Run.prompt settings scenario).collectOutcomes (Surroundings.prompt scenario)
          (fun run => some run.outside) 100 9 [] =
        (collected.1, collected.2.1, collected.2.2) :=
    rfl
  have concluded : collected.1 = .ended ∨ collected.1 = .satisfied := by decide +kernel
  obtain ⟨_, collecting, collectedSound, _⟩ :=
    Session.ended_of_collectOutcomes came concluded
  have collectedPlayed : scenario.Played collected.2.2.events :=
    .of_abides abides (collecting.reached collectedSound) (by decide +kernel)
      fun _ _ => by decide +kernel
  exact
    ⟨faults_decide.1 session sound uncancelled (by decide +kernel) played,
      (faults_decide.2 came concluded collectedPlayed).1, by decide +kernel⟩

end Deciding

end Scenario

end Resubmit
