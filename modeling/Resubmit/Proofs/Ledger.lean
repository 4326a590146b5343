import Resubmit.Proofs.Conservation
import Resubmit.Proofs.Recording

namespace Resubmit

/-!
# The ledger of a flow

The balances of the single deeds add up over a run.  Together with what the journal says
of answers, judgements and retries they are the ledger of the run: nothing that entered
is lost or counted twice, every answer is ruled on once, and every ruling has its
consequence and no other.
-/

variable {σ Req Resp Ctx Fault Refusal : Type}

/-- The stage gave this answer when it was asked about the submissions in flight. -/
def Submission.AnsweredBy
    (env : Surroundings σ Req Resp Ctx Fault Refusal)
    (submission : Submission Req Ctx)
    (answer : Except Fault Resp) :
    Prop :=
  ∃ outside inFlight completion,
    (env.collect outside inFlight).1 = some completion ∧
      inFlight.get completion.index = submission ∧
      completion.answer = answer

/-- The classifier gave this verdict on the response and the context of the submission. -/
def Judgement.GivenBy
    (env : Surroundings σ Req Resp Ctx Fault Refusal)
    (judgement : Judgement Req Resp Ctx Refusal) :
    Prop :=
  ∃ outside,
    (env.classify outside judgement.response
      judgement.submission.attempt.item.context).1 = judgement.verdict

namespace Ruling

/-- A ruling rests on what was said about the submission itself. -/
def Grounded
    (env : Surroundings σ Req Resp Ctx Fault Refusal) :
    Ruling Req Resp Ctx Fault Refusal →
    Prop
  | .failed submission fault => submission.AnsweredBy env (.error fault)
  | .judged judgement =>
      judgement.submission.AnsweredBy env (.ok judgement.response) ∧
        judgement.GivenBy env

/-- A ruling with all that comes of it. -/
def effects
    (policy : Policy)
    (ruling : Ruling Req Resp Ctx Fault Refusal) :
    List (Effect Req Resp Ctx Fault Refusal) :=
  .ruled ruling :: (ruling.consequence policy).effects

end Ruling

/-- What comes of a follow-up that is owed, once it is scheduled. -/
def Debt.effect (debt : Debt Req Resp Ctx) : Effect Req Resp Ctx Fault Refusal :=
  .scheduled debt.attempt

/-- The attempt that was scheduled, if the effect is that. -/
def Effect.scheduled? :
    Effect Req Resp Ctx Fault Refusal →
    Option (Attempt Req Ctx)
  | .scheduled attempt => some attempt
  | _ => none

/-- The item that was given out, if the effect is that. -/
def Effect.item? :
    Effect Req Resp Ctx Fault Refusal →
    Option (Item Resp Ctx Fault Refusal)
  | .emitted outcome => some (.ok outcome)
  | .failed error => some (.error error)
  | _ => none

/-- The notices are of every retry with its delay, and of every exhaustion without one. -/
def Journal.Announced
    (maxAttempts : UInt32)
    (told : List (Notice Resp))
    (events : List (Event Req Resp Ctx Fault Refusal)) :
    Prop :=
  told.countP (fun notice => notice.delay.isSome) = (scheduled events).length ∧
    told.countP (fun notice => notice.delay.isNone) =
      (judgements events).countP (Judgement.exhausted maxAttempts)

/-! ## What each deed keeps -/

section Deeds

variable {env : Surroundings σ Req Resp Ctx Fault Refusal}
variable {station : Station}
variable {before after : Scene Req Resp Ctx Fault Refusal}
variable {next : Option (Next Resp Ctx Fault Refusal)}

theorem Flow.Takes.answeredBy
    {flow rest : Flow Req Ctx}
    {submission : Submission Req Ctx}
    {answer : Except Fault Resp}
    {later : σ}
    (taken : flow.Takes env submission answer later rest) :
    submission.AnsweredBy env answer := by
  cases taken with
  | intro outside later completion collected =>
      exact ⟨outside, flow.inFlight, completion, by rw [collected], rfl, rfl⟩

/-- Submissions are numbered in the order in which they are made. -/
theorem Deed.tickets_eq
    (deed : Deed env station before next after)
    (numbered :
      (Journal.submissions before.events).map Submission.ticket =
        List.range before.flow.nextTicket) :
    (Journal.submissions after.events).map Submission.ticket =
      List.range after.flow.nextTicket := by
  have told :=
    Flow.filterMap_told
      (Event.submission? : Event Req Resp Ctx Fault Refusal → _)
      fun _ _ => rfl
  unfold Journal.submissions at *
  cases deed with
  | resubmit | pull =>
      simp only [List.filterMap_append, List.filterMap_cons, List.filterMap_nil,
        Event.submission?, List.map_append, List.map_cons, List.map_nil, numbered]
      exact List.range_succ.symm
  | stageFault taken | refusal taken | exhaustionFault taken | done taken
  | dropBranch taken | exhaust taken | branch taken =>
      simp only [List.filterMap_append, List.filterMap_cons, List.filterMap_nil,
        List.append_nil, Event.submission?, told, Flow.shutDown, taken.nextTicket, numbered]
  | _ =>
      simp only [List.filterMap_append, List.filterMap_cons, List.filterMap_nil,
        List.append_nil, Event.submission?, told, numbered]

/-- Every answer is ruled on at once. -/
theorem Deed.answers_eq
    (deed : Deed env station before next after)
    (ruled :
      Journal.answers before.events =
        (Journal.rulings before.events).map fun ruling => (ruling.submission, ruling.answer)) :
    Journal.answers after.events =
      (Journal.rulings after.events).map fun ruling => (ruling.submission, ruling.answer) := by
  have toldAnswers :=
    Flow.filterMap_told
      (Event.answer? : Event Req Resp Ctx Fault Refusal → _)
      fun _ _ => rfl
  have toldRulings :=
    Flow.filterMap_told
      (Event.ruling? : Event Req Resp Ctx Fault Refusal → _)
      fun _ _ => rfl
  unfold Journal.answers Journal.rulings at *
  cases deed <;>
    simp only [List.filterMap_append, List.filterMap_cons, List.filterMap_nil,
      List.map_append, List.map_cons, List.map_nil, List.append_nil, Event.answer?,
      Event.ruling?, Ruling.submission, Ruling.answer, toldAnswers, toldRulings, ruled]

/-- Every ruling rests on what was said about the submission itself. -/
theorem Deed.grounded
    (deed : Deed env station before next after)
    (grounded : ∀ ruling ∈ Journal.rulings before.events, ruling.Grounded env) :
    ∀ ruling ∈ Journal.rulings after.events, ruling.Grounded env := by
  have told :=
    Flow.filterMap_told
      (Event.ruling? : Event Req Resp Ctx Fault Refusal → _)
      fun _ _ => rfl
  unfold Journal.rulings at *
  intro ruling member
  cases deed with
  | stageFault taken =>
      simp only [List.filterMap_append, List.filterMap_cons, List.filterMap_nil,
        Event.ruling?, List.mem_append, List.mem_singleton] at member
      rcases member with earlier | rfl
      · exact grounded ruling earlier
      · exact taken.answeredBy
  | refusal taken classified | done taken classified | dropBranch taken classified
  | branch taken classified | exhaust taken classified
  | exhaustionFault taken classified =>
      simp only [List.filterMap_append, List.filterMap_cons, List.filterMap_nil,
        Event.ruling?, told, List.append_nil, List.mem_append, List.mem_singleton] at member
      rcases member with earlier | rfl
      · exact grounded ruling earlier
      · exact ⟨taken.answeredBy, _, by rw [classified]⟩
  | _ =>
      simp only [List.filterMap_append, List.filterMap_cons, List.filterMap_nil,
        Event.ruling?, told, List.append_nil] at member
      exact grounded ruling member

/-- What comes of the rulings is what they call for, apart from the follow-ups still owed. -/
theorem Deed.effects_eq
    {policy : Policy}
    (deed : Deed env station before next after)
    (options : before.flow.settings.policy = policy)
    (carriedOut :
      Journal.effects before.events ++ before.owed.map Debt.effect =
        (Journal.rulings before.events).flatMap (Ruling.effects policy)) :
    Journal.effects after.events ++ after.owed.map Debt.effect =
      (Journal.rulings after.events).flatMap (Ruling.effects policy) := by
  have toldEffects :=
    Flow.filterMap_told
      (Event.effect? : Event Req Resp Ctx Fault Refusal → _)
      fun _ _ => rfl
  have toldRulings :=
    Flow.filterMap_told
      (Event.ruling? : Event Req Resp Ctx Fault Refusal → _)
      fun _ _ => rfl
  unfold Journal.effects Journal.rulings at *
  subst options
  cases deed with
  | exhaust _ _ spent emitsLast =>
      simpa [List.filterMap_cons, Event.effect?, Event.ruling?, Ruling.effects,
        Ruling.consequence, Judgement.consequence, Consequence.effects, toldEffects,
        toldRulings, UInt32.not_lt.mpr spent, emitsLast] using carriedOut
  | exhaustionFault _ _ spent fails =>
      simpa [List.filterMap_cons, Event.effect?, Event.ruling?, Ruling.effects,
        Ruling.consequence, Judgement.consequence, Consequence.effects, toldEffects,
        toldRulings, UInt32.not_lt.mpr spent, fails] using carriedOut
  | branch _ _ within =>
      simpa [List.filterMap_cons, Event.effect?, Event.ruling?, Ruling.effects,
        Ruling.consequence, Judgement.consequence, Judgement.followUps,
        Consequence.effects, within, Submission.debts, Debt.effect, Debt.attempt,
        Function.comp_def] using carriedOut
  | schedule _ _ scheduled =>
      obtain ⟨_, payload⟩ := RetryQueue.entries_of_schedule? scheduled
      simpa [List.filterMap_cons, Event.effect?, Event.ruling?, payload, Debt.effect,
        toldEffects, toldRulings] using carriedOut
  | _ =>
      simp only [List.map_nil, List.append_nil] at carriedOut
      simp only [List.filterMap_append, List.filterMap_cons, List.filterMap_nil,
        List.flatMap_append, List.flatMap_cons, List.flatMap_nil, List.map_nil,
        List.append_nil, Event.effect?, Event.ruling?, Ruling.effects, Ruling.consequence,
        Judgement.consequence, Consequence.effects, toldEffects, toldRulings, carriedOut]

/-- With a hook, every retry and every exhaustion is noted as a call of it. -/
theorem Deed.announced
    {maxAttempts : UInt32}
    (deed : Deed env station before next after)
    (sound : ∀ stop, next = some stop → stop.breaksDown = false)
    (options : before.flow.settings.policy.maxAttempts = maxAttempts)
    (observed : before.flow.settings.observed = true)
    (announced :
      Journal.Announced maxAttempts (Journal.notices before.events) before.events) :
    Journal.Announced maxAttempts (Journal.notices after.events) after.events := by
  unfold Journal.Announced Journal.notices Journal.scheduled Journal.judgements
    Journal.rulings at *
  subst options
  cases deed with
  | branch _ _ within =>
      simpa [List.filterMap_cons, Event.notice?, Event.scheduled?, Event.ruling?,
        Ruling.judgement?, Judgement.exhausted, UInt32.not_le.mpr within] using announced
  | exhaust _ _ spent | exhaustionFault _ _ spent =>
      simpa [List.filterMap_cons, Event.notice?, Event.scheduled?, Event.ruling?,
        Ruling.judgement?, Judgement.exhausted, spent, Flow.told_of_observed observed]
        using announced
  | schedule =>
      simpa [List.filterMap_cons, Event.notice?, Event.scheduled?, Event.ruling?,
        Debt.notice, Flow.told_of_observed observed] using announced
  | clockOverflow =>
      have broken := sound _ rfl
      cases broken
  | refusal | done | dropBranch =>
      simpa [List.filterMap_cons, Event.notice?, Event.scheduled?, Event.ruling?,
        Ruling.judgement?, Judgement.exhausted] using announced
  | _ =>
      simp only [List.filterMap_append, List.filterMap_cons, List.filterMap_nil,
        List.append_nil, Option.map_none, Event.notice?, Event.scheduled?, Event.ruling?,
        Ruling.judgement?]
      exact announced

end Deeds

/-! ## What holds of every run -/

namespace Reached

variable {env : Surroundings σ Req Resp Ctx Fault Refusal}
variable {settings : Settings}
variable {random : ChaCha12}
variable {outside : σ}
variable {position : Position}
variable {run : Run σ Req Resp Ctx Fault Refusal}

/-- Work that entered is left to do, has been ruled on, or was given up. -/
theorem work_balanced
    (reached :
      Reached env (Run.start (Flow.start settings random) outside) position run) :
    (run.scene []).Balanced Scene.live
      (Event.enters settings.policy.maxAttempts) Event.finishes := by
  refine
    reached.keeps
      (fun scene =>
        scene.Balanced Scene.live
          (Event.enters settings.policy.maxAttempts) Event.finishes)
      ?_ ?_ ?_
  · exact ⟨0, rfl, fun _ => rfl⟩
  · intro station before label after _ options _ balanced deed
    obtain ⟨new, lost, grown, settled, kept⟩ := deed.work_balance
    rw [options] at settled
    exact balanced.after lost grown settled kept
  · intro flow events balanced
    refine balanced.after flow.work rfl ?_ ?_
    · simp [Scene.live, Flow.work_shutDown, Event.enters, Event.finishes, Event.settles,
        Event.ruling?]
    · simp [Journal.GaveUp, Event.givesUp]

/-- Submissions that were made are in flight, have been ruled on, or were given up. -/
theorem flight_balanced
    (reached :
      Reached env (Run.start (Flow.start settings random) outside) position run) :
    (run.scene []).Balanced (fun scene => scene.flow.flight)
      Event.launches Event.settles := by
  refine
    reached.keeps
      (fun scene =>
        scene.Balanced (fun scene => scene.flow.flight) Event.launches Event.settles)
      ?_ ?_ ?_
  · exact ⟨0, rfl, fun _ => rfl⟩
  · intro station before label after _ _ _ balanced deed
    obtain ⟨new, lost, grown, settled, kept⟩ := deed.flight_balance
    exact balanced.after lost grown settled kept
  · intro flow events balanced
    refine balanced.after flow.flight rfl ?_ ?_
    · simp [Flow.flight_shutDown, Event.launches, Event.submission?, Event.settles,
        Event.ruling?]
    · simp [Journal.GaveUp, Event.givesUp]

theorem tickets_eq
    (reached :
      Reached env (Run.start (Flow.start settings random) outside) position run) :
    (Journal.submissions run.events).map Submission.ticket =
      List.range run.flow.nextTicket := by
  refine
    reached.keeps
      (fun scene =>
        (Journal.submissions scene.events).map Submission.ticket =
          List.range scene.flow.nextTicket)
      rfl ?_ ?_
  · intro station before label after _ _ _ numbered deed
    exact deed.tickets_eq numbered
  · intro flow events numbered
    simpa [Journal.submissions, List.filterMap_cons, Event.submission?, Flow.shutDown]
      using numbered

theorem answers_eq
    (reached :
      Reached env (Run.start (Flow.start settings random) outside) position run) :
    Journal.answers run.events =
      (Journal.rulings run.events).map fun ruling => (ruling.submission, ruling.answer) := by
  refine
    reached.keeps
      (fun scene =>
        Journal.answers scene.events =
          (Journal.rulings scene.events).map fun ruling =>
            (ruling.submission, ruling.answer))
      rfl ?_ ?_
  · intro station before label after _ _ _ ruled deed
    exact deed.answers_eq ruled
  · intro flow events ruled
    simpa [Journal.answers, Journal.rulings, List.filterMap_cons, Event.answer?,
      Event.ruling?] using ruled

theorem grounded
    (reached :
      Reached env (Run.start (Flow.start settings random) outside) position run) :
    ∀ ruling ∈ Journal.rulings run.events, ruling.Grounded env := by
  refine
    reached.keeps
      (fun scene => ∀ ruling ∈ Journal.rulings scene.events, ruling.Grounded env)
      ?_ ?_ ?_
  · intro ruling member
    cases member
  · intro station before label after _ _ _ grounded deed
    exact deed.grounded grounded
  · intro flow events grounded
    simpa [Journal.rulings, List.filterMap_cons, Event.ruling?] using grounded

/-- What came of the rulings is what they call for. -/
theorem effects_eq
    (reached :
      Reached env (Run.start (Flow.start settings random) outside) position run) :
    Journal.effects run.events =
      (Journal.rulings run.events).flatMap (Ruling.effects settings.policy) := by
  have carriedOut :=
    reached.keeps
      (fun scene =>
        Journal.effects scene.events ++ scene.owed.map Debt.effect =
          (Journal.rulings scene.events).flatMap (Ruling.effects settings.policy))
      rfl
      (fun _ options _ carriedOut deed =>
        deed.effects_eq (congrArg Settings.policy options) carriedOut)
      (fun carriedOut => by
        simpa [Journal.effects, Journal.rulings, List.filterMap_cons, Event.effect?,
          Event.ruling?] using carriedOut)
  simpa [Run.scene] using carriedOut

theorem announced
    (reached :
      Reached env (Run.start (Flow.start settings random) outside) position run)
    (observed : settings.observed = true) :
    Journal.Announced settings.policy.maxAttempts (Journal.notices run.events) run.events := by
  refine
    reached.keeps
      (fun scene =>
        Journal.Announced settings.policy.maxAttempts (Journal.notices scene.events)
          scene.events)
      ⟨rfl, rfl⟩ ?_ ?_
  · intro station before label after sound options _ announced deed
    refine deed.announced sound ?_ ?_ announced
    · rw [options]
      rfl
    · rw [options]
      exact observed
  · intro flow events announced
    simpa [Journal.Announced, Journal.notices, Journal.scheduled, Journal.judgements,
      Journal.rulings, List.filterMap_cons, Event.notice?, Event.scheduled?,
      Event.ruling?] using announced

/-- A flow that gave out an error has given up its work. -/
theorem gaveUp_of_error
    (reached :
      Reached env (Run.start (Flow.start settings random) outside) position run)
    {error : FlowError Fault Refusal}
    (given : .yielded (.error error) ∈ run.events) :
    Journal.GaveUp run.events := by
  have noted :=
    reached.keeps
      (fun scene =>
        scene.events.any Event.givesUp =
          (scene.events.filterMap Event.reply?).any Reply.abandons)
      rfl
      (fun _ _ _ noted deed => deed.gaveUp_noted noted)
      (fun noted => by simp [Event.givesUp, Event.reply?, Reply.abandons])
  have abandoned : (run.events.filterMap Event.reply?).any Reply.abandons = true :=
    List.any_eq_true.mpr
      ⟨.polled (.item (.error error)), List.mem_filterMap.mpr ⟨_, given, rfl⟩, rfl⟩
  exact noted.trans abandoned

/-- A ruling that fails makes the flow give up its work. -/
theorem gaveUp_of_fails
    (reached :
      Reached env (Run.start (Flow.start settings random) outside) position run)
    {ruling : Ruling Req Resp Ctx Fault Refusal}
    {error : FlowError Fault Refusal}
    (member : ruling ∈ Journal.rulings run.events)
    (fails : ruling.consequence settings.policy = .fails error) :
    Journal.GaveUp run.events := by
  have among : .failed error ∈ ruling.effects settings.policy := by
    simp [Ruling.effects, fails, Consequence.effects]
  have effect : .failed error ∈ Journal.effects run.events := by
    rw [reached.effects_eq]
    exact List.mem_flatMap.mpr ⟨ruling, member, among⟩
  obtain ⟨event, noted, shows⟩ := List.mem_filterMap.mp effect
  cases event with
  | answered _ _ answer => cases answer <;> cases shows
  | yielded item =>
      cases item with
      | ok => cases shows
      | error =>
          cases shows
          exact reached.gaveUp_of_error noted
  | _ => cases shows

end Reached

/-! ## The ledger -/

namespace Journal

theorem flatMap_launches (events : List (Event Req Resp Ctx Fault Refusal)) :
    events.flatMap Event.launches = submissions events :=
  (List.filterMap_eq_flatMap_toList Event.submission? events).symm

theorem flatMap_settles (events : List (Event Req Resp Ctx Fault Refusal)) :
    events.flatMap Event.settles = (rulings events).map Ruling.submission := by
  rw [rulings, List.map_filterMap]
  exact (List.filterMap_eq_flatMap_toList _ events).symm

theorem flatMap_finishes (events : List (Event Req Resp Ctx Fault Refusal)) :
    events.flatMap Event.finishes =
      ((rulings events).map Ruling.submission).map Submission.attempt := by
  rw [← flatMap_settles, List.map_flatMap]
  rfl

theorem mem_judgements
    {judgement : Judgement Req Resp Ctx Refusal}
    {events : List (Event Req Resp Ctx Fault Refusal)} :
    judgement ∈ judgements events ↔ .judged judgement ∈ rulings events := by
  constructor
  · intro member
    obtain ⟨ruling, ruled, same⟩ := List.mem_filterMap.mp member
    cases ruling with
    | failed => cases same
    | judged =>
        cases same
        exact ruled
  · intro ruled
    exact List.mem_filterMap.mpr ⟨.judged judgement, ruled, rfl⟩

/-- When the stage has not failed, every ruling is a judgement. -/
theorem rulings_eq
    {events : List (Event Req Resp Ctx Fault Refusal)}
    (unfailing : ∀ submission fault, .failed submission fault ∉ rulings events) :
    rulings events = (judgements events).map .judged := by
  have judged :
      ∀ ruling ∈ rulings events, (ruling.judgement?.map .judged) = some ruling := by
    intro ruling member
    cases ruling with
    | failed submission fault => exact (unfailing submission fault member).elim
    | judged judgement => rfl
  rw [judgements, List.map_filterMap, List.filterMap_congr judged, List.filterMap_some]

end Journal

/--
The ledger of a run, with the record of what the stage was handed and the hook was told.

What it says of work in the flow and of classifications holds as long as the flow has not
given up its work, and the rest holds always.
-/
structure Ledger
    (env : Surroundings σ Req Resp Ctx Fault Refusal)
    (settings : Settings)
    (record : Record Req Resp)
    (run : Run σ Req Resp Ctx Fault Refusal) :
    Prop where
  /-- What has entered is in flight, waiting, takeable or classified. -/
  conserved :
    ¬ Journal.GaveUp run.events →
    (Journal.entered settings.policy.maxAttempts run.events : Multiset (Attempt Req Ctx)) =
      ↑(run.flow.inFlight.map Submission.attempt) +
        ↑(run.flow.retries.scheduled.map Waiting.payload) +
        ↑(run.flow.retries.ready.map Waiting.payload) +
        ↑((Journal.judgements run.events).map fun judgement => judgement.submission.attempt)
  /-- Every submission is in flight or classified, just as it was made. -/
  correlated :
    ¬ Journal.GaveUp run.events →
    (Journal.submissions run.events : Multiset (Submission Req Ctx)) =
      ↑run.flow.inFlight + ↑((Journal.judgements run.events).map Judgement.submission)
  /-- What is answered is classified, and nothing else. -/
  classified :
    ¬ Journal.GaveUp run.events →
    Journal.answers run.events =
      (Journal.judgements run.events).map fun judgement =>
        (judgement.submission, .ok judgement.response)
  /-- A classification makes its contribution, and nothing else makes any. -/
  contributed :
    ¬ Journal.GaveUp run.events →
    Journal.effects run.events =
      (Journal.judgements run.events).flatMap fun judgement =>
        .ruled (.judged judgement) :: (judgement.consequence settings.policy).effects
  /-- No classification ends the flow. -/
  unfailing :
    ¬ Journal.GaveUp run.events →
    ∀ judgement ∈ Journal.judgements run.events,
      ∀ error : FlowError Fault Refusal,
        judgement.consequence settings.policy ≠ .fails error
  /-- No submission is answered twice. -/
  answeredOnce :
    ((Journal.answers run.events).map fun answer => answer.1.ticket).Nodup
  /-- The stage and the classifier said so about the submission itself. -/
  grounded :
    ∀ judgement ∈ Journal.judgements run.events,
      judgement.submission.AnsweredBy env (.ok judgement.response) ∧
        judgement.GivenBy env
  /-- The follow-ups of every classification are scheduled, each of them once. -/
  scheduled :
    (Journal.scheduled run.events).map Waiting.payload =
      (Journal.judgements run.events).flatMap
        (Judgement.followUps settings.policy.maxAttempts)
  /-- The stage was handed the requests of all submissions, in order, and nothing else. -/
  handed : record.handed = (Journal.submissions run.events).map Submission.handed
  /-- An installed hook was told of every retry and of every exhaustion. -/
  announced :
    settings.observed = true →
    Journal.Announced settings.policy.maxAttempts record.told run.events

section Ledgers

variable {env : Surroundings σ Req Resp Ctx Fault Refusal}
variable {settings : Settings}
variable {random : ChaCha12}
variable {outside : σ}
variable {position : Position}
variable {run : Run σ Req Resp Ctx Fault Refusal}

theorem Judgement.scheduled_effects
    (policy : Policy)
    (judgement : Judgement Req Resp Ctx Refusal) :
    (judgement.consequence policy :
        Consequence Req Resp Ctx Fault Refusal).effects.filterMap Effect.scheduled? =
      judgement.followUps policy.maxAttempts := by
  obtain ⟨submission, response, verdict⟩ := judgement
  rcases verdict with refusal | _ | (_ | ⟨first, others⟩)
  · rfl
  · rfl
  · simp [consequence, followUps, Consequence.effects]
  · by_cases within : submission.attempt.number < policy.maxAttempts
    · have all (attempts : List (Attempt Req Ctx)) :
          (attempts.map (.scheduled : _ → Effect Req Resp Ctx Fault Refusal)).filterMap
              Effect.scheduled? =
            attempts := by
        rw [List.filterMap_map]
        exact List.filterMap_some
      simp only [consequence, within, ↓reduceIte, Consequence.effects]
      exact all _
    · simp only [consequence, followUps, within, ↓reduceIte]
      cases policy.exhaustion <;> rfl

theorem Consequence.item_effects (consequence : Consequence Req Resp Ctx Fault Refusal) :
    consequence.effects.filterMap Effect.item? = consequence.item?.toList := by
  cases consequence with
  | branches attempts => simp [effects, item?, Effect.item?]
  | _ => rfl

namespace Journal

theorem items_eq (events : List (Event Req Resp Ctx Fault Refusal)) :
    events.filterMap Event.item? = (effects events).filterMap Effect.item? := by
  rw [effects, List.filterMap_filterMap]
  congr 1
  funext event
  cases event with
  | answered _ _ answer => cases answer <;> rfl
  | yielded item => cases item <;> rfl
  | _ => rfl

theorem scheduled_eq (events : List (Event Req Resp Ctx Fault Refusal)) :
    (scheduled events).map Waiting.payload =
      (effects events).filterMap Effect.scheduled? := by
  rw [scheduled, effects, List.map_filterMap, List.filterMap_filterMap]
  congr 1
  funext event
  cases event with
  | answered _ _ answer => cases answer <;> rfl
  | yielded item => cases item <;> rfl
  | _ => rfl

end Journal

namespace Reached

/-- A flow that has kept its work has only made judgements. -/
theorem rulings_eq
    (reached :
      Reached env (Run.start (Flow.start settings random) outside) position run)
    (kept : ¬ Journal.GaveUp run.events) :
    Journal.rulings run.events = (Journal.judgements run.events).map .judged := by
  apply Journal.rulings_eq
  intro submission fault member
  exact kept (reached.gaveUp_of_fails member rfl)

theorem scheduled_eq
    (reached :
      Reached env (Run.start (Flow.start settings random) outside) position run) :
    (Journal.scheduled run.events).map Waiting.payload =
      (Journal.judgements run.events).flatMap
        (Judgement.followUps settings.policy.maxAttempts) := by
  rw [Journal.scheduled_eq, reached.effects_eq, List.filterMap_flatMap, Journal.judgements]
  induction Journal.rulings run.events with
  | nil => rfl
  | cons ruling rest inductionHypothesis =>
      rw [List.flatMap_cons, inductionHypothesis]
      cases ruling with
      | failed submission fault => rfl
      | judged judgement =>
          simp only [Ruling.effects, Ruling.consequence, List.filterMap_cons,
            Effect.scheduled?, judgement.scheduled_effects, Ruling.judgement?,
            List.flatMap_cons]

theorem items_eq
    (reached :
      Reached env (Run.start (Flow.start settings random) outside) position run) :
    run.items =
      (Journal.rulings run.events).filterMap fun ruling =>
        (ruling.consequence settings.policy).item? := by
  rw [Run.items, Journal.items_eq, reached.effects_eq, List.filterMap_flatMap,
    List.filterMap_eq_flatMap_toList]
  congr 1
  funext ruling
  rw [← Consequence.item_effects]
  rfl

theorem answered_once
    (reached :
      Reached env (Run.start (Flow.start settings random) outside) position run) :
    ((Journal.answers run.events).map fun answer => answer.1.ticket).Nodup := by
  obtain ⟨lost, total, _⟩ := reached.flight_balanced
  change (↑(run.events.flatMap Event.launches) : Multiset (Submission Req Ctx)) =
    run.flow.flight + lost + ↑(run.events.flatMap Event.settles) at total
  rw [Journal.flatMap_launches, Journal.flatMap_settles] at total
  have among :
      (↑(((Journal.rulings run.events).map Ruling.submission).map Submission.ticket) :
          Multiset Nat) ≤
        ↑((Journal.submissions run.events).map Submission.ticket) := by
    rw [← Multiset.map_coe, ← Multiset.map_coe Submission.ticket, total]
    exact Multiset.map_le_map (Multiset.le_add_left _ _)
  rw [reached.tickets_eq] at among
  have distinct :=
    Multiset.nodup_of_le among (Multiset.coe_nodup.mpr List.nodup_range)
  rw [reached.answers_eq, List.map_map]
  rw [Multiset.coe_nodup, List.map_map] at distinct
  exact distinct

end Reached

namespace Recorded

/-- The ledger of every run holds. -/
theorem ledger
    {record : Record Req Resp}
    (recorded :
      Recorded env (Run.start (Flow.start settings random) outside) position record run) :
    Ledger env settings record run := by
  obtain ⟨reached, rfl⟩ := iff_reached.mp recorded
  constructor
  case conserved =>
    intro kept
    obtain ⟨lost, total, whole⟩ := reached.work_balanced
    cases whole kept
    change (↑(Journal.entered settings.policy.maxAttempts run.events) :
        Multiset (Attempt Req Ctx)) =
      run.flow.work + ↑([] : List (Attempt Req Ctx)) + 0 +
        ↑(run.events.flatMap Event.finishes) at total
    rw [total, Journal.flatMap_finishes, reached.rulings_eq kept, Flow.work,
      RetryQueue.entries, Multiset.map_add, Multiset.map_coe, Multiset.map_coe,
      List.map_map, List.map_map, Multiset.coe_nil, add_zero, add_zero, ← add_assoc]
    rfl
  case correlated =>
    intro kept
    obtain ⟨lost, total, whole⟩ := reached.flight_balanced
    cases whole kept
    change (↑(run.events.flatMap Event.launches) : Multiset (Submission Req Ctx)) =
      run.flow.flight + 0 + ↑(run.events.flatMap Event.settles) at total
    rw [Journal.flatMap_launches, Journal.flatMap_settles, reached.rulings_eq kept,
      List.map_map, add_zero] at total
    exact total
  case classified =>
    intro kept
    rw [reached.answers_eq, reached.rulings_eq kept, List.map_map]
    rfl
  case contributed =>
    intro kept
    rw [reached.effects_eq, reached.rulings_eq kept, List.flatMap_map]
    rfl
  case unfailing =>
    intro kept judgement member error fails
    exact kept (reached.gaveUp_of_fails (Journal.mem_judgements.mp member) fails)
  case answeredOnce => exact reached.answered_once
  case grounded =>
    intro judgement member
    exact reached.grounded _ (Journal.mem_judgements.mp member)
  case scheduled => exact reached.scheduled_eq
  case handed => rfl
  case announced => exact reached.announced

/-- The ledger in the middle of a countdown, with work at three places. -/
theorem ledger_countdown :
    let settings := Settings.undelayed 2 .emitLast
    let scenario := Scenario.countdown 9 [2, 1, 3]
    let (_, run) := Run.promptly settings scenario 1
    ∃ record : Record Nat Nat,
      Recorded (Surroundings.prompt scenario) (Run.prompt settings scenario) .idle record run ∧
        Ledger (Surroundings.prompt scenario) settings record run ∧
        ¬ Journal.GaveUp run.events ∧
        (Journal.entered 2 run.events).length = 8 ∧
        run.flow.inFlightCount = 1 ∧
        run.flow.pendingCount = 3 ∧
        (Journal.judgements run.events).length = 4 ∧
        record.handed = [(0, 2), (1, 1), (2, 1), (3, 0), (4, 0)] ∧
        record.told.map Notice.attempt = [0, 0, 0, 0, 1, 1] := by
  have session :=
    Session.promptly (Settings.undelayed 2 .emitLast) (Scenario.countdown 9 [2, 1, 3]) 1
  have recorded := (session.reached (by decide +kernel)).recorded
  exact ⟨_, recorded, recorded.ledger, by decide +kernel⟩

end Recorded

end Ledgers

end Resubmit
