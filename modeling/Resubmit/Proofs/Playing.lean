import Resubmit.Proofs.Census
import Resubmit.Proofs.Scenario

namespace Resubmit

/-!
# A mock stage plays its scenario

A mock stage answers a submission by the request that it was handed under the ticket, and knows
nothing of what the flow has in flight.  A ticket is given once, so it stands for the same request
on both sides, and a flow over a mock stage goes by the scenario whose answers the stage gives.
-/

variable {ρ Req Resp Ctx Fault Refusal : Type}

/-! ## What a stage holds -/

namespace MockStage

/-- The stage answers like the other one, and has no other requests open. -/
structure LeftOf (later stage : MockStage Req Resp Fault) : Prop where
  respond : later.respond = stage.respond
  handed : later.opened.map Open.handed ⊆ stage.opened.map Open.handed

variable {stage later : MockStage Req Resp Fault}

theorem LeftOf.refl (stage : MockStage Req Resp Fault) : stage.LeftOf stage where
  respond := rfl
  handed := List.Subset.refl _

theorem LeftOf.trans
    {first second third : MockStage Req Resp Fault}
    (one : first.LeftOf second)
    (other : second.LeftOf third) :
    first.LeftOf third where
  respond := one.respond.trans other.respond
  handed := List.Subset.trans one.handed other.handed

theorem Alike.leftOf (alike : later.Alike stage) : later.LeftOf stage where
  respond := alike.respond
  handed := by rw [alike.handed]; exact List.Subset.refl _

theorem leftOf_release (stage : MockStage Req Resp Fault) (ticket : Nat) :
    (stage.release ticket).LeftOf stage where
  respond := rfl
  handed := (List.eraseP_sublist.map Open.handed).subset

theorem leftOf_dropAll (stage : MockStage Req Resp Fault) (tickets : List Nat) :
    (stage.dropAll tickets).LeftOf stage := by
  induction tickets generalizing stage with
  | nil => exact .refl stage
  | cons ticket rest inductionHypothesis =>
      have dropped : (stage.drop ticket).2.LeftOf stage := by
        unfold drop
        split
        · exact .refl stage
        · exact leftOf_release stage ticket
      exact (inductionHypothesis (stage.drop ticket).2).trans dropped

end MockStage

/-! ## Moves over a mock stage -/

/-- The classifier of the host goes by the scenario. -/
def Host.Judges
    (host : Host ρ Req Resp Ctx Refusal)
    (scenario : Scenario Req Resp Ctx Fault Refusal) :
    Prop :=
  ∀ state response context,
    (host.classify state response context).1 = scenario.judge response context

namespace Journal

variable {event : Event Req Resp Ctx Fault Refusal}
variable {events : List (Event Req Resp Ctx Fault Refusal)}

theorem judgements_concat :
    judgements (events ++ [event]) =
      judgements events ++ (event.ruling?.bind Ruling.judgement?).toList := by
  rw [judgements, rulings, filterMap_concat, List.filterMap_append, judgements, rulings]
  cases event.ruling? with
  | none => rfl
  | some ruling => cases ruling <;> rfl

end Journal

/-- So far the run has gone by the scenario, and its stage holds what is in flight. -/
structure World.Playing
    (scenario : Scenario Req Resp Ctx Fault Refusal)
    (run : Run (World ρ Req Resp Fault) Req Resp Ctx Fault Refusal) :
    Prop where
  respond : run.outside.stage.respond = scenario.respond
  opened :
    ∀ call ∈ run.outside.stage.opened.map Open.handed, call.1 < run.flow.nextTicket
  flying : ∀ submission ∈ run.flow.inFlight, submission.ticket < run.flow.nextTicket
  /-- A ticket stands for the same request on both sides. -/
  matched :
    ∀ call ∈ run.outside.stage.opened.map Open.handed,
      ∀ submission ∈ run.flow.inFlight,
        call.1 = submission.ticket → call = submission.handed
  answered :
    ∀ answer ∈ Journal.answers run.events,
      answer.2 = scenario.respond answer.1.attempt.item.request
  judged :
    ∀ judgement ∈ Journal.judgements run.events,
      judgement.verdict =
        scenario.judge judgement.response judgement.submission.attempt.item.context

namespace World.Playing

variable {host : Host ρ Req Resp Ctx Refusal}
variable {scenario : Scenario Req Resp Ctx Fault Refusal}
variable {run after : Run (World ρ Req Resp Fault) Req Resp Ctx Fault Refusal}

/-- Less work on both sides is still matched. -/
theorem left
    (playing : Playing scenario run)
    (stage : after.outside.stage.LeftOf run.outside.stage)
    (flying : after.flow.inFlight ⊆ run.flow.inFlight)
    (tickets : after.flow.nextTicket = run.flow.nextTicket)
    (events : after.events = run.events) :
    Playing scenario after where
  respond := stage.respond.trans playing.respond
  opened call member := by
    rw [tickets]
    exact playing.opened call (stage.handed member)
  flying submission member := by
    rw [tickets]
    exact playing.flying submission (flying member)
  matched call member submission inFlight :=
    playing.matched call (stage.handed member) submission (flying inFlight)
  answered := by
    rw [events]
    exact playing.answered
  judged := by
    rw [events]
    exact playing.judged

theorem log
    (playing : Playing scenario run)
    (event : Event Req Resp Ctx Fault Refusal)
    (answered :
      ∀ answer ∈ event.answer?, answer.2 = scenario.respond answer.1.attempt.item.request)
    (judged :
      ∀ judgement ∈ event.ruling?.bind Ruling.judgement?,
        judgement.verdict =
          scenario.judge judgement.response judgement.submission.attempt.item.context) :
    Playing scenario (run.log event) where
  respond := playing.respond
  opened := playing.opened
  flying := playing.flying
  matched := playing.matched
  answered answer member := by
    rw [Run.events_log, Journal.answers, Journal.filterMap_concat, List.mem_append,
      Option.mem_toList] at member
    rcases member with earlier | last
    · exact playing.answered answer earlier
    · exact answered answer last
  judged judgement member := by
    rw [Run.events_log, Journal.judgements_concat, List.mem_append, Option.mem_toList] at member
    rcases member with earlier | last
    · exact playing.judged judgement earlier
    · exact judged judgement last

/-- Most events are no answers and no judgements. -/
theorem still
    (playing : Playing scenario run)
    (event : Event Req Resp Ctx Fault Refusal)
    (unanswered : event.answer? = none)
    (unruled : event.ruling? = none) :
    Playing scenario (run.log event) := by
  apply playing.log event
  · intro answer given
    rw [unanswered] at given
    cases given
  · intro judgement given
    rw [unruled] at given
    cases given

/-- It does not matter what happens away from the stage. -/
theorem elapse
    (playing : Playing scenario run)
    {outside : World ρ Req Resp Fault}
    (apart : outside.stage = run.outside.stage) :
    Playing scenario { run with outside := outside } := by
  refine playing.left ?_ (List.Subset.refl _) rfl rfl
  change outside.stage.LeftOf run.outside.stage
  rw [apart]
  exact .refl _

/-- A new submission is handed over with its own request, under a ticket not in use yet. -/
theorem submit
    (playing : Playing scenario run)
    (attempt : Attempt Req Ctx)
    (place : Option Place) :
    Playing scenario (run.submit (surroundings host) attempt place) := by
  let submission := run.flow.submissionOf attempt place
  have noted :=
    playing.still
      (.submitted (host.now run.outside.host) submission (run.flow.inFlight.length + 1)) rfl rfl
  have opened :
      (run.submit (surroundings host) attempt place).outside.stage.opened.map Open.handed =
        run.outside.stage.opened.map Open.handed ++ [submission.handed] :=
    List.map_append
  have flying :
      (run.submit (surroundings host) attempt place).flow.inFlight =
        run.flow.inFlight ++ [submission] :=
    rfl
  have later {ticket : Nat} (before : ticket < run.flow.nextTicket) :
      ticket < (run.submit (surroundings host) attempt place).flow.nextTicket :=
    Nat.lt_succ_of_lt before
  constructor
  case respond => exact playing.respond
  case opened =>
    intro call member
    rw [opened, List.mem_append, List.mem_singleton] at member
    rcases member with earlier | rfl
    · exact later (playing.opened call earlier)
    · exact Nat.lt_succ_self _
  case flying =>
    intro other member
    rw [flying, List.mem_append, List.mem_singleton] at member
    rcases member with earlier | rfl
    · exact later (playing.flying other earlier)
    · exact Nat.lt_succ_self _
  case matched =>
    intro call member other inFlight same
    rw [opened, List.mem_append, List.mem_singleton] at member
    rw [flying, List.mem_append, List.mem_singleton] at inFlight
    rcases member with earlier | rfl <;> rcases inFlight with before | rfl
    · exact playing.matched call earlier other before same
    · exact absurd same (Nat.ne_of_lt (playing.opened call earlier))
    · exact absurd same.symm (Nat.ne_of_lt (playing.flying other before))
    · rfl
  case answered => exact noted.answered
  case judged => exact noted.judged

/-- The stage answers a submission that it holds by its own request. -/
theorem answer
    (playing : Playing scenario run)
    {completion : Completion Resp Fault run.flow.inFlight}
    {later : World ρ Req Resp Fault}
    (collected :
      (surroundings host : Surroundings _ _ _ _ Fault Refusal).collect run.outside
        run.flow.inFlight = (some completion, later)) :
    Playing scenario
      ({ run with
          outside := later
          flow := {
            run.flow with
            inFlight := run.flow.inFlight.eraseIdx completion.index } }.log
        (.answered (host.now later.host) (run.flow.inFlight.get completion.index)
          completion.answer)) := by
  let submission := run.flow.inFlight.get completion.index
  obtain ⟨slept, alike, _, answered⟩ := exists_slept collected
  obtain ⟨released, entry, opened, same, answer⟩ := answered completion rfl
  have handed : entry.handed = submission.handed := by
    refine playing.matched _ ?_ submission (List.get_mem _ _) same
    rw [← alike.handed]
    exact List.mem_map_of_mem opened
  have request : entry.request = submission.attempt.item.request := congrArg Prod.snd handed
  have left :
      Playing scenario
        ({ run with
          outside := later
          flow := {
            run.flow with
            inFlight := run.flow.inFlight.eraseIdx completion.index } } :
          Run (World ρ Req Resp Fault) Req Resp Ctx Fault Refusal) := by
    refine playing.left ?_ (List.eraseIdx_sublist _ _).subset rfl rfl
    change later.stage.LeftOf run.outside.stage
    rw [released]
    exact (MockStage.leftOf_release slept _).trans alike.leftOf
  apply left.log
  · intro given shown
    cases shown
    rw [answer, alike.respond, playing.respond, request]
  · intro judgement shown
    cases given : completion.answer with
    | ok response =>
        rw [given] at shown
        cases shown
    | error fault =>
        rw [given] at shown
        cases shown

/-- What a flow gives up is dropped by the stage. -/
theorem shutDown
    (playing : Playing scenario run)
    (host : Host ρ Req Resp Ctx Refusal) :
    Playing scenario (run.shutDown (surroundings host)) :=
  playing.left (MockStage.leftOf_dropAll _ _) (List.nil_subset _) rfl rfl

/-- Every move goes by the scenario if the classifier does. -/
theorem move
    (judges : host.Judges scenario)
    (playing : Playing scenario run)
    (move : Move (surroundings host) run after) :
    Playing scenario after := by
  cases move with
  | arrange flow same =>
      refine playing.left (.refl _) ?_ same.nextTicket rfl
      rw [same.inFlight]
      exact List.Subset.refl _
  | note event own =>
      cases event with
      | feedAsked | submitted | answered | judged | notified | aborted | cancelled => cases own
      | _ => exact playing.still _ rfl rfl
  | ask offered =>
      have apart := (congrArg (fun pulled => pulled.2.stage) offered).symm
      exact (playing.elapse apart).still _ rfl rfl
  | submit slot attempt place => exact playing.submit attempt place
  | miss unanswered =>
      obtain ⟨slept, alike, missed, _⟩ := exists_slept unanswered
      rw [← missed rfl] at alike
      exact playing.left alike.leftOf (List.Subset.refl _) rfl rfl
  | answer collected => exact playing.answer collected
  | @judge submission response verdict later classified =>
      have apart := (congrArg (fun judged => judged.2.stage) classified).symm
      apply (playing.elapse apart).log
      · intro answer shown
        cases shown
      · intro judgement shown
        cases shown
        exact (congrArg Prod.fst classified).symm.trans (judges _ _ _)
  | tell notice =>
      unfold Run.notify
      split
      · exact (playing.still (.notified _ notice) rfl rfl).elapse rfl
      · exact playing
  | look looked =>
      have apart := (congrArg (fun asked => asked.2.stage) looked).symm
      exact playing.elapse apart
  | abort error => exact (playing.still _ rfl rfl).shutDown host
  | cancel => exact (playing.still _ rfl rfl).shutDown host

end World.Playing

/-! ## Runs over a mock stage -/

namespace World.Attended

variable {host : Host ρ Req Resp Ctx Refusal}
variable {scenario : Scenario Req Resp Ctx Fault Refusal}
variable {settings : Settings}
variable {random : ChaCha12}
variable {latency : Req → Duration}
variable {state : ρ}
variable {position : Position}
variable {run : Run (World ρ Req Resp Fault) Req Resp Ctx Fault Refusal}

theorem playing
    (judges : host.Judges scenario)
    (attended :
      Attended host (World.begin settings random scenario.respond latency state) position run) :
    Playing scenario run := by
  induction attended with
  | start =>
      refine ⟨rfl, ?_, ?_, ?_, ?_, ?_⟩ <;>
        · intro _ member
          cases member
  | begin _ _ inductionHypothesis => exact inductionHypothesis
  | step _ stepped inductionHypothesis =>
      exact (Run.step_moves stepped).keeps (Playing.move judges) inductionHypothesis
  | elapse _ apart inductionHypothesis => exact inductionHypothesis.elapse apart
  | cancel _ inductionHypothesis => exact inductionHypothesis.move judges .cancel

/--
Over a mock stage that answers as the scenario says, only the feed is left to look at.

The latencies, and when and in which order submissions are woken, are of no matter.
-/
theorem played
    (judges : host.Judges scenario)
    (attended :
      Attended host (World.begin settings random scenario.respond latency state) position run)
    (fed : Journal.pulled run.events <+: scenario.items)
    (drained :
      ∀ now, .feedAsked now .ended ∈ run.events → Journal.pulled run.events = scenario.items) :
    scenario.Played run.events where
  fed := fed
  drained := drained
  answered := (attended.playing judges).answered
  judged := (attended.playing judges).judged

end World.Attended

end Resubmit
