import Resubmit.Proofs.Trails

namespace Resubmit

/-!
# Runs that can be reached

A run is followed from station to station.  What is outside of the flow may change
in any way at any time, so nothing is assumed about clocks, feeds and stages.  A
breakdown ends a run: there is no state in which it could be looked at again.
-/

variable {σ Req Resp Ctx Fault Refusal : Type}

/-- Where a run stands: between two polls, or at a station of one. -/
inductive Position where
  | idle
  | within (station : Station)
  deriving Repr, DecidableEq

/-- Whether the flow has ended with the result, by itself or with a fault. -/
def PollResult.ends : PollResult Resp Ctx Fault Refusal → Bool
  | .item (.error _) => true
  | .ended => true
  | _ => false

namespace Next

/-- Where a run stands after a station. -/
def position : Next Resp Ctx Fault Refusal → Position
  | .go station => .within station
  | .stop _ => .idle

/-- Whether the flow has ended. -/
def ends : Next Resp Ctx Fault Refusal → Bool
  | .go _ => false
  | .stop result => result.ends

end Next

/-- Cancelling is noted with the counts of the work that is given up. -/
@[simp] theorem Run.events_cancel
    (env : Surroundings σ Req Resp Ctx Fault Refusal)
    (run : Run σ Req Resp Ctx Fault Refusal) :
    (run.cancel env).events =
      run.events ++ [.cancelled run.flow.inFlightCount run.flow.pendingCount] := by
  simp [Run.events, Run.cancel, Run.log, Run.shutDown]

/-- The runs that can be reached from a beginning, and where they stand. -/
inductive Reached
    (env : Surroundings σ Req Resp Ctx Fault Refusal)
    (start : Run σ Req Resp Ctx Fault Refusal) :
    Position →
    Run σ Req Resp Ctx Fault Refusal →
    Prop where
  | start :
      Reached env start .idle start
  /-- A poll begins. -/
  | begin
      {run : Run σ Req Resp Ctx Fault Refusal}
      (reached : Reached env start .idle run)
      (running : run.flow.terminated = false) :
      Reached env start (.within .promote) run
  /-- A station is visited. -/
  | step
      {run after : Run σ Req Resp Ctx Fault Refusal}
      {station : Station}
      {next : Next Resp Ctx Fault Refusal}
      (reached : Reached env start (.within station) run)
      (stepped : run.step env station = (next, after))
      (sound : next.breaksDown = false) :
      Reached env start next.position after
  /-- Something changes outside. -/
  | elapse
      {run : Run σ Req Resp Ctx Fault Refusal}
      {position : Position}
      (outside : σ)
      (reached : Reached env start position run) :
      Reached env start position { run with outside := outside }
  /-- The flow is cancelled. -/
  | cancel
      {run : Run σ Req Resp Ctx Fault Refusal}
      (reached : Reached env start .idle run) :
      Reached env start .idle (run.cancel env)

namespace Flow

theorem told_of_observed
    {flow : Flow Req Ctx}
    (observed : flow.settings.observed = true)
    (now : Instant)
    (notice : Notice Resp) :
    flow.told now notice =
      [(.notified now notice : Event Req Resp Ctx Fault Refusal)] := by
  simp [told, observed]

theorem filterMap_told
    (see : Event Req Resp Ctx Fault Refusal → Option β)
    (blind : ∀ now notice, see (.notified now notice) = none)
    (flow : Flow Req Ctx)
    (now : Instant)
    (notice : Notice Resp) :
    (flow.told now notice).filterMap see = [] := by
  unfold told
  split <;> simp [blind]

theorem any_told
    (seek : Event Req Resp Ctx Fault Refusal → Bool)
    (blind : ∀ now notice, seek (.notified now notice) = false)
    (flow : Flow Req Ctx)
    (now : Instant)
    (notice : Notice Resp) :
    (flow.told now notice).any seek = false := by
  unfold told
  split <;> simp [blind]

theorem flatMap_told
    (see : Event Req Resp Ctx Fault Refusal → List β)
    (blind : ∀ now notice, see (.notified now notice) = [])
    (flow : Flow Req Ctx)
    (now : Instant)
    (notice : Notice Resp) :
    (flow.told now notice).flatMap see = [] := by
  unfold told
  split <;> simp [blind]

end Flow

section Deeds

variable {env : Surroundings σ Req Resp Ctx Fault Refusal}
variable {station : Station}
variable {before after : Scene Req Resp Ctx Fault Refusal}

theorem Deed.settings_eq
    {next : Option (Next Resp Ctx Fault Refusal)}
    (deed : Deed env station before next after) :
    after.flow.settings = before.flow.settings := by
  cases deed with
  | stageFault taken | refusal taken | exhaustionFault taken => exact taken.settings
  | done taken | dropBranch taken | exhaust taken | branch taken => exact taken.settings
  | _ => rfl

/-- A running flow has ended after a deed exactly when the deed says so. -/
theorem Deed.terminated_eq
    {next : Option (Next Resp Ctx Fault Refusal)}
    (running : before.flow.terminated = false)
    (deed : Deed env station before next after) :
    after.flow.terminated = next.any Next.ends := by
  cases deed with
  | stageFault | refusal | exhaustionFault | finish => rfl
  | done taken | dropBranch taken | exhaust taken | branch taken =>
      exact taken.terminated.trans running
  | _ => exact running

namespace Trail

variable {next : Next Resp Ctx Fault Refusal}

/-- A running flow has ended after a visit exactly when the visit says so. -/
theorem terminated_eq
    (running : before.flow.terminated = false)
    (trail : Trail env station before next after) :
    after.flow.terminated = next.ends := by
  induction trail with
  | last deed =>
      exact deed.terminated_eq running
  | more deed _ inductionHypothesis =>
      exact inductionHypothesis (deed.terminated_eq running)

/--
What every deed of a running flow keeps is kept by a visit to a station.

A deed of the visit leads nowhere yet, or it leads where the visit does.
-/
theorem keeps
    {settings : Settings}
    {Inv : Scene Req Resp Ctx Fault Refusal → Prop}
    (kept :
      ∀ {before label after},
        (∀ reached, label = some reached → reached = next) →
        before.flow.settings = settings →
        before.flow.terminated = false →
        Inv before →
        Deed env station before label after →
        Inv after)
    (options : before.flow.settings = settings)
    (running : before.flow.terminated = false)
    (holds : Inv before)
    (trail : Trail env station before next after) :
    Inv after := by
  induction trail with
  | last deed =>
      refine kept ?_ options running holds deed
      intro reached same
      exact (Option.some.inj same).symm
  | more deed _ inductionHypothesis =>
      refine
        inductionHypothesis kept
          (deed.settings_eq.trans options)
          (deed.terminated_eq running)
          (kept ?_ options running holds deed)
      intro reached same
      cases same

theorem settings_eq (trail : Trail env station before next after) :
    after.flow.settings = before.flow.settings := by
  induction trail with
  | last deed =>
      exact deed.settings_eq
  | more deed _ inductionHypothesis =>
      exact inductionHypothesis.trans deed.settings_eq

end Trail

end Deeds

namespace Reached

variable {env : Surroundings σ Req Resp Ctx Fault Refusal}
variable {start run : Run σ Req Resp Ctx Fault Refusal}

theorem running
    {station : Station}
    (reached : Reached env start (.within station) run) :
    run.flow.terminated = false := by
  generalize stands : Position.within station = position at reached
  induction reached generalizing station with
  | start => cases stands
  | begin _ running => exact running
  | @step _ _ _ next _ stepped _ inductionHypothesis =>
      obtain ⟨owed, trail, _⟩ := Run.step_trail stepped
      have ended := trail.terminated_eq (inductionHypothesis rfl)
      cases next with
      | go next => exact ended
      | stop result => cases stands
  | elapse _ _ inductionHypothesis => exact inductionHypothesis stands
  | cancel => cases stands

theorem settings_eq
    {position : Position}
    (reached : Reached env start position run) :
    run.flow.settings = start.flow.settings := by
  induction reached with
  | start => rfl
  | begin _ _ inductionHypothesis => exact inductionHypothesis
  | step _ stepped _ inductionHypothesis =>
      obtain ⟨owed, trail, _⟩ := Run.step_trail stepped
      exact trail.settings_eq.trans inductionHypothesis
  | elapse _ _ inductionHypothesis => exact inductionHypothesis
  | cancel _ inductionHypothesis => exact inductionHypothesis

/-- What every deed of a running flow and every cancelling keeps holds of every run. -/
theorem keeps
    (Inv : Scene Req Resp Ctx Fault Refusal → Prop)
    (holds : Inv (start.scene []))
    (deed :
      ∀ {station before label after},
        (∀ next, label = some next → next.breaksDown = false) →
        before.flow.settings = start.flow.settings →
        before.flow.terminated = false →
        Inv before →
        Deed env station before label after →
        Inv after)
    (cancel :
      ∀ {flow events},
        Inv ⟨flow, events, []⟩ →
        Inv ⟨flow.shutDown,
          events ++ [.cancelled flow.inFlightCount flow.pendingCount], []⟩)
    {position : Position}
    (reached : Reached env start position run) :
    Inv (run.scene []) := by
  induction reached with
  | start => exact holds
  | begin _ _ inductionHypothesis => exact inductionHypothesis
  | step reached stepped sound inductionHypothesis =>
      obtain ⟨owed, trail, settled⟩ := Run.step_trail stepped
      cases settled sound
      refine
        trail.keeps (fun onTheWay => deed ?_)
          reached.settings_eq reached.running inductionHypothesis
      intro next same
      rw [onTheWay next same]
      exact sound
  | elapse _ _ inductionHypothesis => exact inductionHypothesis
  | @cancel run _ inductionHypothesis =>
      rw [Run.scene, Run.events_cancel]
      exact cancel inductionHypothesis

end Reached

end Resubmit
