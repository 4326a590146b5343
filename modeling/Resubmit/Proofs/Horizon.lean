import Resubmit.Proofs.Draws
import Resubmit.Proofs.Drive

namespace Resubmit

/-!
# The horizon of the clock

A retry waits for an instant that the clock has to represent.  What a policy has to keep to is
only said of its own delays, so under an accepted one a delay may end beyond the last instant of
the clock.  The run then breaks down after the hook has been told of the retry.  Nothing else can
go wrong with it: while the longest delay stays in reach, every follow-up is scheduled.
-/

variable {σ Req Resp Ctx Fault Refusal : Type}

theorem Instant.after?_eq_none_iff {now : Instant} {delay : Duration} :
    now.after? delay = none ↔
      secondsLimit * nanosPerSecond ≤ now.nanos + delay.toNanos := by
  unfold after? later?
  split <;> simp <;> omega

theorem RetryQueue.schedule?_eq_none_iff
    {queue : RetryQueue α}
    {payload : α}
    {delay : Duration}
    {now : Instant} :
    queue.schedule? payload delay now = none ↔ now.after? delay = none := by
  unfold schedule?
  cases now.after? delay <;> simp

/-- A delay that can be drawn for a follow-up ends beyond the last instant of the clock. -/
def Debt.Overflows (policy : Policy) (debt : Debt Req Resp Ctx) : Prop :=
  ∃ source rest : ChaCha12,
    ∃ delay,
      policy.delay (debt.submission.attempt.number + 1) source = .ok (delay, rest) ∧
        debt.since.after? delay = none

/-- The longest delay ends beyond the clock, too. -/
theorem Debt.Overflows.beyond
    {policy : Policy}
    {debt : Debt Req Resp Ctx}
    (overflows : debt.Overflows policy)
    (sound : policy.fault? = none) :
    Instant.secondsLimit * nanosPerSecond ≤ debt.since.nanos + policy.max.toNanos := by
  obtain ⟨source, rest, delay, drawn, none⟩ := overflows
  have short := (Policy.of_delay sound drawn).1
  rw [Instant.after?_eq_none_iff] at none
  rw [Duration.le_iff_toNanos_le] at short
  omega

/-- The longest delay ends on the clock, counted from any judgement that asks for a retry. -/
def Journal.InReach
    (policy : Policy)
    (events : List (Event Req Resp Ctx Fault Refusal)) :
    Prop :=
  ∀ debt ∈ debts policy.maxAttempts events,
    debt.since.nanos + policy.max.toNanos < Instant.secondsLimit * nanosPerSecond

instance
    (policy : Policy)
    (events : List (Event Req Resp Ctx Fault Refusal)) :
    Decidable (Journal.InReach policy events) :=
  inferInstanceAs (Decidable (∀ debt ∈ _, _))

section Deeds

variable {env : Surroundings σ Req Resp Ctx Fault Refusal}
variable {station : Station}
variable {before after : Scene Req Resp Ctx Fault Refusal}
variable {settings : Settings}
variable {source : ChaCha12}

/-- What is left undone when a run breaks down was asked for, and its delay overflows the clock. -/
theorem Deed.overflows
    {cause : Breakdown}
    (deed : Deed env station before (some (.stop (.brokenDown cause))) after)
    (options : before.flow.settings = settings)
    (drawn : ∃ draws, before.Drawn settings source draws) :
    ∃ debt ∈ Journal.debts settings.policy.maxAttempts after.events,
      debt.Overflows settings.policy := by
  obtain ⟨draws, drawn⟩ := drawn
  cases deed with
  | @noDelay flow _ _ _ _ none =>
      exact (Policy.delay_ne_error flow.settings.policy_sound _ _ _ none).elim
  | @clockOverflow flow events debt owed delay random outside taken overflow =>
      refine ⟨debt, ?_, flow.random, random, delay, ?_, ?_⟩
      · rw [Journal.debts_append, drawn.asked]
        simp
      · rw [← options]
        exact taken
      · exact RetryQueue.schedule?_eq_none_iff.mp overflow

theorem Trail.overflows
    {next : Next Resp Ctx Fault Refusal}
    (trail : Trail env station before next after)
    (broken : next.breaksDown = true)
    (options : before.flow.settings = settings)
    (drawn : ∃ draws, before.Drawn settings source draws) :
    ∃ debt ∈ Journal.debts settings.policy.maxAttempts after.events,
      debt.Overflows settings.policy := by
  induction trail with
  | @last before after next deed =>
      cases next with
      | go => cases broken
      | stop result =>
          cases result with
          | brokenDown cause => exact deed.overflows options drawn
          | item | ended | pending => cases broken
  | more deed _ inductionHypothesis =>
      apply inductionHypothesis broken (deed.settings_eq.trans options)
      exact deed.drawn (fun _ same => nomatch same) options drawn

end Deeds

/--
What a visit to a station does about the retries that a response asks for.

Either all of them are scheduled, or the clock cannot represent when one of them is due.
-/
structure Next.Schedules
    (settings : Settings)
    (source : ChaCha12)
    (next : Next Resp Ctx Fault Refusal)
    (after : Run σ Req Resp Ctx Fault Refusal) :
    Prop where
  /-- A visit that does not break down leaves no follow-up out. -/
  scheduled :
    next.breaksDown = false →
    ∃ draws, after.InStep settings source (Journal.notices after.events) draws
  /-- A breakdown has just this one cause. -/
  overflows :
    next.breaksDown = true →
    next = .stop (.brokenDown .clockOverflow) ∧
      ∃ debt ∈ Journal.debts settings.policy.maxAttempts after.events,
        debt.Overflows settings.policy
  /-- As long as the longest delay is in reach, there is none. -/
  sound : Journal.InReach settings.policy after.events → next.breaksDown = false

/-- Under every accepted policy retries are scheduled, as far as the clock reaches. -/
theorem Reached.schedules
    {env : Surroundings σ Req Resp Ctx Fault Refusal}
    {builder : Builder}
    {entropy : ChaCha12}
    {flow : Flow Req Ctx}
    {outside : σ}
    {station : Station}
    {run after : Run σ Req Resp Ctx Fault Refusal}
    {next : Next Resp Ctx Fault Refusal}
    (built : builder.build entropy = .ok flow)
    (reached : Reached env (Run.start flow outside) (.within station) run)
    (stepped : run.step env station = (next, after)) :
    next.Schedules flow.settings flow.random after := by
  obtain ⟨settings, _, _, rfl⟩ := Builder.eq_start_of_build built
  have options : run.flow.settings = settings := reached.settings_eq
  obtain ⟨owed, trail, _⟩ := Run.step_trail stepped
  have broken (breaks : next.breaksDown = true) :=
    trail.overflows breaks options reached.drawn
  constructor
  case scheduled =>
    intro sound
    obtain ⟨draws, drawn⟩ := (reached.step stepped sound).drawn
    exact ⟨draws, .of_drawn drawn⟩
  case overflows =>
    intro breaks
    refine ⟨?_, broken breaks⟩
    cases next with
    | go => cases breaks
    | stop result =>
        cases result with
        | brokenDown cause => rw [trail.cause_eq]
        | item | ended | pending => cases breaks
  case sound =>
    intro inReach
    rw [← Bool.not_eq_true]
    intro breaks
    obtain ⟨debt, asked, overflows⟩ := broken breaks
    have within := inReach debt asked
    have beyond := overflows.beyond settings.policy_sound
    change
      debt.since.nanos + settings.policy.max.toNanos < Instant.secondsLimit * nanosPerSecond
      at within
    omega

/-- The first response of a countdown asks for two retries, and both are scheduled. -/
theorem Reached.schedules_countdown :
    let settings := Settings.undelayed 2 .emitLast
    let env := Surroundings.prompt (Scenario.countdown 9 [1])
    let start : Flow Nat Unit := Flow.start settings (ChaCha12.ofSeed 0)
    let begun := Run.prompt settings (Scenario.countdown 9 [1])
    let promoted := (begun.step env .promote).2
    let submitted := (promoted.step env .fill).2
    let unfed := (submitted.step env .fill).2
    let (next, after) := unfed.step env .collect
    (settings.builder 0).build (ChaCha12.ofSeed 1) = .ok start ∧
      Reached env begun (.within .collect) unfed ∧
      Journal.InReach settings.policy after.events ∧
      next.breaksDown = false ∧
      next.Schedules settings start.random after ∧
      (Journal.scheduled after.events).length = 2 := by
  intro settings env start begun promoted submitted unfed
  have built : (settings.builder 0).build (ChaCha12.ofSeed 1) = .ok start :=
    settings.build_builder _ _
  have begins : Reached env begun (.within .promote) begun := Reached.start.begin rfl
  have promotes : begun.step env .promote = (.go .fill, promoted) := rfl
  have submits : promoted.step env .fill = (.go .fill, submitted) := rfl
  have asks : submitted.step env .fill = (.go .fill, unfed) := rfl
  have leaves : unfed.step env .fill = (.go .collect, unfed) := rfl
  have reached : Reached env begun (.within .collect) unfed :=
    (((begins.step promotes rfl).step submits rfl).step asks rfl).step leaves rfl
  have schedules := Reached.schedules built reached rfl
  exact ⟨built, reached, by decide +kernel, by decide +kernel, schedules, by decide +kernel⟩

/-- Options with the longest delay that there is. -/
def Settings.longest : Settings where
  policy := { Policy.exponential .longest with maxAttempts := 1 }
  parallelism := 1
  retryCapacity := 1
  observed := true
  policy_sound :=
    have sound : (Policy.exponential .longest).fault? = none := by decide +kernel
    sound
  parallelism_pos := Nat.one_pos
  retryCapacity_pos := Nat.one_pos

/--
The longest delay is accepted, and the clock cannot represent its end.

A hook that keeps a record has been told of the delay by then.
-/
theorem Run.breaksDown_longest :
    let scenario := Scenario.countdown 9 [1]
    let env := Surroundings.prompt scenario
    let start : Flow Nat Unit := Flow.start Settings.longest (ChaCha12.ofSeed 0)
    let begun := Run.prompt Settings.longest scenario
    let (result, after) := begun.poll env 100
    let (_, recorded) := (begun.recorded .empty).poll env.recording 100
    (Settings.longest.builder 0).build (ChaCha12.ofSeed 1) = .ok start ∧
      (Journal.debts 1 after.events).map (fun debt => debt.submission.attempt.number) = [0, 0] ∧
      result.any PollResult.breaksDown = true ∧
      (Journal.retryNotices after.events).length = 1 ∧
      recorded.outside.record.told.map Notice.delay = [some .longest] ∧
      Journal.scheduled after.events = [] := by
  refine ⟨Settings.build_builder _ _ _, ?_, ?_, ?_, ?_, ?_⟩ <;> decide +kernel

end Resubmit
