import Resubmit.Proofs.FailStop
import Resubmit.Proofs.Prompt
import Resubmit.Proofs.Tally
import Resubmit.Simulation.Timetable

namespace Resubmit

/-!
# The census of a stage

Whatever is done to a flow, and however time passes, a mock stage that serves no other flow
has as many submissions in flight as the flow knows of, and never more than the flow has slots.
If the feed has enough items at hand when the flow is first polled, all slots are in use once.
-/

variable {ρ Req Resp Ctx Fault Refusal : Type}

namespace World

/-- A flow over a mock stage, before anything has happened. -/
def begin
    (settings : Settings)
    (random : ChaCha12)
    (respond : Req → Except Fault Resp)
    (latency : Req → Duration)
    (state : ρ) :
    Run (World ρ Req Resp Fault) Req Resp Ctx Fault Refusal :=
  Run.start (Flow.start settings random) (World.start (MockStage.answering respond latency) state)

/--
The runs of a flow to whose stage nobody else submits, and where they stand.

A poll may break down, and the flow may be polled again after that.
-/
inductive Attended
    (host : Host ρ Req Resp Ctx Refusal)
    (start : Run (World ρ Req Resp Fault) Req Resp Ctx Fault Refusal) :
    Position →
    Run (World ρ Req Resp Fault) Req Resp Ctx Fault Refusal →
    Prop where
  | start :
      Attended host start .idle start
  /-- A poll begins. -/
  | begin
      {run : Run (World ρ Req Resp Fault) Req Resp Ctx Fault Refusal}
      (attended : Attended host start .idle run)
      (running : run.flow.terminated = false) :
      Attended host start (.within .promote) run
  /-- A station is visited. -/
  | step
      {run after : Run (World ρ Req Resp Fault) Req Resp Ctx Fault Refusal}
      {station : Station}
      {next : Next Resp Ctx Fault Refusal}
      (attended : Attended host start (.within station) run)
      (stepped : run.step (surroundings host) station = (next, after)) :
      Attended host start next.position after
  /-- Time passes, submissions are woken, or something else changes away from the stage. -/
  | elapse
      {run : Run (World ρ Req Resp Fault) Req Resp Ctx Fault Refusal}
      {position : Position}
      {outside : World ρ Req Resp Fault}
      (attended : Attended host start position run)
      (apart : outside.stage = run.outside.stage) :
      Attended host start position { run with outside := outside }
  /-- The flow is cancelled. -/
  | cancel
      {run : Run (World ρ Req Resp Fault) Req Resp Ctx Fault Refusal}
      (attended : Attended host start .idle run) :
      Attended host start .idle (run.cancel (surroundings host))

namespace Attended

variable {host : Host ρ Req Resp Ctx Refusal}
variable {start run stood : Run (World ρ Req Resp Fault) Req Resp Ctx Fault Refusal}
variable {position : Position}

theorem tallied
    (attended : Attended host start position run)
    (begun : start.Tallied) :
    run.Tallied := by
  induction attended with
  | start => exact begun
  | begin _ _ inductionHypothesis => exact inductionHypothesis
  | step _ stepped inductionHypothesis => exact inductionHypothesis.step stepped
  | elapse _ apart inductionHypothesis => exact inductionHypothesis.elapse apart
  | cancel _ inductionHypothesis => exact inductionHypothesis.cancel

theorem events_prefix (attended : Attended host start position run) :
    start.events <+: run.events := by
  induction attended with
  | start => exact List.prefix_rfl
  | begin _ _ inductionHypothesis => exact inductionHypothesis
  | step _ stepped inductionHypothesis =>
      exact inductionHypothesis.trans (Run.events_prefix_of_step stepped)
  | elapse _ _ inductionHypothesis => exact inductionHypothesis
  | cancel _ inductionHypothesis =>
      rw [Run.events_cancel]
      exact inductionHypothesis.trans (List.prefix_append _ _)

theorem settings_eq (attended : Attended host start position run) :
    run.flow.settings = start.flow.settings := by
  induction attended with
  | start => rfl
  | begin _ _ inductionHypothesis => exact inductionHypothesis
  | step _ stepped inductionHypothesis =>
      obtain ⟨owed, trail, _⟩ := Run.step_trail stepped
      exact trail.settings_eq.trans inductionHypothesis
  | elapse _ _ inductionHypothesis => exact inductionHypothesis
  | cancel _ inductionHypothesis => exact inductionHypothesis

theorem running
    {station : Station}
    (attended : Attended host start (.within station) run) :
    run.flow.terminated = false := by
  generalize stands : Position.within station = position at attended
  induction attended generalizing station with
  | start => cases stands
  | begin _ running => exact running
  | @step _ _ _ next _ stepped inductionHypothesis =>
      obtain ⟨owed, trail, _⟩ := Run.step_trail stepped
      have ended := trail.terminated_eq (inductionHypothesis rfl)
      cases next with
      | go next => exact ended
      | stop result => cases stands
  | elapse _ _ inductionHypothesis => exact inductionHypothesis stands
  | cancel => cases stands

/-- A flow that has ended holds nothing. -/
theorem drained
    (attended : Attended host start position run)
    (begun : start.flow.terminated = false)
    (terminated : run.flow.terminated = true) :
    run.flow.Drained := by
  induction attended with
  | start =>
      rw [begun] at terminated
      cases terminated
  | begin _ running =>
      rw [running] at terminated
      cases terminated
  | step attended stepped =>
      obtain ⟨owed, trail, _⟩ := Run.step_trail stepped
      apply trail.drained
      rw [← trail.terminated_eq attended.running]
      exact terminated
  | elapse _ _ inductionHypothesis => exact inductionHypothesis terminated
  | @cancel run => exact run.flow.shutDown_drained

/-- A poll is attended from station to station. -/
theorem poll
    {budget : Nat}
    {result : PollResult Resp Ctx Fault Refusal}
    (attended : Attended host start .idle run)
    (polled : run.poll (surroundings host) budget = (some result, stood)) :
    Attended host start .idle stood := by
  cases terminated : run.flow.terminated with
  | true =>
      rw [Run.poll_of_terminated terminated] at polled
      cases polled
      exact attended
  | false =>
      refine Run.walk_induction
        (fun station => Attended host start (.within station))
        (fun _ => Attended host start .idle)
        ?_ ?_ (attended.begin terminated) terminated (Run.walk_of_poll terminated polled)
      · intro station next run after attended _ stepped
        exact attended.step stepped
      · intro station result run after attended _ stepped
        exact attended.step stepped

end Attended

end World

/-! ## The first poll -/

/-- The feed has so many items at hand. -/
def Host.Offers (host : Host ρ Req Resp Ctx Refusal) : Nat → ρ → Prop
  | 0, _ => True
  | count + 1, state =>
      ∃ item later, host.pull state = (.item item, later) ∧ host.Offers count later

/-- So many slots are still to be filled, and so many items are at hand. -/
structure World.Filling
    (host : Host ρ Req Resp Ctx Refusal)
    (count : Nat)
    (run : Run (World ρ Req Resp Fault) Req Resp Ctx Fault Refusal) :
    Prop where
  room : run.flow.inFlight.length + count = run.flow.settings.parallelism
  noRetries : run.flow.retries.size = 0
  feeding : run.flow.feedEnded = false
  offers : host.Offers count run.outside.host

namespace World.Filling

variable {host : Host ρ Req Resp Ctx Refusal}
variable {run after : Run (World ρ Req Resp Fault) Req Resp Ctx Fault Refusal}
variable {next : Next Resp Ctx Fault Refusal}
variable {count : Nat}

theorem promote
    (filling : Filling host count run)
    (stepped : run.promote (surroundings host) = (next, after)) :
    next = .go .fill ∧ Filling host count after := by
  cases stepped
  refine ⟨rfl, filling.room, ?_, filling.feeding, filling.offers⟩
  exact (RetryQueue.size_promoteDue _ _).trans filling.noRetries

/-- A slot is filled with the next item. -/
theorem fill
    (filling : Filling host (count + 1) run)
    (stepped : run.fill (surroundings host) = (next, after)) :
    next = .go .fill ∧ Filling host count after := by
  obtain ⟨item, later, offered, more⟩ := filling.offers
  have room := filling.room
  have slot : run.flow.HasSlot := by
    rw [Flow.HasSlot]
    omega
  have noneReady : run.flow.retries.ready = [] :=
    List.eq_nil_of_length_eq_zero (Nat.eq_zero_of_add_eq_zero_left filling.noRetries)
  have ungated : ¬ run.flow.Gated := by
    have capacity := run.flow.settings.retryCapacity_pos
    rintro (ended | full)
    · rw [filling.feeding] at ended
      cases ended
    · rw [filling.noRetries] at full
      omega
  have pulled :
      (surroundings host : Surroundings _ _ _ _ Fault _).pull run.outside =
        (.item item, { run.outside with host := later }) := by
    simp only [surroundings, offered]
  unfold Run.fill at stepped
  simp only [slot, RetryQueue.popReady?, noneReady, ungated, pulled, ↓reduceIte] at stepped
  cases stepped
  refine ⟨rfl, ?_, filling.noRetries, filling.feeding, more⟩
  change (run.flow.inFlight ++ [_]).length + count = run.flow.settings.parallelism
  rw [List.length_append, List.length_singleton]
  omega

/-- With no slot left to fill the flow has come to its full height. -/
theorem full
    (filling : Filling host 0 run)
    (tallied : run.Tallied) :
    run.flow.settings.parallelism ∈ Journal.heights run.events := by
  refine ⟨run.events, List.prefix_rfl, ?_⟩
  rw [← filling.room]
  exact tallied.standing_eq

end World.Filling

namespace Run

variable {host : Host ρ Req Resp Ctx Refusal}
variable {run after : Run (World ρ Req Resp Fault) Req Resp Ctx Fault Refusal}
variable {station : Station}

/-- All slots of the flow were in use at some time. -/
def Topped (run : Run (World ρ Req Resp Fault) Req Resp Ctx Fault Refusal) : Prop :=
  run.flow.settings.parallelism ∈ Journal.heights run.events

theorem Topped.grown
    (topped : run.Topped)
    (same : after.flow.settings = run.flow.settings)
    (longer : run.events <+: after.events) :
    after.Topped := by
  obtain ⟨earlier, before, high⟩ := topped
  refine ⟨earlier, before.trans longer, ?_⟩
  rw [same]
  exact high

theorem Topped.step
    {next : Next Resp Ctx Fault Refusal}
    (topped : run.Topped)
    (stepped : run.step (World.surroundings host) station = (next, after)) :
    after.Topped := by
  obtain ⟨owed, trail, _⟩ := step_trail stepped
  exact topped.grown trail.settings_eq (events_prefix_of_step stepped)

/-- What holds at a station of the first poll: slots are being filled, or all have been. -/
def Topping
    (host : Host ρ Req Resp Ctx Refusal)
    (station : Station)
    (run : Run (World ρ Req Resp Fault) Req Resp Ctx Fault Refusal) :
    Prop :=
  run.Tallied ∧
    (run.Topped ∨
      (station = .promote ∨ station = .fill) ∧ ∃ count, World.Filling host count run)

theorem Topping.step
    {next : Next Resp Ctx Fault Refusal}
    (topping : Topping host station run)
    (stepped : run.step (World.surroundings host) station = (next, after)) :
    after.Topped ∨ next = .go .fill ∧ Topping host .fill after := by
  obtain ⟨tallied, topped | ⟨early, count, filling⟩⟩ := topping
  · exact .inl (topped.step stepped)
  · have later := tallied.step stepped
    rcases early with rfl | rfl
    · obtain ⟨same, filling⟩ := filling.promote stepped
      exact .inr ⟨same, later, .inr ⟨.inr rfl, count, filling⟩⟩
    · cases count with
      | zero =>
          have topped : run.Topped := filling.full tallied
          exact .inl (topped.step stepped)
      | succ count =>
          obtain ⟨same, filling⟩ := filling.fill stepped
          exact .inr ⟨same, later, .inr ⟨.inr rfl, count, filling⟩⟩

/-- A first poll that finds enough items fills all slots. -/
theorem topped_of_poll
    {budget : Nat}
    {result : PollResult Resp Ctx Fault Refusal}
    (tallied : run.Tallied)
    (filling : World.Filling host run.flow.settings.parallelism run)
    (running : run.flow.terminated = false)
    (polled : run.poll (World.surroundings host) budget = (some result, after)) :
    after.Topped := by
  refine walk_induction
    (Topping host)
    (fun _ after => after.Topped)
    ?_ ?_ ?_ running (walk_of_poll running polled)
  · intro station next run after topping _ stepped
    rcases topping.step stepped with topped | ⟨same, topping⟩
    · exact ⟨topping.1.step stepped, .inl topped⟩
    · cases same
      exact topping
  · intro station result run after topping _ stepped
    rcases topping.step stepped with topped | ⟨same, _⟩
    · exact topped
    · cases same
  · exact ⟨tallied, .inr ⟨.inl rfl, _, filling⟩⟩

theorem exists_of_isSome
    {σ : Type}
    {env : Surroundings σ Req Resp Ctx Fault Refusal}
    {run : Run σ Req Resp Ctx Fault Refusal}
    {budget : Nat}
    (returns : (run.poll env budget).1.isSome = true) :
    ∃ result, run.poll env budget = (some result, (run.poll env budget).2) := by
  obtain ⟨result, same⟩ := Option.isSome_iff_exists.mp returns
  exact ⟨result, Prod.ext same rfl⟩

end Run

/-! ## The census -/

namespace World

/--
The run goes on from a first poll that found as many items at hand as the flow has slots.

Time may have passed before that poll, but the flow was not cancelled.
-/
def FedAtFirst
    (host : Host ρ Req Resp Ctx Refusal)
    (start run : Run (World ρ Req Resp Fault) Req Resp Ctx Fault Refusal) :
    Prop :=
  ∃ outside budget result polled position,
    outside.stage = start.outside.stage ∧
      host.Offers start.flow.settings.parallelism outside.host ∧
      Run.poll (surroundings host) budget { start with outside := outside } =
        (some result, polled) ∧
      Attended host polled position run

/-- What is known of the submissions in flight. -/
structure Census
    (host : Host ρ Req Resp Ctx Refusal)
    (start run : Run (World ρ Req Resp Fault) Req Resp Ctx Fault Refusal) :
    Prop where
  /-- The stage counts as many as the flow does. -/
  agrees : run.outside.stage.inFlight = run.flow.inFlightCount
  /-- These are the ones that were neither answered nor given up. -/
  standing :
    (Journal.calls run.events).length =
      Journal.departures run.events + run.outside.stage.inFlight
  /-- There are none once the flow has ended. -/
  ended : run.flow.terminated = true → run.outside.stage.inFlight = 0
  /-- One fewer is left with each that is dropped, in whatever order that is done. -/
  dropped :
    ∀ gone others,
      (run.flow.inFlight.map Submission.ticket).Perm (gone ++ others) →
      (run.outside.stage.dropAll gone).inFlight = others.length
  /-- There are none once the flow is done away with, and the records are kept. -/
  released :
    let left := (run.release (surroundings host)).stage
    left.inFlight = 0 ∧
      left.peak = run.outside.stage.peak ∧
      left.submissions = run.outside.stage.submissions
  /-- At no time were there fewer than none, or more than there are slots. -/
  bounded :
    ∀ earlier, earlier <+: run.events →
      Journal.departures earlier ≤ (Journal.calls earlier).length ∧
        (Journal.calls earlier).length ≤
          Journal.departures earlier + start.flow.settings.parallelism
  /-- The peak is the greatest number that there ever was. -/
  peak : IsGreatest (Journal.heights run.events) run.outside.stage.peak
  peak_le : run.outside.stage.peak ≤ start.flow.settings.parallelism
  /-- All slots were in use once if there were enough items for them from the first. -/
  filled :
    FedAtFirst host start run →
      run.outside.stage.peak = start.flow.settings.parallelism
  /-- Every call of the stage was recorded once, in order. -/
  recorded : run.outside.stage.submissions.toList = Journal.calls run.events

variable {host : Host ρ Req Resp Ctx Refusal}
variable {settings : Settings}
variable {random : ChaCha12}
variable {respond : Req → Except Fault Resp}
variable {latency : Req → Duration}
variable {state : ρ}
variable {position : Position}
variable {run : Run (World ρ Req Resp Fault) Req Resp Ctx Fault Refusal}

theorem tallied_begin :
    (World.begin settings random respond latency state :
      Run (World ρ Req Resp Fault) Req Resp Ctx Fault Refusal).Tallied :=
  Tally.start settings.parallelism respond latency

/-- All slots have been in use after a first poll with enough items. -/
theorem FedAtFirst.topped
    (fed : FedAtFirst host (World.begin settings random respond latency state) run) :
    run.Tallied ∧ run.Topped := by
  obtain ⟨outside, budget, result, polled, position, untouched, offers, first, attended⟩ := fed
  have before := tallied_begin.elapse untouched
  have after := (Attended.start.poll first).tallied before
  have topped :=
    Run.topped_of_poll before ⟨Nat.zero_add _, rfl, rfl, offers⟩ rfl first
  exact ⟨attended.tallied after, topped.grown attended.settings_eq attended.events_prefix⟩

/-- The census of a flow holds, whatever is done to it. -/
theorem Attended.census
    (attended :
      Attended host (World.begin settings random respond latency state) position run) :
    Census host (World.begin settings random respond latency state) run := by
  have tally : run.Tallied := attended.tallied tallied_begin
  have same : run.flow.settings = settings := attended.settings_eq
  have bounded := Tally.bounded tally
  have peak_le := Tally.peak_le tally
  rw [same] at bounded peak_le
  constructor
  case agrees => exact tally.inFlight_eq
  case standing =>
    rw [tally.inFlight_eq]
    exact tally.balanced
  case ended =>
    intro terminated
    rw [tally.inFlight_eq, (attended.drained rfl terminated).inFlight]
    rfl
  case dropped =>
    intro gone others split
    exact Tally.inFlight_dropAll tally split
  case released =>
    have every :
        (run.outside.stage.opened.map Open.ticket).Perm
          (run.flow.inFlight.map Submission.ticket ++ []) := by
      rw [List.append_nil]
      exact tally.tickets
    obtain ⟨none, counts, recorded, peak⟩ := MockStage.dropAll_spec every tally.counts
    have length := none.length_eq
    rw [List.length_map] at length
    exact ⟨counts.trans length, peak, recorded⟩
  case bounded => exact bounded
  case peak => exact tally.peak
  case peak_le => exact peak_le
  case filled =>
    intro fed
    have topped := fed.topped.2
    rw [Run.Topped, same] at topped
    exact Nat.le_antisymm peak_le (tally.peak.2 topped)
  case recorded => exact tally.recorded

/-- What is outside once the clock has come to an instant and submissions have been woken. -/
def awake
    (now : Instant)
    (tickets : List Nat)
    (world : World (Timetable Req Ctx) Req Resp Fault) :
    World (Timetable Req Ctx) Req Resp Fault :=
  tickets.foldl wake { world with host := { world.host with clock := now } }

theorem Attended.awake
    {host : Host (Timetable Req Ctx) Req Resp Ctx Refusal}
    {start run : Run (World (Timetable Req Ctx) Req Resp Fault) Req Resp Ctx Fault Refusal}
    {position : Position}
    (attended : Attended host start position run)
    (now : Instant)
    (tickets : List Nat) :
    Attended host start position { run with outside := run.outside.awake now tickets } :=
  attended.elapse (stage_foldl_wake _ _)

/--
A countdown over a stage that takes ten milliseconds to answer.

Both slots are filled by the first poll, and again when the next one finds both answers.
-/
theorem Attended.census_countdown :
    let host : Host (Timetable Nat Unit) Nat Nat Unit Unit :=
      Timetable.host fun response context => .ok (Verdict.countdown response context)
    let begun : Run (World (Timetable Nat Unit) Nat Nat Unit) Nat Nat Unit Unit Unit :=
      World.begin (Settings.undelayed 3 .emitLast) (ChaCha12.ofSeed 0)
        .ok (fun _ => Duration.ofMillis 10)
        (Timetable.ofItems [⟨2, ()⟩, ⟨1, ()⟩, ⟨3, ()⟩])
    let asleep := (begun.poll (surroundings host) 100).2
    let woken := { asleep with outside := asleep.outside.awake ⟨10000000⟩ [0, 1] }
    let after := (woken.poll (surroundings host) 100).2
    Attended host begun .idle after ∧
      FedAtFirst host begun after ∧
      Census host begun after ∧
      after.outside.stage.inFlight = 2 ∧
      after.outside.stage.peak = 2 ∧
      (after.outside.stage.submissions.toList.map Submitted.request) = [2, 1, 1, 0] := by
  intro host begun asleep woken after
  obtain ⟨first, firstPoll⟩ :
      ∃ result, begun.poll (surroundings host) 100 = (some result, asleep) :=
    Run.exists_of_isSome (by decide +kernel)
  obtain ⟨second, secondPoll⟩ :
      ∃ result, woken.poll (surroundings host) 100 = (some result, after) :=
    Run.exists_of_isSome (by decide +kernel)
  have goesOn : Attended host asleep .idle after :=
    (Attended.start.awake ⟨10000000⟩ [0, 1]).poll secondPoll
  have attended : Attended host begun .idle after :=
    ((Attended.start.poll firstPoll).awake ⟨10000000⟩ [0, 1]).poll secondPoll
  have fed : FedAtFirst host begun after :=
    ⟨begun.outside, 100, first, asleep, .idle, rfl,
      ⟨_, _, rfl, _, _, rfl, trivial⟩, firstPoll, goesOn⟩
  exact ⟨attended, fed, Attended.census attended, by decide +kernel⟩

/-- A flow that is cancelled before its first poll leaves all items with the feed. -/
theorem Attended.unfilled_of_cancelled :
    let settings := Settings.undelayed 3 .emitLast
    let host : Host (Timetable Nat Unit) Nat Nat Unit Unit :=
      Timetable.host fun response context => .ok (Verdict.countdown response context)
    let begun : Run (World (Timetable Nat Unit) Nat Nat Unit) Nat Nat Unit Unit Unit :=
      World.begin settings (ChaCha12.ofSeed 0)
        .ok (fun _ => .zero) (Timetable.ofItems [⟨1, ()⟩, ⟨2, ()⟩])
    let cancelled := begun.cancel (surroundings host)
    Attended host begun .idle cancelled ∧
      host.Offers settings.parallelism cancelled.outside.host ∧
      cancelled.poll (surroundings host) 1 = (some .ended, cancelled) ∧
      cancelled.outside.stage.peak ≠ settings.parallelism := by
  intro settings host begun cancelled
  exact
    ⟨Attended.start.cancel, ⟨_, _, rfl, _, _, rfl, trivial⟩,
      Run.poll_of_terminated rfl 1, by decide +kernel⟩

end World

end Resubmit
