import Resubmit.Proofs.Jitter
import Resubmit.Proofs.Progress

namespace Resubmit

/-!
# A flow that is polled again and again ends

A poll in which nothing gets done leaves the flow waiting for an answer of the stage, for its
timer, or for the feed.  When what it waits for has come about, the next poll gets something
done.  There is only so much to be done, so in the end the flow has nothing to wait for.
-/

variable {σ Req Resp Ctx Fault Refusal : Type}

/-! ## Why a poll breaks down -/

section Breakdowns

variable {env : Surroundings σ Req Resp Ctx Fault Refusal}
variable {station : Station}
variable {cause : Breakdown}

theorem Deed.cause_eq
    {before after : Scene Req Resp Ctx Fault Refusal}
    (deed : Deed env station before (some (.stop (.brokenDown cause))) after) :
    cause = .clockOverflow := by
  cases deed with
  | @noDelay flow _ _ _ _ drawn =>
      exact (Policy.delay_ne_error flow.settings.policy_sound _ _ _ drawn).elim
  | clockOverflow => rfl

theorem Trail.cause_eq
    {before after : Scene Req Resp Ctx Fault Refusal}
    (trail : Trail env station before (.stop (.brokenDown cause)) after) :
    cause = .clockOverflow := by
  generalize broken : Next.stop (PollResult.brokenDown cause) = next at trail
  induction trail with
  | last deed =>
      subst broken
      exact deed.cause_eq
  | more _ _ inductionHypothesis => exact inductionHypothesis broken

/-- A poll breaks down only when the clock cannot represent the end of a delay. -/
theorem Run.cause_of_poll
    {run after : Run σ Req Resp Ctx Fault Refusal}
    {result : PollResult Resp Ctx Fault Refusal}
    {budget : Nat}
    (polled : run.poll env budget = (some result, after))
    (broken : result.breaksDown = true) :
    result = .brokenDown .clockOverflow := by
  cases terminated : run.flow.terminated with
  | true =>
      rw [poll_of_terminated terminated] at polled
      cases polled
      cases broken
  | false =>
      refine walk_induction
        (fun _ _ => True)
        (fun result _ => result.breaksDown = true → result = .brokenDown .clockOverflow)
        ?_ ?_ trivial terminated (walk_of_poll terminated polled) broken
      · intro station next run after _ _ _
        trivial
      · intro station result run after _ _ stepped broken
        obtain ⟨owed, trail, _⟩ := step_trail stepped
        cases result with
        | brokenDown cause => rw [trail.cause_eq]
        | item | ended | pending => cases broken

end Breakdowns

/-! ## Polls in which nothing gets done -/

theorem Run.events_prefix_of_poll
    {env : Surroundings σ Req Resp Ctx Fault Refusal}
    {run after : Run σ Req Resp Ctx Fault Refusal}
    {result : PollResult Resp Ctx Fault Refusal}
    {budget : Nat}
    (polled : run.poll env budget = (some result, after)) :
    run.events <+: after.events := by
  refine keeps_of_poll (fun _ events => run.events <+: events) ?_ List.prefix_rfl polled
  intro station before next later _ kept deed
  exact kept.trans deed.events_prefix

theorem Deed.advances_of_stop
    {env : Surroundings σ Req Resp Ctx Fault Refusal}
    {before after : Scene Req Resp Ctx Fault Refusal}
    {result : PollResult Resp Ctx Fault Refusal}
    (deed : Deed env .collect before (some (.stop result)) after) :
    result.breaksDown = true ∨
      Journal.progress before.events < Journal.progress after.events := by
  cases deed with
  | noDelay | clockOverflow => exact .inl rfl
  | stageFault | refusal | done | exhaust | exhaustionFault =>
      right
      simp only [Journal.progress, List.countP_append, List.countP_cons, Event.advances,
        ↓reduceIte]
      omega

theorem Trail.advances_of_stop
    {env : Surroundings σ Req Resp Ctx Fault Refusal}
    {before after : Scene Req Resp Ctx Fault Refusal}
    {result : PollResult Resp Ctx Fault Refusal}
    (trail : Trail env .collect before (.stop result) after) :
    result.breaksDown = true ∨
      Journal.progress before.events < Journal.progress after.events := by
  generalize stops : Next.stop result = next at trail
  induction trail with
  | last deed =>
      subst stops
      exact deed.advances_of_stop
  | more deed _ inductionHypothesis =>
      have kept := Journal.progress_le_of_prefix deed.events_prefix
      exact (inductionHypothesis stops).imp_right kept.trans_lt

theorem RetryQueue.promoteDue_of_ready_eq_nil
    {queue : RetryQueue α}
    {now : Instant}
    (noneReady : (queue.promoteDue now).2.ready = []) :
    (queue.promoteDue now).2 = queue := by
  obtain ⟨before, none⟩ := List.append_eq_nil_iff.mp noneReady
  have whole :=
    List.takeWhile_append_dropWhile (p := isDue now) (l := queue.scheduled)
  rw [none, List.nil_append] at whole
  simp only [promoteDue, whole, none, List.append_nil]

namespace Run

variable {env : Surroundings σ Req Resp Ctx Fault Refusal}
variable {run between after : Run σ Req Resp Ctx Fault Refusal}
variable {station next : Station}

/-- How far a poll of a run has come in which nothing got done yet. -/
inductive Idles
    (env : Surroundings σ Req Resp Ctx Fault Refusal)
    (run : Run σ Req Resp Ctx Fault Refusal) :
    Station →
    Run σ Req Resp Ctx Fault Refusal →
    Prop where
  | promote :
      Idles env run .promote run
  | fill :
      Idles env run .fill (run.promote env).2
  | collect
      {filled : Run σ Req Resp Ctx Fault Refusal}
      (fills : (run.promote env).2.Fills env (.go .collect) filled) :
      Idles env run .collect filled
  | timer
      {filled : Run σ Req Resp Ctx Fault Refusal}
      {later : σ}
      (fills : (run.promote env).2.Fills env (.go .collect) filled)
      (unanswered : env.collect filled.outside filled.flow.inFlight = (none, later)) :
      Idles env run .timer { filled with outside := later }

theorem Idles.visit
    (idles : Idles env run station between)
    (stepped : between.step env station = (.go next, after))
    (idle : Journal.progress after.events = Journal.progress between.events) :
    Idles env run next after := by
  have nearer : next.rank < station.rank :=
    (step_advances stepped).resolve_right (by omega)
  cases idles with
  | promote =>
      cases stepped
      exact .fill
  | fill =>
      have fills := fills_of_step stepped
      cases next with
      | collect => exact .collect fills
      | timer => cases fills
      | promote | fill => exact absurd nearer (by decide)
  | collect fills =>
      rcases collect_go stepped with ⟨rfl, _⟩ | ⟨rfl, unanswered, same⟩
      · exact absurd nearer (by decide)
      · rw [same]
        exact .timer fills unanswered
  | timer => exact absurd nearer (Nat.not_lt_zero _)

/-- A poll in which nothing got done has looked at the timer last of all. -/
theorem idles_of_poll
    {result : PollResult Resp Ctx Fault Refusal}
    {budget : Nat}
    (running : run.flow.terminated = false)
    (polled : run.poll env budget = (some result, after))
    (sound : result.breaksDown = false)
    (idle : Journal.progress after.events = Journal.progress run.events) :
    ∃ between, Idles env run .timer between ∧ between.step env .timer = (.stop result, after) := by
  have ends := walk_induction
    (fun station between =>
      Journal.progress run.events ≤ Journal.progress between.events ∧
        (Journal.progress between.events = Journal.progress run.events →
          Idles env run station between))
    (fun result after =>
      result.breaksDown = false →
      Journal.progress after.events = Journal.progress run.events →
      ∃ between, Idles env run .timer between ∧ between.step env .timer = (.stop result, after))
    ?_ ?_ ⟨Nat.le_refl _, fun _ => .promote⟩ running (walk_of_poll running polled)
  · exact ends sound idle
  · intro station next between after ⟨least, idles⟩ _ stepped
    have kept := Journal.progress_le_of_prefix (events_prefix_of_step stepped)
    refine ⟨least.trans kept, ?_⟩
    intro idle
    exact (idles (by omega)).visit stepped (by omega)
  · intro station result between after ⟨least, idles⟩ _ stepped sound idle
    have kept := Journal.progress_le_of_prefix (events_prefix_of_step stepped)
    have idles := idles (by omega)
    cases station with
    | promote => cases stepped
    | fill => cases fills_of_step stepped
    | collect =>
        obtain ⟨owed, trail, _⟩ := step_trail stepped
        rcases trail.advances_of_stop with broken | advanced
        · rw [sound] at broken
          cases broken
        · change Journal.progress between.events < Journal.progress after.events at advanced
          omega
    | timer => exact ⟨between, idles, stepped⟩

/-- What a poll has done in which nothing got done. -/
structure Idle
    (env : Surroundings σ Req Resp Ctx Fault Refusal)
    (run after : Run σ Req Resp Ctx Fault Refusal) :
    Prop where
  inFlight : after.flow.inFlight = run.flow.inFlight
  /-- The stage and the timer were asked, and before them the feed perhaps, all in vain. -/
  asked :
    ∃ asked looked,
      (asked = run.outside ∨ env.pull run.outside = (.pending, asked)) ∧
        env.collect asked run.flow.inFlight = (none, looked) ∧
        ∀ deadline,
          after.flow.retries.timer = some deadline →
          (env.timerFired looked deadline).1 = false
  /-- Without a submission in flight nothing became due. -/
  unmoved :
    run.flow.inFlight = [] →
    after.flow = { run.flow with retries := run.flow.retries.rearmed }
  /-- Without a retry either the feed was asked, and in vain. -/
  waited :
    run.flow.inFlight = [] →
    run.flow.retries.scheduled = [] →
    (env.pull run.outside).1 = .pending ∧
      ∃ call, after.events = run.events ++ call ∧ Journal.FeedWaited call

theorem Fills.of_collect
    (fills : run.Fills env (.go .collect) after) :
    after.flow = run.flow ∧
      (after.outside = run.outside ∨ env.pull run.outside = (.pending, after.outside)) ∧
      (run.flow.HasSlot → run.flow.retries.ready = []) := by
  cases fills with
  | leaveFeed reason =>
      refine ⟨rfl, .inl rfl, ?_⟩
      intro slot
      exact (reason.resolve_left (not_not_intro slot)).1
  | feedWaits _ noneReady _ offered => exact ⟨rfl, .inr offered, fun _ => noneReady⟩

theorem Idles.idle
    (idles : Idles env run .timer between)
    (stepped : between.step env .timer = (.stop .pending, after)) :
    Idle env run after := by
  obtain ⟨unsettled, rearmed, journal⟩ := flow_of_wait stepped
  have looked := outside_of_wait stepped
  cases idles with
  | @timer filled later fills unanswered =>
      obtain ⟨flow, asked, noneReady⟩ := fills.of_collect
      simp only [flow] at unsettled rearmed looked
      rw [flow] at unanswered
      have still (noneFlying : run.flow.inFlight = []) : (run.promote env).2.flow = run.flow := by
        have slot : run.flow.HasSlot := Flow.hasSlot_of_inFlight_eq_nil noneFlying
        calc (run.promote env).2.flow
          _ = { run.flow with
                retries := (run.flow.retries.promoteDue (env.now run.outside)).2 } := rfl
          _ = run.flow := by rw [RetryQueue.promoteDue_of_ready_eq_nil (noneReady slot)]
      constructor
      case inFlight =>
        rw [rearmed]
        rfl
      case asked =>
        refine ⟨filled.outside, later, asked, unanswered, ?_⟩
        intro deadline armed
        rw [rearmed] at armed
        rcases looked with ⟨none, _⟩ | ⟨other, some, quiet⟩
        · rw [RetryQueue.rearmed, none] at armed
          cases armed
        · rw [RetryQueue.rearmed, some] at armed
          cases armed
          rw [quiet]
      case unmoved =>
        intro noneFlying
        rw [rearmed, still noneFlying]
      case waited =>
        intro noneFlying noneWaiting
        have slot : run.flow.HasSlot := Flow.hasSlot_of_inFlight_eq_nil noneFlying
        have noPending : run.flow.retries.size = 0 := by
          have ready := noneReady slot
          rw [still noneFlying] at ready
          rw [RetryQueue.size, noneWaiting, ready]
          rfl
        rw [still noneFlying] at unsettled
        cases fills with
        | leaveFeed reason =>
            rw [still noneFlying] at reason
            obtain ⟨_, ended | full⟩ := reason.resolve_left (not_not_intro slot)
            · exact (unsettled ⟨ended, by rw [noneFlying]; rfl, noPending⟩).elim
            · have positive := run.flow.settings.retryCapacity_pos
              omega
        | @feedWaits unfed _ _ _ offered =>
            have grown :
                after.events = run.events ++ [
                  .roundBegun (env.now run.outside),
                  .feedAsked (env.now unfed) .pending] := by
              rw [journal]
              change ((run.log _).asked env .pending unfed).events = _
              rw [events_asked, events_log, List.append_assoc]
              rfl
            refine ⟨congrArg Prod.fst offered, _, grown, env.now unfed, ?_⟩
            exact List.mem_cons_of_mem _ List.mem_cons_self

end Run

/-! ## Surroundings in which nothing is undone -/

/--
Calls that come to nothing undo nothing.

When the stage has completed a submission, it hands one out, and it has still completed it after
the feed was asked in vain.  Likewise a timer that has gone off is seen to have.
-/
structure Surroundings.Steady
    (env : Surroundings σ Req Resp Ctx Fault Refusal)
    (completed : σ → Submission Req Ctx → Prop) :
    Prop where
  handsOut : env.HandsOut completed
  completed_of_pull :
    ∀ {outside later submission},
      env.pull outside = (.pending, later) →
      completed outside submission →
      completed later submission
  fired_of_pull :
    ∀ {outside later deadline},
      env.pull outside = (.pending, later) →
      (env.timerFired outside deadline).1 = true →
      (env.timerFired later deadline).1 = true
  fired_of_collect :
    ∀ {outside later deadline inFlight},
      env.collect outside inFlight = (none, later) →
      (env.timerFired outside deadline).1 = true →
      (env.timerFired later deadline).1 = true

namespace Run.Idle

variable {env : Surroundings σ Req Resp Ctx Fault Refusal}
variable {completed : σ → Submission Req Ctx → Prop}
variable {run after : Run σ Req Resp Ctx Fault Refusal}

theorem uncompleted
    (idle : run.Idle env after)
    (steady : env.Steady completed)
    {submission : Submission Req Ctx}
    (flying : submission ∈ run.flow.inFlight) :
    ¬ completed run.outside submission := by
  obtain ⟨asked, looked, pulled, unanswered, _⟩ := idle.asked
  intro done
  apply steady.handsOut asked looked _ unanswered submission flying
  rcases pulled with rfl | offered
  · exact done
  · exact steady.completed_of_pull offered done

theorem unfired
    (idle : run.Idle env after)
    (steady : env.Steady completed)
    {deadline : Instant}
    (armed : after.flow.retries.timer = some deadline) :
    (env.timerFired run.outside deadline).1 = false := by
  obtain ⟨asked, looked, pulled, unanswered, quiet⟩ := idle.asked
  rw [← Bool.not_eq_true]
  intro fired
  have fired : (env.timerFired asked deadline).1 = true := by
    rcases pulled with rfl | offered
    · exact fired
    · exact steady.fired_of_pull offered fired
  have fired := steady.fired_of_collect unanswered fired
  rw [quiet deadline armed] at fired
  cases fired

end Run.Idle

/-! ## Polls without end -/

/-- A flow that is polled again and again, while anything may change outside between two polls. -/
structure Drive
    (env : Surroundings σ Req Resp Ctx Fault Refusal)
    (start : Run σ Req Resp Ctx Fault Refusal) where
  /-- The run before each poll. -/
  before : Nat → Run σ Req Resp Ctx Fault Refusal
  /-- The run after each poll. -/
  after : Nat → Run σ Req Resp Ctx Fault Refusal
  result : Nat → PollResult Resp Ctx Fault Refusal
  starts : before 0 = start
  polled :
    ∀ turn, ∃ budget, (before turn).poll env budget = (some (result turn), after turn)
  elapses :
    ∀ turn, ∃ outside, before (turn + 1) = { after turn with outside := outside }

namespace Drive

variable {env : Surroundings σ Req Resp Ctx Fault Refusal}
variable {start : Run σ Req Resp Ctx Fault Refusal}
variable {completed : σ → Submission Req Ctx → Prop}

/-- What a poll noted. -/
def call (drive : Drive env start) (turn : Nat) :
    List (Event Req Resp Ctx Fault Refusal) :=
  (drive.after turn).events.drop (drive.before turn).events.length

/-- No delay ever ends at an instant that the clock cannot represent. -/
def Representable (drive : Drive env start) : Prop :=
  ∀ turn, drive.result turn ≠ .brokenDown .clockOverflow

/-- What the flow waits for has come about before one of the next polls, if it still waits. -/
structure Fair
    (completed : σ → Submission Req Ctx → Prop)
    (drive : Drive env start) :
    Prop where
  /-- Every submission is completed. -/
  completes :
    ∀ turn, ∀ submission ∈ (drive.after turn).flow.inFlight,
      ∃ later > turn,
        submission ∈ (drive.before later).flow.inFlight →
        completed (drive.before later).outside submission
  /-- Every timer goes off. -/
  fires :
    ∀ turn deadline,
      (drive.after turn).flow.retries.timer = some deadline →
      ∃ later > turn,
        (drive.before later).flow.retries.timer = some deadline →
        (env.timerFired (drive.before later).outside deadline).1 = true
  /-- A feed that had nothing to offer yet has got something, or it has ended. -/
  offers :
    ∀ turn,
      Journal.FeedWaited (drive.call turn) →
      ∃ later > turn,
        Journal.FeedWaited (drive.call later) →
        (env.pull (drive.before later).outside).1 ≠ .pending

section Turns

variable {drive : Drive env start}

theorem flow_succ (drive : Drive env start) (turn : Nat) :
    (drive.before (turn + 1)).flow = (drive.after turn).flow := by
  obtain ⟨outside, same⟩ := drive.elapses turn
  rw [same]

theorem events_succ (drive : Drive env start) (turn : Nat) :
    (drive.before (turn + 1)).events = (drive.after turn).events := by
  obtain ⟨outside, same⟩ := drive.elapses turn
  rw [same]
  rfl

theorem call_eq
    {drive : Drive env start}
    {turn : Nat}
    {call : List (Event Req Resp Ctx Fault Refusal)}
    (grown : (drive.after turn).events = (drive.before turn).events ++ call) :
    drive.call turn = call := by
  rw [Drive.call, grown, List.drop_left]

theorem sound
    (representable : drive.Representable)
    (turn : Nat) :
    (drive.result turn).breaksDown = false := by
  obtain ⟨budget, polled⟩ := drive.polled turn
  cases broken : (drive.result turn).breaksDown with
  | false => rfl
  | true => exact (representable turn (Run.cause_of_poll polled broken)).elim

/-- Every run before a poll is one that can be reached. -/
theorem reached
    (representable : drive.Representable)
    (turn : Nat) :
    Reached env start .idle (drive.before turn) := by
  induction turn with
  | zero =>
      rw [drive.starts]
      exact .start
  | succ turn inductionHypothesis =>
      obtain ⟨budget, polled⟩ := drive.polled turn
      obtain ⟨outside, same⟩ := drive.elapses turn
      rw [same]
      exact
        (Run.reached_of_poll inductionHypothesis polled (sound representable turn)).elapse
          outside

theorem progress_le (drive : Drive env start) (turn : Nat) :
    Journal.progress (drive.before turn).events ≤ Journal.progress (drive.after turn).events := by
  obtain ⟨budget, polled⟩ := drive.polled turn
  exact Journal.progress_le_of_prefix (Run.events_prefix_of_poll polled)

theorem progress_le_of_le
    (drive : Drive env start)
    {turn later : Nat}
    (le : turn ≤ later) :
    Journal.progress (drive.after turn).events ≤ Journal.progress (drive.after later).events := by
  induction later, le using Nat.le_induction with
  | base => exact Nat.le_refl _
  | succ later _ inductionHypothesis =>
      apply inductionHypothesis.trans
      rw [← drive.events_succ later]
      exact drive.progress_le (later + 1)

theorem idle
    (representable : drive.Representable)
    {turn : Nat}
    (lasting : drive.result turn ≠ .ended)
    (idle :
      Journal.progress (drive.after turn).events = Journal.progress (drive.before turn).events) :
    (drive.before turn).Idle env (drive.after turn) := by
  obtain ⟨budget, polled⟩ := drive.polled turn
  obtain ⟨between, idles, stepped⟩ :=
    Run.idles_of_poll (Run.running_of_poll polled lasting) polled (sound representable turn)
      idle
  have deed := Run.lookAtTimer_deed stepped
  generalize drive.result turn = result at lasting stepped deed
  generalize (drive.after turn).scene [] = scene at deed
  cases deed with
  | finish => exact (lasting rfl).elim
  | wait => exact idles.idle stepped

/-- From a turn on nothing gets done any more. -/
def Stuck (drive : Drive env start) (turn : Nat) : Prop :=
  ∀ later ≥ turn, (drive.before (later + 1)).Idle env (drive.after (later + 1))

namespace Stuck

variable {turn : Nat}

theorem inFlight_eq
    (stuck : drive.Stuck turn)
    {later : Nat}
    (le : turn ≤ later) :
    (drive.after later).flow.inFlight = (drive.after turn).flow.inFlight := by
  induction later, le using Nat.le_induction with
  | base => rfl
  | succ later le inductionHypothesis =>
      rw [(stuck later le).inFlight, drive.flow_succ, inductionHypothesis]

theorem unmoved
    (stuck : drive.Stuck turn)
    (noneFlying : (drive.after turn).flow.inFlight = [])
    {later : Nat}
    (le : turn ≤ later) :
    (drive.after (later + 1)).flow =
      { (drive.after later).flow with retries := (drive.after later).flow.retries.rearmed } := by
  have idle := stuck later le
  have flying : (drive.before (later + 1)).flow.inFlight = [] := by
    rw [drive.flow_succ, stuck.inFlight_eq le, noneFlying]
  rw [idle.unmoved flying, drive.flow_succ]

/-- With nothing in flight, the flow is the same after each poll. -/
theorem flow_eq
    (stuck : drive.Stuck turn)
    (noneFlying : (drive.after turn).flow.inFlight = [])
    {later : Nat}
    (le : turn + 1 ≤ later) :
    (drive.after later).flow = (drive.after (turn + 1)).flow := by
  induction later, le using Nat.le_induction with
  | base => rfl
  | succ later le inductionHypothesis =>
      rw [stuck.unmoved noneFlying (Nat.le_of_succ_le le), inductionHypothesis,
        stuck.unmoved noneFlying (Nat.le_refl turn)]
      rfl

end Stuck

/-- A flow for which everything comes about that it waits for is never stuck. -/
theorem not_stuck
    (steady : env.Steady completed)
    (fair : drive.Fair completed)
    (turn : Nat) :
    ¬ drive.Stuck turn := by
  intro stuck
  -- It waits for the stage, or else for the timer, or else for the feed.
  cases flying : (drive.after turn).flow.inFlight with
  | cons submission others =>
      have among : submission ∈ (drive.after turn).flow.inFlight := by
        rw [flying]
        exact List.mem_cons_self
      obtain ⟨later, more, comes⟩ := fair.completes turn submission among
      obtain ⟨last, rfl⟩ := Nat.exists_eq_succ_of_ne_zero (Nat.ne_zero_of_lt more)
      have le := Nat.le_of_lt_succ more
      have still : submission ∈ (drive.before (last + 1)).flow.inFlight := by
        rw [drive.flow_succ, stuck.inFlight_eq le]
        exact among
      exact (stuck last le).uncompleted steady still (comes still)
  | nil =>
      have same (last : Nat) (le : turn + 1 ≤ last) :
          (drive.before (last + 1)).flow = (drive.after (turn + 1)).flow := by
        rw [drive.flow_succ, stuck.flow_eq flying le]
      have rearmed := stuck.unmoved flying (Nat.le_refl turn)
      cases waiting : (drive.after turn).flow.retries.scheduled with
      | cons first others =>
          have armed :
              (drive.after (turn + 1)).flow.retries.timer = some first.place.readyAt := by
            rw [rearmed]
            change (drive.after turn).flow.retries.nextDeadline? = _
            rw [RetryQueue.nextDeadline?, waiting]
            rfl
          obtain ⟨later, more, comes⟩ := fair.fires (turn + 1) _ armed
          obtain ⟨last, rfl⟩ := Nat.exists_eq_succ_of_ne_zero (Nat.ne_zero_of_lt more)
          have le := Nat.le_of_lt_succ more
          have fired := comes (by rw [same last le, armed])
          have quiet := (stuck last (Nat.le_of_succ_le le)).unfired steady
            (by rw [stuck.flow_eq flying (le.trans (Nat.le_succ last)), armed])
          rw [fired] at quiet
          cases quiet
      | nil =>
          have asked (last : Nat) (le : turn ≤ last) :
              (env.pull (drive.before (last + 1)).outside).1 = .pending ∧
                Journal.FeedWaited (drive.call (last + 1)) := by
            have noneFlying : (drive.before (last + 1)).flow.inFlight = [] := by
              rw [drive.flow_succ, stuck.inFlight_eq le, flying]
            have noneWaiting : (drive.before (last + 1)).flow.retries.scheduled = [] := by
              rcases le.eq_or_lt with rfl | less
              · rw [drive.flow_succ, waiting]
              · rw [same last less, rearmed]
                exact waiting
            obtain ⟨pending, call, grown, waited⟩ :=
              (stuck last le).waited noneFlying noneWaiting
            refine ⟨pending, ?_⟩
            rw [call_eq grown]
            exact waited
          obtain ⟨later, more, comes⟩ := fair.offers (turn + 1) (asked turn (Nat.le_refl turn)).2
          obtain ⟨last, rfl⟩ := Nat.exists_eq_succ_of_ne_zero (Nat.ne_zero_of_lt more)
          have le := Nat.le_of_lt_succ more
          obtain ⟨pending, waited⟩ := asked last (Nat.le_of_succ_le le)
          exact comes waited pending

/-- Something gets done after each turn, or the flow ends. -/
theorem advances
    (representable : drive.Representable)
    (steady : env.Steady completed)
    (fair : drive.Fair completed)
    (turn : Nat) :
    ∃ later,
      drive.result later = .ended ∨
        Journal.progress (drive.after turn).events <
          Journal.progress (drive.after later).events := by
  by_contra never
  push Not at never
  apply not_stuck steady fair turn
  intro later le
  obtain ⟨lasting, most⟩ := never (later + 1)
  have least := drive.progress_le_of_le le
  have kept := drive.progress_le (later + 1)
  refine idle representable lasting ?_
  rw [drive.events_succ] at kept ⊢
  omega

theorem ends
    {most : Nat}
    (representable : drive.Representable)
    (steady : env.Steady completed)
    (fair : drive.Fair completed)
    (bounded : ∀ turn, Journal.progress (drive.after turn).events ≤ most) :
    ∃ turn, drive.result turn = .ended := by
  -- By induction on how much can still get done.
  have within
      (left turn : Nat)
      (near : most ≤ Journal.progress (drive.after turn).events + left) :
      ∃ later, drive.result later = .ended := by
    induction left generalizing turn with
    | zero =>
        obtain ⟨later, ended | advanced⟩ := advances representable steady fair turn
        · exact ⟨later, ended⟩
        · have bound := bounded later
          omega
    | succ left inductionHypothesis =>
        obtain ⟨later, ended | advanced⟩ := advances representable steady fair turn
        · exact ⟨later, ended⟩
        · exact inductionHypothesis later (by omega)
  exact within most 0 (Nat.le_add_left _ _)

end Turns

end Drive

end Resubmit
