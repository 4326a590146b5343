import Resubmit.Proofs.Drive

namespace Resubmit

/-!
# No flow retries forever

Every poll returns, a run makes so many submissions and gives out so many items at most, and a
flow that is polled whenever something has come about that it waits for reaches its end.
-/

variable {σ Req Resp Ctx Fault Refusal : Type}

namespace Drive

variable {env : Surroundings σ Req Resp Ctx Fault Refusal}
variable {start : Run σ Req Resp Ctx Fault Refusal}
variable {completed : σ → Submission Req Ctx → Prop}
variable {drive : Drive env start}
variable {turn later : Nat}

/-! ## After the end -/

theorem terminated_of_ended (ended : drive.result turn = .ended) :
    (drive.after turn).flow.terminated = true := by
  obtain ⟨budget, polled⟩ := drive.polled turn
  rw [ended] at polled
  cases terminated : (drive.before turn).flow.terminated with
  | true =>
      rw [Run.poll_of_terminated terminated] at polled
      rw [← (Prod.mk.inj polled).2, terminated]
  | false => exact Run.terminated_of_poll terminated polled

theorem succ_of_terminated (finished : (drive.after turn).flow.terminated = true) :
    drive.result (turn + 1) = .ended ∧ drive.after (turn + 1) = drive.before (turn + 1) := by
  obtain ⟨budget, polled⟩ := drive.polled (turn + 1)
  rw [Run.poll_of_terminated (by rw [drive.flow_succ, finished])] at polled
  obtain ⟨ended, same⟩ := Prod.mk.inj polled
  exact ⟨(Option.some.inj ended).symm, same.symm⟩

/-- Polled after its end, a flow stays as it is. -/
theorem flow_of_terminated
    (finished : (drive.after turn).flow.terminated = true)
    (le : turn ≤ later) :
    (drive.after later).flow = (drive.after turn).flow := by
  induction later, le using Nat.le_induction with
  | base => rfl
  | succ later _ inductionHypothesis =>
      have still : (drive.after later).flow.terminated = true := by
        rw [inductionHypothesis, finished]
      rw [(succ_of_terminated still).2, drive.flow_succ, inductionHypothesis]

theorem terminated_of_le
    (finished : (drive.after turn).flow.terminated = true)
    (le : turn ≤ later) :
    (drive.after later).flow.terminated = true := by
  rw [flow_of_terminated finished le, finished]

theorem events_of_terminated
    (finished : (drive.after turn).flow.terminated = true)
    (le : turn ≤ later) :
    (drive.after later).events = (drive.after turn).events := by
  induction later, le using Nat.le_induction with
  | base => rfl
  | succ later le inductionHypothesis =>
      have same := (succ_of_terminated (terminated_of_le finished le)).2
      rw [same, drive.events_succ, inductionHypothesis]

theorem result_of_terminated
    (finished : (drive.after turn).flow.terminated = true)
    (le : turn ≤ later) :
    drive.result (later + 1) = .ended :=
  (succ_of_terminated (terminated_of_le finished le)).1

/-- A flow that has ended waits for nothing. -/
theorem fair_of_terminated
    (finished : (drive.after turn).flow.terminated = true)
    (landed : (drive.after turn).flow.inFlight = [])
    (unset : (drive.after turn).flow.retries.timer = none) :
    drive.Fair completed := by
  have same (earlier : Nat) :
      (drive.before (max earlier turn + 1)).flow = (drive.after turn).flow := by
    rw [drive.flow_succ, flow_of_terminated finished (Nat.le_max_right earlier turn)]
  have next (earlier : Nat) : max earlier turn + 1 > earlier :=
    Nat.lt_succ_of_le (Nat.le_max_left earlier turn)
  constructor
  case completes =>
    intro earlier submission _
    refine ⟨_, next earlier, ?_⟩
    intro flying
    rw [same, landed] at flying
    cases flying
  case fires =>
    intro earlier deadline _
    refine ⟨_, next earlier, ?_⟩
    intro armed
    rw [same, unset] at armed
    cases armed
  case offers =>
    intro earlier _
    refine ⟨_, next earlier, ?_⟩
    rintro ⟨now, noted⟩
    have still := terminated_of_le finished (Nat.le_max_right earlier turn)
    rw [call, (succ_of_terminated still).2, List.drop_length] at noted
    cases noted

end Drive

/-! ## The end -/

/-- A poll that has to wait leaves something that will call for the next one. -/
theorem Reached.wakeable
    {env : Surroundings σ Req Resp Ctx Fault Refusal}
    {settings : Settings}
    {random : ChaCha12}
    {outside : σ}
    {run after : Run σ Req Resp Ctx Fault Refusal}
    {budget : Nat}
    (reached :
      Reached env (Run.start (Flow.start settings random) outside) .idle run)
    (polled : run.poll env budget = (some .pending, after)) :
    ∃ call,
      after.events = run.events ++ call ∧
        (after.flow.inFlight ≠ [] ∨
          after.flow.retries.timer ≠ none ∨
          Journal.FeedWaited call) := by
  have running := Run.running_of_poll polled fun same => nomatch same
  have wellFormed := reached.wellFormed (.start settings random)
  refine
    Run.walk_induction
      (Standstill.Underway env run.events)
      (fun result last =>
        result = .pending →
        ∃ call,
          last.events = run.events ++ call ∧
            (last.flow.inFlight ≠ [] ∨
              last.flow.retries.timer ≠ none ∨
              Journal.FeedWaited call))
      ?_ ?_ ?_ running (Run.walk_of_poll running polled) rfl
  · intro station next between later underway running stepped
    exact underway.visit running stepped
  · rintro station result between last underway _ stepped rfl
    cases Run.timer_of_wait stepped
    have indifferent : env.HandsOut fun _ _ => False := fun _ _ _ _ _ _ => id
    obtain ⟨call, grown, still⟩ := underway.standstill_of_wait indifferent stepped
    refine ⟨call, grown, still.wakeable.imp_right fun waiting => waiting.imp_left ?_⟩
    intro waiting
    obtain ⟨deadline, set, _⟩ := still.armed waiting
    simp [set]
  · exact ⟨wellFormed, [], (List.append_nil _).symm, trivial⟩

/--
A flow that is given so many items, and never asked for more follow-ups than the width of a
tree, does not retry forever.
-/
structure NeverEndless
    (env : Surroundings σ Req Resp Ctx Fault Refusal)
    (settings : Settings)
    (start : Run σ Req Resp Ctx Fault Refusal)
    (width count : Nat) :
    Prop where
  /-- Every poll returns.  It breaks down only where the clock cannot represent an instant. -/
  returns :
    ∀ {run},
      Reached env start .idle run →
      (∀ budget, (Journal.pulled (run.poll env budget).2.events).length ≤ count) →
      ∃ budget result after,
        run.poll env budget = (some result, after) ∧
          (result.breaksDown = true → result = .brokenDown .clockOverflow)
  /-- At most a whole tree of submissions is made for each item. -/
  submissions :
    ∀ {position run},
      Reached env start position run →
      (Journal.pulled run.events).length ≤ count →
      (Journal.submissions run.events).length ≤
        count * ∑ level ∈ Finset.range (settings.policy.maxAttempts.toNat + 1), width ^ level
  /-- At most the leaves of such a tree are given out, with an error counted among them. -/
  items :
    ∀ {position run},
      Reached env start position run →
      (Journal.pulled run.events).length ≤ count →
      run.items.length ≤ count * max 1 (width ^ settings.policy.maxAttempts.toNat)
  /-- A poll that has to wait leaves something that will call for the next one. -/
  wakeable :
    ∀ {run budget after},
      Reached env start .idle run →
      run.poll env budget = (some .pending, after) →
      ∃ call,
        after.events = run.events ++ call ∧
          (after.flow.inFlight ≠ [] ∨
            after.flow.retries.timer ≠ none ∨
            Journal.FeedWaited call)
  /-- The flow ends if it is polled whenever something has come about that it waits for. -/
  ends :
    ∀ {completed},
      env.Steady completed →
      ∀ drive : Drive env start,
        (∀ turn, (Journal.pulled (drive.after turn).events).length ≤ count) →
        drive.Representable →
        drive.Fair completed →
        ∃ turn, ∀ later ≥ turn, drive.result later = .ended

/-- No flow retries forever. -/
theorem Surroundings.neverEndless
    {env : Surroundings σ Req Resp Ctx Fault Refusal}
    {width : Nat}
    (few :
      ∀ outside response context items,
        (env.classify outside response context).1 = .ok (.retryWith items) →
        items.length ≤ width)
    (settings : Settings)
    (random : ChaCha12)
    (outside : σ)
    (count : Nat) :
    NeverEndless env settings (Run.start (Flow.start settings random) outside) width count where
  returns reached fed := by
    obtain ⟨budget, result, after, polled⟩ := reached.exists_poll few fed
    exact ⟨budget, result, after, polled, Run.cause_of_poll polled⟩
  submissions reached fed :=
    reached.length_submissions_le.trans (reached.length_entered_le (reached.narrow few) fed)
  items reached fed := reached.length_items_le (reached.narrow few) fed
  wakeable reached polled := reached.wakeable polled
  ends steady drive fed representable fair := by
    have bounded (turn : Nat) :
        Journal.progress (drive.after turn).events ≤ 3 * (count * settings.treeSize width) + 1 := by
      obtain ⟨budget, polled⟩ := drive.polled turn
      have reached :=
        Run.reached_of_poll (Drive.reached representable turn) polled
          (Drive.sound representable turn)
      exact reached.progress_le (reached.narrow few) (fed turn)
    obtain ⟨turn, ended⟩ := Drive.ends representable steady fair bounded
    refine ⟨turn, ?_⟩
    intro later le
    rcases le.eq_or_lt with rfl | less
    · exact ended
    · obtain ⟨before, rfl⟩ := Nat.exists_eq_succ_of_ne_zero (Nat.ne_zero_of_lt less)
      exact Drive.result_of_terminated (Drive.terminated_of_ended ended) (Nat.le_of_lt_succ less)

/-! ## The end on a workbench -/

namespace Bench

theorem eq_of_pull
    {bench later : Bench Req Resp Ctx Fault}
    (pending : bench.pull = (.pending, later)) :
    later = bench := by
  unfold pull at pending
  split at pending
  · exact (Prod.mk.inj pending).2.symm
  · cases pending

theorem clock_of_lookThrough
    {bench later : Bench Req Resp Ctx Fault}
    {inFlight : List (Submission Req Ctx)}
    {queue : List Nat}
    (unanswered : lookThrough inFlight queue bench = (none, later)) :
    later.clock = bench.clock := by
  induction queue with
  | nil =>
      cases unanswered
      rfl
  | cons ticket rest inductionHypothesis =>
      unfold lookThrough at unanswered
      split at unanswered
      · cases unanswered
      · exact inductionHypothesis unanswered

theorem steady (judge : Resp → Ctx → Except Refusal (Verdict Req Ctx)) :
    (surroundings judge :
      Surroundings (Bench Req Resp Ctx Fault) Req Resp Ctx Fault Refusal).Steady
        Completed where
  handsOut := handsOut judge
  completed_of_pull pending done := eq_of_pull pending ▸ done
  fired_of_pull pending fired := eq_of_pull pending ▸ fired
  fired_of_collect {_ _ deadline _} unanswered fired := by
    change Instant.timerOver _ deadline = true
    rw [clock_of_lookThrough unanswered]
    exact fired

/-- What an operator does to one on the bench after each poll, and to the two that it asks for. -/
def attend : Nat → Bench Nat Nat Unit Unit → Bench Nat Nat Unit Unit
  | 0, bench => { bench with feed := [⟨1, ()⟩] }
  | 1, bench => { bench with answers := [(0, .ok 1)], queue := [0] }
  | 2, bench => { bench with clock := ⟨40000000⟩ }
  | 3, bench => { bench with answers := [(1, .ok 0), (2, .ok 0)], queue := [1, 2] }
  | 6, bench => { bench with closed := true }
  | _, bench => bench

end Bench

section Operated

variable {env : Surroundings σ Req Resp Ctx Fault Refusal}
variable {start : Run σ Req Resp Ctx Fault Refusal}
variable {budget last : Nat}
variable {act : Nat → σ → σ}

/-- The run before each poll, when after each something is done outside. -/
def Run.operated
    (env : Surroundings σ Req Resp Ctx Fault Refusal)
    (budget : Nat)
    (act : Nat → σ → σ)
    (start : Run σ Req Resp Ctx Fault Refusal) :
    Nat →
    Run σ Req Resp Ctx Fault Refusal
  | 0 => start
  | turn + 1 =>
      let after := ((operated env budget act start turn).poll env budget).2
      { after with outside := act turn after.outside }

theorem Run.terminated_operated
    (finished : ((start.operated env budget act last).poll env budget).2.flow.terminated = true)
    {turn : Nat}
    (le : last + 1 ≤ turn) :
    (start.operated env budget act turn).flow.terminated = true := by
  induction turn, le using Nat.le_induction with
  | base => exact finished
  | succ turn _ inductionHypothesis =>
      change ((start.operated env budget act turn).poll env budget).2.flow.terminated = true
      rw [poll_of_terminated inductionHypothesis]
      exact inductionHypothesis

/-- A flow that has ended after polls which all return is driven to its end. -/
theorem Run.isSome_operated
    (finished : ((start.operated env budget act last).poll env budget).2.flow.terminated = true)
    (returned : ∀ turn < last + 1, ((start.operated env budget act turn).poll env budget).1.isSome)
    (turn : Nat) :
    ((start.operated env budget act turn).poll env budget).1.isSome := by
  rcases Nat.lt_or_ge turn (last + 1) with less | le
  · exact returned turn less
  · rw [poll_of_terminated (terminated_operated finished le)]
    rfl

def Drive.operated
    (returns : ∀ turn, ((start.operated env budget act turn).poll env budget).1.isSome) :
    Drive env start where
  before := start.operated env budget act
  after turn := ((start.operated env budget act turn).poll env budget).2
  result turn := ((start.operated env budget act turn).poll env budget).1.get (returns turn)
  starts := rfl
  polled _ := ⟨budget, Prod.ext (Option.some_get _).symm rfl⟩
  elapses _ := ⟨_, rfl⟩

end Operated

/-! ## A countdown to the end -/

theorem Verdict.length_countdown_le
    {response : Nat}
    {context : Unit}
    {items : List (WorkItem Nat Unit)}
    (asked : Verdict.countdown response context = .retryWith items) :
    items.length ≤ 2 := by
  unfold countdown at asked
  split at asked
  · cases asked
  · cases asked
    exact Nat.le_refl 2

/-- A workbench on which numbers are counted down. -/
def Bench.countdown : Surroundings (Bench Nat Nat Unit Unit) Nat Nat Unit Unit Unit :=
  surroundings fun response context => .ok (Verdict.countdown response context)

/-- An empty workbench with a flow for which each number may be asked for again once. -/
def Run.countdown : Run (Bench Nat Nat Unit Unit) Nat Nat Unit Unit Unit :=
  Run.start (Flow.start (Settings.delayed 1) (ChaCha12.ofSeed 0)) Bench.start

/-- One is counted down, and each poll is called for by what was done after the last one. -/
def Drive.countdown : Drive Bench.countdown Run.countdown :=
  operated
    (Run.isSome_operated
      (by decide +kernel :
        ((Run.countdown.operated Bench.countdown 100 Bench.attend 7).poll
          Bench.countdown 100).2.flow.terminated = true)
      (by decide +kernel))

theorem Drive.terminated_countdown : (countdown.after 7).flow.terminated = true := by
  decide +kernel

theorem Drive.length_pulled_countdown (turn : Nat) :
    (Journal.pulled (countdown.after turn).events).length ≤ 1 := by
  rcases Nat.lt_or_ge turn 7 with less | le
  · have fed : ∀ turn < 7, (Journal.pulled (countdown.after turn).events).length ≤ 1 := by
      decide +kernel
    exact fed turn less
  · rw [events_of_terminated terminated_countdown le]
    decide +kernel

theorem Drive.representable_countdown : countdown.Representable := by
  intro turn broken
  rcases Nat.lt_or_ge turn 8 with less | le
  · have sound : ∀ turn < 8, (countdown.result turn).breaksDown = false := by decide +kernel
    have whole := sound turn less
    rw [broken] at whole
    cases whole
  · obtain ⟨before, rfl⟩ := Nat.exists_eq_succ_of_ne_zero (Nat.ne_zero_of_lt le)
    rw [result_of_terminated terminated_countdown (Nat.le_of_succ_le_succ le)] at broken
    cases broken

theorem Drive.fair_countdown : countdown.Fair Bench.Completed :=
  fair_of_terminated terminated_countdown (by decide +kernel) (by decide +kernel)

/-- A countdown from one ends after as many submissions and items as there can be. -/
theorem Surroundings.neverEndless_countdown :
    Bench.countdown.Steady Bench.Completed ∧
      NeverEndless Bench.countdown (Settings.delayed 1) Run.countdown 2 1 ∧
      (∃ turn, ∀ later ≥ turn, Drive.countdown.result later = .ended) ∧
      (List.range 8).map (fun turn => (Drive.countdown.result turn).waits) =
        [true, true, true, true, false, false, true, false] ∧
      (Journal.submissions (Drive.countdown.after 7).events).length = 3 ∧
      (Drive.countdown.after 7).items.length = 2 := by
  have steady : Bench.countdown.Steady Bench.Completed := Bench.steady _
  have few
      (bench : Bench Nat Nat Unit Unit)
      (response : Nat)
      (context : Unit)
      (items : List (WorkItem Nat Unit))
      (asked : (Bench.countdown.classify bench response context).1 = .ok (.retryWith items)) :
      items.length ≤ 2 :=
    Verdict.length_countdown_le (Except.ok.inj asked)
  have finite :=
    Surroundings.neverEndless few (Settings.delayed 1) (ChaCha12.ofSeed 0) Bench.start 1
  have ended :=
    finite.ends steady Drive.countdown Drive.length_pulled_countdown
      Drive.representable_countdown Drive.fair_countdown
  exact ⟨steady, finite, ended, by decide +kernel⟩

end Resubmit
