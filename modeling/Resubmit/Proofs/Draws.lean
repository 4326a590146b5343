import Resubmit.Proofs.Prompt
import Resubmit.Proofs.Recording
import Resubmit.Proofs.Reseeding
import Resubmit.Proofs.Resubmission

namespace Resubmit

/-!
# Delays are drawn in step

A flow has one source of random words, and every follow-up draws its delay from it.  The
judgements are made one after the other, and the follow-ups of each are scheduled in their
order, so the draws have an order, too.  What the hook is told, when the retries are due, and
where the source stands then follow from the list of the draws, however the run goes otherwise.
What the hook is told is what a hook that records its calls has on record.
-/

variable {σ Req Resp Ctx Fault Refusal : Type}

/-! ## What is drawn -/

/-- The notices that tell of a delay, in order. -/
def Notice.retries (notices : List (Notice Resp)) : List (Notice Resp) :=
  notices.filter fun notice => notice.delay.isSome

/-- The follow-ups that come of an event: of a judgement that asks for them with an attempt left. -/
def Event.debts (maxAttempts : UInt32) :
    Event Req Resp Ctx Fault Refusal →
    List (Debt Req Resp Ctx)
  | .judged now submission response (.ok (.retryWith items)) =>
      if submission.attempt.number < maxAttempts then
        submission.debts response now items
      else
        []
  | _ => []

namespace Journal

/-- The follow-ups asked for, in the order of the judgements and of each one's list. -/
def debts
    (maxAttempts : UInt32)
    (events : List (Event Req Resp Ctx Fault Refusal)) :
    List (Debt Req Resp Ctx) :=
  events.flatMap (Event.debts maxAttempts)

/-- The calls of the hook that tell of a delay, in order. -/
def retryNotices (events : List (Event Req Resp Ctx Fault Refusal)) : List (Notice Resp) :=
  Notice.retries (notices events)

variable {maxAttempts : UInt32}
variable (earlier later : List (Event Req Resp Ctx Fault Refusal))

theorem debts_append :
    debts maxAttempts (earlier ++ later) =
      debts maxAttempts earlier ++ debts maxAttempts later :=
  List.flatMap_append

theorem retryNotices_append :
    retryNotices (earlier ++ later) = retryNotices earlier ++ retryNotices later := by
  simp only [retryNotices, Notice.retries, notices, List.filterMap_append, List.filter_append]

theorem scheduled_append :
    scheduled (earlier ++ later) = scheduled earlier ++ scheduled later :=
  List.filterMap_append

end Journal

/-- A follow-up with the delay that was drawn for it. -/
structure Draw (Req Resp Ctx : Type) where
  debt : Debt Req Resp Ctx
  delay : Duration
  /-- The source of random words after the draw. -/
  rest : ChaCha12

namespace Draw

/-- The number of the attempt that the delay is for. -/
def number (draw : Draw Req Resp Ctx) : UInt32 :=
  draw.debt.submission.attempt.number + 1

/-- The delay with the source after it. -/
def result (draw : Draw Req Resp Ctx) : Duration × ChaCha12 :=
  (draw.delay, draw.rest)

/-- What the hook is told. -/
def notice (draw : Draw Req Resp Ctx) : Notice Resp :=
  draw.debt.notice draw.delay

/-- The attempt with the instant for which it waits, counted from the judgement. -/
def appointment (draw : Draw Req Resp Ctx) : Attempt Req Ctx × Instant :=
  (draw.debt.attempt, draw.debt.since + draw.delay)

end Draw

/-- The attempt that an entry holds, with the instant for which it waits. -/
def Waiting.appointment (entry : Waiting α) : α × Instant :=
  (entry.payload, entry.place.readyAt)

/-! ## What each deed keeps -/

/-- So far every follow-up has drawn its delay from the source, in order, or is owed. -/
structure Scene.Drawn
    (settings : Settings)
    (source : ChaCha12)
    (draws : List (Draw Req Resp Ctx))
    (scene : Scene Req Resp Ctx Fault Refusal) :
    Prop where
  asked :
    Journal.debts settings.policy.maxAttempts scene.events = draws.map Draw.debt ++ scene.owed
  drawn : settings.policy.delays (draws.map Draw.number) source = .ok (draws.map Draw.result)
  told :
    Journal.retryNotices scene.events =
      if settings.observed then draws.map Draw.notice else []
  scheduled :
    (Journal.scheduled scene.events).map Waiting.appointment = draws.map Draw.appointment
  random : scene.flow.random = Policy.sourceAfter source (draws.map Draw.result)

namespace Scene.Drawn

variable {settings : Settings}
variable {source : ChaCha12}
variable {draws : List (Draw Req Resp Ctx)}
variable {before : Scene Req Resp Ctx Fault Refusal}
variable {flow : Flow Req Ctx}
variable {events : List (Event Req Resp Ctx Fault Refusal)}
variable {debt : Debt Req Resp Ctx}
variable {owed : List (Debt Req Resp Ctx)}

/-- New follow-ups are owed at first, and nothing is drawn. -/
theorem ask
    (drawn : before.Drawn settings source draws)
    (new : List (Event Req Resp Ctx Fault Refusal))
    (asked : before.owed ++ Journal.debts settings.policy.maxAttempts new = owed)
    (untold : Journal.retryNotices new = [])
    (unscheduled : Journal.scheduled new = [])
    (random : flow.random = before.flow.random) :
    (⟨flow, before.events ++ new, owed⟩ : Scene Req Resp Ctx Fault Refusal).Drawn
      settings source draws where
  asked := by
    rw [Journal.debts_append, drawn.asked, List.append_assoc, asked]
  drawn := drawn.drawn
  told := by
    rw [Journal.retryNotices_append, untold, List.append_nil, drawn.told]
  scheduled := by
    rw [Journal.scheduled_append, unscheduled, List.append_nil, drawn.scheduled]
  random := random.trans drawn.random

/-- The first follow-up that is owed draws its delay, which is reported and waited for. -/
theorem draw
    {delay : Duration}
    {random : ChaCha12}
    {entry : Waiting (Attempt Req Ctx)}
    {retries : RetryQueue (Attempt Req Ctx)}
    (drawn :
      (⟨flow, events, debt :: owed⟩ : Scene Req Resp Ctx Fault Refusal).Drawn
        settings source draws)
    (options : flow.settings = settings)
    (now : Instant)
    (taken :
      flow.settings.policy.delay (debt.submission.attempt.number + 1) flow.random =
        .ok (delay, random))
    (scheduled :
      flow.retries.schedule? debt.attempt delay debt.since = some (entry, retries)) :
    (⟨{ flow with random := random, retries := retries },
      events ++ (flow.told now (debt.notice delay) ++ [
        .retryAnnounced (debt.submission.attempt.number + 1) delay,
        .retryScheduled entry]), owed⟩ : Scene Req Resp Ctx Fault Refusal).Drawn
      settings source (draws ++ [⟨debt, delay, random⟩]) := by
  obtain ⟨placed, _⟩ := RetryQueue.eq_of_schedule? scheduled
  have last : entry.appointment = (⟨debt, delay, random⟩ : Draw Req Resp Ctx).appointment := by
    rw [placed]
    rfl
  rw [options, drawn.random] at taken
  constructor
  case asked =>
    rw [Journal.debts_append, drawn.asked]
    unfold Flow.told
    split <;> simp [Journal.debts, Event.debts]
  case drawn =>
    rw [List.map_append, List.map_append]
    exact Policy.delays_concat drawn.drawn taken
  case told =>
    rw [Journal.retryNotices_append, drawn.told, Flow.told, options]
    cases settings.observed <;>
      simp [Journal.retryNotices, Notice.retries, Journal.notices, Event.notice?, Draw.notice,
        Debt.notice]
  case scheduled =>
    have told :=
      Flow.filterMap_told (Event.scheduled? : Event Req Resp Ctx Fault Refusal → _)
        (fun _ _ => rfl) flow now (debt.notice delay)
    rw [Journal.scheduled_append, List.map_append, drawn.scheduled, List.map_append,
      Journal.scheduled_append, Journal.scheduled, told]
    exact congrArg (draws.map Draw.appointment ++ [·]) last
  case random =>
    rw [Policy.sourceAfter, List.map_append, List.foldl_append]
    rfl

end Scene.Drawn

section Deeds

variable {env : Surroundings σ Req Resp Ctx Fault Refusal}
variable {station : Station}
variable {before after : Scene Req Resp Ctx Fault Refusal}

theorem Flow.Takes.random
    {flow rest : Flow Req Ctx}
    {submission : Submission Req Ctx}
    {answer : Except Fault Resp}
    {later : σ}
    (taken : flow.Takes env submission answer later rest) :
    rest.random = flow.random := by
  rw [taken.rest_eq]

theorem Deed.drawn
    {settings : Settings}
    {source : ChaCha12}
    {next : Option (Next Resp Ctx Fault Refusal)}
    (deed : Deed env station before next after)
    (sound : ∀ reached, next = some reached → reached.breaksDown = false)
    (options : before.flow.settings = settings)
    (drawn : ∃ draws, before.Drawn settings source draws) :
    ∃ draws, after.Drawn settings source draws := by
  obtain ⟨draws, drawn⟩ := drawn
  cases deed with
  | schedule outside taken scheduled =>
      exact ⟨_, drawn.draw options (env.now outside) taken scheduled⟩
  | noDelay | clockOverflow => cases sound _ rfl
  | branch taken classified within =>
      refine ⟨draws, drawn.ask _ ?_ rfl rfl taken.random⟩
      rw [options] at within
      simp [Journal.debts, Event.debts, within]
  | exhaust taken classified spent | exhaustionFault taken classified spent =>
      rw [options] at spent
      refine ⟨draws, drawn.ask _ ?_ ?_ ?_ taken.random⟩
      · unfold Flow.told
        split <;> simp [Journal.debts, Event.debts, UInt32.not_lt.mpr spent]
      · unfold Flow.told
        split <;> rfl
      · unfold Flow.told
        split <;> rfl
  | dropBranch taken =>
      refine ⟨draws, drawn.ask _ ?_ rfl rfl taken.random⟩
      simp [Journal.debts, Event.debts, Submission.debts]
  | stageFault taken | refusal taken | done taken =>
      exact ⟨draws, drawn.ask _ rfl rfl rfl taken.random⟩
  | leaveFeed | noAnswer | allScheduled | wait =>
      exact ⟨draws, drawn.asked, drawn.drawn, drawn.told, drawn.scheduled, drawn.random⟩
  | _ => exact ⟨draws, drawn.ask _ rfl rfl rfl rfl⟩

end Deeds

/-! ## What holds of every run -/

/--
The draws of a run, in order, and all that they show in.

`notices` is what the hook was told.  A judgement that is final, drops the branch, finds no
attempt left or fails asks for nothing, and then nothing is drawn either.
-/
structure Run.InStep
    (settings : Settings)
    (source : ChaCha12)
    (notices : List (Notice Resp))
    (run : Run σ Req Resp Ctx Fault Refusal)
    (draws : List (Draw Req Resp Ctx)) :
    Prop where
  /-- One for each follow-up: judgement by judgement, and each list in its order. -/
  asked :
    Journal.debts settings.policy.maxAttempts run.events = draws.map Draw.debt
  /-- One after the other, from the one source. -/
  drawn :
    settings.policy.delays (draws.map Draw.number) source = .ok (draws.map Draw.result)
  told :
    Notice.retries notices = if settings.observed then draws.map Draw.notice else []
  /-- So for the attempts that a hook is told of, the delays that it is told are those drawn. -/
  reported :
    settings.observed = true →
    settings.policy.delays
        ((Notice.retries notices).map fun notice => notice.attempt + 1) source =
        .ok (draws.map Draw.result) ∧
      (Notice.retries notices).map Notice.delay =
        draws.map fun draw => some draw.delay
  /-- The retries scheduled are these follow-ups, each due when its delay is over. -/
  scheduled :
    (Journal.scheduled run.events).map Waiting.appointment = draws.map Draw.appointment
  capped : ∀ draw ∈ draws, draw.delay ≤ settings.policy.max
  /-- The source has given a word for each retry, or none at all. -/
  words :
    run.flow.random = {
      source with
      drawn :=
        source.drawn +
          if settings.policy.Spreads then (Journal.scheduled run.events).length else 0 }

theorem Run.InStep.of_drawn
    {settings : Settings}
    {source : ChaCha12}
    {run : Run σ Req Resp Ctx Fault Refusal}
    {draws : List (Draw Req Resp Ctx)}
    (drawn : (run.scene []).Drawn settings source draws) :
    run.InStep settings source (Journal.notices run.events) draws := by
  have told : Notice.retries (Journal.notices run.events) = _ := drawn.told
  obtain ⟨short, advanced⟩ := Policy.of_delays settings.policy_sound drawn.drawn
  constructor
  case asked => exact drawn.asked.trans (List.append_nil _)
  case drawn => exact drawn.drawn
  case told => exact told
  case reported =>
    intro observed
    rw [observed] at told
    rw [told, if_pos rfl, List.map_map, List.map_map]
    exact ⟨drawn.drawn, rfl⟩
  case scheduled => exact drawn.scheduled
  case capped =>
    intro draw member
    exact short draw.result (List.mem_map_of_mem member)
  case words =>
    have counted : (Journal.scheduled run.events).length = draws.length := by
      have same := congrArg List.length drawn.scheduled
      rwa [List.length_map, List.length_map] at same
    have random : run.flow.random = _ := drawn.random.trans advanced
    rw [random, counted, List.length_map, Policy.words]

/-- A builder starts a flow with its accepted options. -/
theorem Builder.eq_start_of_build
    {builder : Builder}
    {entropy : ChaCha12}
    {flow : Flow Req Ctx}
    (built : builder.build entropy = .ok flow) :
    ∃ settings,
      builder.settings = .ok settings ∧
        settings.policy = builder.policy ∧
        flow = Flow.start settings ((builder.seed.map ChaCha12.ofSeed).getD entropy) := by
  cases accepted : builder.settings with
  | error fault =>
      rw [build, accepted] at built
      cases built
  | ok settings =>
      rw [build, accepted] at built
      cases built
      refine ⟨settings, rfl, ?_, rfl⟩
      unfold Builder.settings at accepted
      split at accepted
      · cases accepted
      · split at accepted
        · cases accepted
        · split at accepted
          · cases accepted
          · cases accepted
            rfl

namespace Reached

variable {env : Surroundings σ Req Resp Ctx Fault Refusal}
variable {run : Run σ Req Resp Ctx Fault Refusal}
variable {position : Position}

theorem drawn
    {settings : Settings}
    {source : ChaCha12}
    {outside : σ}
    (reached : Reached env (Run.start (Flow.start settings source) outside) position run) :
    ∃ draws, (run.scene []).Drawn settings source draws := by
  apply reached.keeps fun scene => ∃ draws, scene.Drawn settings source draws
  case holds => exact ⟨[], rfl, rfl, (ite_self _).symm, rfl, rfl⟩
  case deed =>
    intro station before label after sound options _ drawn deed
    exact deed.drawn sound options drawn
  case cancel =>
    rintro flow events ⟨draws, drawn⟩
    exact ⟨draws, drawn.ask _ rfl rfl rfl rfl⟩

end Reached

/--
Delays, calls of the hook, retries and random words stay in step in every run.

Under a policy that does not spread its delays there is the same run for every other seed, with
the same calls on record, and it goes on in the same way.
-/
theorem Recorded.inStep
    {env : Surroundings σ Req Resp Ctx Fault Refusal}
    {builder : Builder}
    {seed : UInt64}
    {entropy : ChaCha12}
    {flow : Flow Req Ctx}
    {outside : σ}
    {position : Position}
    {record : Record Req Resp}
    {run : Run σ Req Resp Ctx Fault Refusal}
    (seeded : builder.seed = some seed)
    (built : builder.build entropy = .ok flow)
    (recorded : Recorded env (Run.start flow outside) position record run) :
    (∃ draws, run.InStep flow.settings (ChaCha12.ofSeed seed) record.told draws) ∧
      (¬ builder.policy.Spreads →
        ∀ other : UInt64,
          ∃ twin : Flow Req Ctx,
            ({ builder with seed := some other } : Builder).build entropy = .ok twin ∧
              Recorded env (Run.start twin outside) position record
                (run.reseeded (ChaCha12.ofSeed other)) ∧
              ∀ budget,
                (run.reseeded (ChaCha12.ofSeed other)).poll env budget =
                  (run.poll env budget).map id (Run.reseeded (ChaCha12.ofSeed other))) := by
  obtain ⟨settings, accepted, options, rfl⟩ := Builder.eq_start_of_build built
  rw [seeded] at recorded
  obtain ⟨reached, rfl⟩ := iff_reached.mp recorded
  constructor
  · obtain ⟨draws, drawn⟩ := reached.drawn
    exact ⟨draws, .of_drawn drawn⟩
  · intro exact other
    rw [← options] at exact
    have twin := reached.reseeded exact (ChaCha12.ofSeed other)
    refine ⟨Flow.start settings (ChaCha12.ofSeed other), ?_, twin.recorded, ?_⟩
    · have accepted : ({ builder with seed := some other } : Builder).settings = .ok settings :=
        accepted
      rw [Builder.build, accepted]
      rfl
    · intro budget
      have same : run.flow.settings = settings := reached.settings_eq
      refine Run.poll_reseeded env run _ ?_ budget
      rwa [same]

/-- Options with the usual jitter and with a hook. -/
def Settings.jittered : Settings where
  policy := Policy.standard
  parallelism := 2
  retryCapacity := 1
  observed := true
  policy_sound :=
    have sound : Policy.standard.fault? = none := by decide +kernel
    sound
  parallelism_pos := Nat.zero_lt_two
  retryCapacity_pos := Nat.one_pos

/-- A number is counted down from two, and each of its four retries takes a word. -/
theorem Recorded.inStep_jittered :
    let start : Flow Nat Unit := Flow.start Settings.jittered (ChaCha12.ofSeed 0)
    let run := (Run.promptly Settings.jittered (Scenario.countdown 9 [2]) 5).2
    (Settings.jittered.builder 0).build (ChaCha12.ofSeed 1) = .ok start ∧
      ∃ record : Record Nat Nat,
        Recorded (Surroundings.prompt (Scenario.countdown 9 [2]))
          (Run.prompt Settings.jittered (Scenario.countdown 9 [2])) .idle record run ∧
        (∃ draws, run.InStep Settings.jittered (ChaCha12.ofSeed 0) record.told draws) ∧
        (Notice.retries record.told).map Notice.attempt = [0, 0, 1, 1] ∧
        run.flow.random.drawn = 4 := by
  have built :
      (Settings.jittered.builder 0).build (ChaCha12.ofSeed 1) =
        .ok (Flow.start Settings.jittered (ChaCha12.ofSeed 0) : Flow Nat Unit) :=
    Settings.build_builder _ _ _
  -- All that is to be computed is asked for at once, so the run is made once.
  have played :
      Session.Sound (Run.promptly Settings.jittered (Scenario.countdown 9 [2]) 5).1 ∧
        (Notice.retries
            (Journal.record
              (Run.promptly Settings.jittered (Scenario.countdown 9 [2]) 5).2.events).told).map
            Notice.attempt = [0, 0, 1, 1] ∧
        (Run.promptly Settings.jittered (Scenario.countdown 9 [2]) 5).2.flow.random.drawn = 4 := by
    decide +kernel
  obtain ⟨sound, attempts, words⟩ := played
  have session := Session.promptly Settings.jittered (Scenario.countdown 9 [2]) 5
  have recorded := (session.reached sound).recorded
  have inStep := (Recorded.inStep rfl built recorded).1
  exact ⟨built, _, recorded, inStep, attempts, words⟩

end Resubmit
