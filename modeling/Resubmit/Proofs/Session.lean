import Resubmit.Proofs.Reached

namespace Resubmit

/-!
# Sessions

A session is what a caller sees who polls a flow and cancels it as he likes, while
anything may change outside between his calls.  The items that he is given are those
that the journal says were given out.
-/

variable {σ Req Resp Ctx Fault Refusal : Type}

/-- What a call comes to. -/
inductive Reply (Resp Ctx Fault Refusal : Type) where
  | polled (result : PollResult Resp Ctx Fault Refusal)
  | cancelled

namespace Reply

/-- The item that was given out, if there was one. -/
def item? : Reply Resp Ctx Fault Refusal → Option (Item Resp Ctx Fault Refusal)
  | .polled (.item item) => some item
  | _ => none

/-- Whether the flow has ended with the reply: with a fault, by itself, or cancelled. -/
def ends : Reply Resp Ctx Fault Refusal → Bool
  | .polled result => result.ends
  | .cancelled => true

/-- Whether the reply tells of a poll that broke down. -/
def breaksDown : Reply Resp Ctx Fault Refusal → Bool
  | .polled result => result.breaksDown
  | .cancelled => false

/-- The reply, if it is one that the journal tells of. -/
def noted? : Reply Resp Ctx Fault Refusal → Option (Reply Resp Ctx Fault Refusal)
  | .polled (.item item) => some (.polled (.item item))
  | .cancelled => some .cancelled
  | _ => none

end Reply

/-- The reply that an event tells of, if it does. -/
def Event.reply? :
    Event Req Resp Ctx Fault Refusal →
    Option (Reply Resp Ctx Fault Refusal)
  | .yielded item => some (.polled (.item item))
  | .cancelled .. => some .cancelled
  | _ => none

/-- The reply that a visit to a station makes, if the journal tells of it. -/
def Next.reply? : Next Resp Ctx Fault Refusal → Option (Reply Resp Ctx Fault Refusal)
  | .go _ => none
  | .stop result => (Reply.polled result).noted?

/-- The calls made to a flow from a beginning on, and the run after them. -/
inductive Session
    (env : Surroundings σ Req Resp Ctx Fault Refusal)
    (start : Run σ Req Resp Ctx Fault Refusal) :
    List (Reply Resp Ctx Fault Refusal) →
    Run σ Req Resp Ctx Fault Refusal →
    Prop where
  | start :
      Session env start [] start
  /-- A poll returns. -/
  | poll
      {replies : List (Reply Resp Ctx Fault Refusal)}
      {run after : Run σ Req Resp Ctx Fault Refusal}
      {budget : Nat}
      {result : PollResult Resp Ctx Fault Refusal}
      (session : Session env start replies run)
      (polled : run.poll env budget = (some result, after)) :
      Session env start (replies ++ [.polled result]) after
  /-- The flow is cancelled. -/
  | cancel
      {replies : List (Reply Resp Ctx Fault Refusal)}
      {run : Run σ Req Resp Ctx Fault Refusal}
      (session : Session env start replies run) :
      Session env start (replies ++ [.cancelled]) (run.cancel env)
  /-- Something changes outside. -/
  | elapse
      {replies : List (Reply Resp Ctx Fault Refusal)}
      {run : Run σ Req Resp Ctx Fault Refusal}
      (outside : σ)
      (session : Session env start replies run) :
      Session env start replies { run with outside := outside }

namespace Session

/-- No poll of the session broke down. -/
def Sound (replies : List (Reply Resp Ctx Fault Refusal)) : Prop :=
  ∀ reply ∈ replies, reply.breaksDown = false

instance (replies : List (Reply Resp Ctx Fault Refusal)) : Decidable (Sound replies) :=
  inferInstanceAs (Decidable (∀ reply ∈ replies, reply.breaksDown = false))

/-- The items that a session gave out, in order. -/
def items (replies : List (Reply Resp Ctx Fault Refusal)) :
    List (Item Resp Ctx Fault Refusal) :=
  replies.filterMap Reply.item?

end Session

section Walks

variable {env : Surroundings σ Req Resp Ctx Fault Refusal}
variable {station : Station}
variable {start run stood : Run σ Req Resp Ctx Fault Refusal}
variable {result : PollResult Resp Ctx Fault Refusal}
variable {budget : Nat}

namespace Run

/-- The items that a run gave out, in order. -/
def items (run : Run σ Req Resp Ctx Fault Refusal) : List (Item Resp Ctx Fault Refusal) :=
  run.events.filterMap Event.item?

theorem walk_of_poll
    (running : run.flow.terminated = false)
    (polled : run.poll env budget = (some result, stood)) :
    run.walk env budget .promote = (some result, stood) := by
  simpa [poll, running] using polled

theorem poll_of_terminated
    (terminated : run.flow.terminated = true)
    (budget : Nat) :
    run.poll env budget = (some .ended, run) := by
  simp [poll, terminated]

theorem running_of_poll
    (polled : run.poll env budget = (some result, stood))
    (lasting : result ≠ .ended) :
    run.flow.terminated = false := by
  cases terminated : run.flow.terminated with
  | false => rfl
  | true =>
      rw [poll_of_terminated terminated] at polled
      cases polled
      exact (lasting rfl).elim

/--
What every station keeps is kept by a walk, and the last station does the rest.

The stations before the last one lead on, and the last one has the result of the walk.
-/
theorem walk_induction
    (Inv : Station → Run σ Req Resp Ctx Fault Refusal → Prop)
    (Goal : PollResult Resp Ctx Fault Refusal → Run σ Req Resp Ctx Fault Refusal → Prop)
    (visit :
      ∀ {station next run after},
        Inv station run →
        run.flow.terminated = false →
        run.step env station = (.go next, after) →
        Inv next after)
    (last :
      ∀ {station result run after},
        Inv station run →
        run.flow.terminated = false →
        run.step env station = (.stop result, after) →
        Goal result after)
    (holds : Inv station run)
    (running : run.flow.terminated = false)
    (walked : run.walk env budget station = (some result, stood)) :
    Goal result stood := by
  induction budget generalizing station run with
  | zero => cases walked
  | succ budget inductionHypothesis =>
      rcases stepped : run.step env station with ⟨next, between⟩
      cases next with
      | go next =>
          simp only [walk, stepped] at walked
          obtain ⟨owed, trail, _⟩ := step_trail stepped
          exact
            inductionHypothesis
              (visit holds running stepped)
              (trail.terminated_eq running)
              walked
      | stop result =>
          simp only [walk, stepped] at walked
          cases walked
          exact last holds running stepped

/-- A poll that does not break down reaches the run after it. -/
theorem reached_of_poll
    (reached : Reached env start .idle run)
    (polled : run.poll env budget = (some result, stood))
    (sound : result.breaksDown = false) :
    Reached env start .idle stood := by
  cases terminated : run.flow.terminated with
  | true =>
      rw [poll_of_terminated terminated] at polled
      cases polled
      exact reached
  | false =>
      refine walk_induction
        (fun station => Reached env start (.within station))
        (fun result run => result.breaksDown = false → Reached env start .idle run)
        ?_ ?_ (reached.begin terminated) terminated (walk_of_poll terminated polled) sound
      · intro station next run after reached _ stepped
        exact reached.step stepped rfl
      · intro station result run after reached _ stepped sound
        exact reached.step stepped sound

/-- A running flow has ended after a poll exactly when the result says so. -/
theorem terminated_of_poll
    (running : run.flow.terminated = false)
    (polled : run.poll env budget = (some result, stood)) :
    stood.flow.terminated = result.ends := by
  refine walk_induction
    (fun _ _ => True)
    (fun result run => run.flow.terminated = result.ends)
    ?_ ?_ trivial running (walk_of_poll running polled)
  · intro station next run after _ _ _
    trivial
  · intro station result run after _ running stepped
    obtain ⟨owed, trail, _⟩ := step_trail stepped
    exact trail.terminated_eq running

/-- What every deed of a running flow keeps is kept by a poll. -/
theorem keeps_of_poll
    (Inv : Flow Req Ctx → List (Event Req Resp Ctx Fault Refusal) → Prop)
    (deed :
      ∀ {station before next after},
        before.flow.terminated = false →
        Inv before.flow before.events →
        Deed env station before next after →
        Inv after.flow after.events)
    (holds : Inv run.flow run.events)
    (polled : run.poll env budget = (some result, stood)) :
    Inv stood.flow stood.events := by
  cases terminated : run.flow.terminated with
  | true =>
      rw [poll_of_terminated terminated] at polled
      cases polled
      exact holds
  | false =>
      have visit
          {station : Station}
          {next : Next Resp Ctx Fault Refusal}
          {run after : Run σ Req Resp Ctx Fault Refusal}
          (holds : Inv run.flow run.events)
          (running : run.flow.terminated = false)
          (stepped : run.step env station = (next, after)) :
          Inv after.flow after.events := by
        obtain ⟨owed, trail, _⟩ := step_trail stepped
        exact
          trail.keeps (fun _ _ => deed) rfl running holds
      exact
        walk_induction
          (fun _ run => Inv run.flow run.events)
          (fun _ run => Inv run.flow run.events)
          visit visit holds terminated (walk_of_poll terminated polled)

end Run

end Walks

section Noted

variable {env : Surroundings σ Req Resp Ctx Fault Refusal}
variable {station : Station}
variable {before after : Scene Req Resp Ctx Fault Refusal}

/-- The journal tells of the reply that a deed makes. -/
theorem Deed.noted_eq
    {next : Option (Next Resp Ctx Fault Refusal)}
    (deed : Deed env station before next after) :
    after.events.filterMap Event.reply? =
      before.events.filterMap Event.reply? ++ (next.bind Next.reply?).toList := by
  cases deed <;>
    simp [List.filterMap_cons, Event.reply?, Next.reply?, Reply.noted?,
      Flow.filterMap_told Event.reply? fun _ _ => rfl]

theorem Trail.noted_eq
    {next : Next Resp Ctx Fault Refusal}
    (trail : Trail env station before next after) :
    after.events.filterMap Event.reply? =
      before.events.filterMap Event.reply? ++ next.reply?.toList := by
  induction trail with
  | last deed =>
      exact deed.noted_eq
  | more deed _ inductionHypothesis =>
      rw [inductionHypothesis, deed.noted_eq]
      simp

theorem Run.noted_of_poll
    {run stood : Run σ Req Resp Ctx Fault Refusal}
    {result : PollResult Resp Ctx Fault Refusal}
    {budget : Nat}
    (polled : run.poll env budget = (some result, stood)) :
    stood.events.filterMap Event.reply? =
      run.events.filterMap Event.reply? ++ (Reply.polled result).noted?.toList := by
  cases terminated : run.flow.terminated with
  | true =>
      rw [poll_of_terminated terminated] at polled
      cases polled
      simp [Reply.noted?]
  | false =>
      refine walk_induction
        (fun _ between =>
          between.events.filterMap Event.reply? = run.events.filterMap Event.reply?)
        (fun result after =>
          after.events.filterMap Event.reply? =
            run.events.filterMap Event.reply? ++ (Reply.polled result).noted?.toList)
        ?_ ?_ rfl terminated (walk_of_poll terminated polled)
      · intro station next between after same _ stepped
        obtain ⟨owed, trail, _⟩ := step_trail stepped
        exact trail.noted_eq.trans (by simp [Run.scene, Next.reply?, same])
      · intro station result between after same _ stepped
        obtain ⟨owed, trail, _⟩ := step_trail stepped
        exact trail.noted_eq.trans (by simp [Run.scene, Next.reply?, same])

end Noted

namespace Session

variable {env : Surroundings σ Req Resp Ctx Fault Refusal}
variable {start run : Run σ Req Resp Ctx Fault Refusal}
variable {replies : List (Reply Resp Ctx Fault Refusal)}

/-- The journal tells of the items that a session gave out and of its cancellings. -/
theorem noted_eq (session : Session env start replies run) :
    run.events.filterMap Event.reply? =
      start.events.filterMap Event.reply? ++ replies.filterMap Reply.noted? := by
  induction session with
  | start => simp
  | @poll replies _ _ _ result _ polled inductionHypothesis =>
      rw [Run.noted_of_poll polled, inductionHypothesis]
      cases noted : (Reply.polled result).noted? <;> simp [noted]
  | @cancel replies run _ inductionHypothesis =>
      rw [Run.events_cancel, List.filterMap_append, inductionHypothesis]
      simp [Event.reply?, Reply.noted?]
  | elapse _ _ inductionHypothesis =>
      exact inductionHypothesis

theorem items_eq (session : Session env start replies run) :
    run.items = start.items ++ items replies := by
  have ofEvents (events : List (Event Req Resp Ctx Fault Refusal)) :
      events.filterMap Event.item? =
        (events.filterMap Event.reply?).filterMap Reply.item? := by
    rw [List.filterMap_filterMap]
    congr 1
    funext event
    cases event <;> rfl
  have ofReplies :
      items replies = (replies.filterMap Reply.noted?).filterMap Reply.item? := by
    rw [items, List.filterMap_filterMap]
    congr 1
    funext reply
    rcases reply with (_ | _ | _ | _) | _ <;> rfl
  rw [Run.items, Run.items, ofEvents, ofEvents, ofReplies, session.noted_eq,
    List.filterMap_append]

/-- A session in which no poll broke down reaches the run after it. -/
theorem reached
    (session : Session env start replies run)
    (sound : Sound replies) :
    Reached env start .idle run := by
  induction session with
  | start => exact .start
  | @poll replies _ _ _ result _ polled inductionHypothesis =>
      have before : Sound replies := fun reply member =>
        sound reply (List.mem_append_left _ member)
      have last : (Reply.polled result).breaksDown = false :=
        sound _ (List.mem_append_right _ (List.mem_singleton_self _))
      exact Run.reached_of_poll (inductionHypothesis before) polled last
  | @cancel replies _ _ inductionHypothesis =>
      have before : Sound replies := fun reply member =>
        sound reply (List.mem_append_left _ member)
      exact (inductionHypothesis before).cancel
  | elapse outside _ inductionHypothesis =>
      exact (inductionHypothesis sound).elapse outside

/-- What every deed of a running flow and every cancelling keeps holds after a session. -/
theorem keeps
    (Inv : Flow Req Ctx → List (Event Req Resp Ctx Fault Refusal) → Prop)
    (holds : Inv start.flow start.events)
    (deed :
      ∀ {station before next after},
        before.flow.terminated = false →
        Inv before.flow before.events →
        Deed env station before next after →
        Inv after.flow after.events)
    (cancel :
      ∀ {flow events},
        Inv flow events →
        Inv flow.shutDown
          (events ++ [.cancelled flow.inFlightCount flow.pendingCount]))
    (session : Session env start replies run) :
    Inv run.flow run.events := by
  induction session with
  | start => exact holds
  | poll _ polled inductionHypothesis =>
      exact Run.keeps_of_poll Inv deed inductionHypothesis polled
  | @cancel replies run _ inductionHypothesis =>
      rw [Run.events_cancel]
      exact cancel inductionHypothesis
  | elapse _ _ inductionHypothesis =>
      exact inductionHypothesis

/-- The flow has ended exactly when one of the replies says so. -/
theorem terminated_eq (session : Session env start replies run) :
    run.flow.terminated = (start.flow.terminated || replies.any Reply.ends) := by
  induction session with
  | start => simp
  | @poll replies run after _ result _ polled inductionHypothesis =>
      rw [List.any_append, ← Bool.or_assoc, ← inductionHypothesis]
      cases terminated : run.flow.terminated with
      | true =>
          rw [Run.poll_of_terminated terminated] at polled
          cases polled
          simp [terminated]
      | false =>
          rw [Run.terminated_of_poll terminated polled]
          simp [Reply.ends]
  | cancel _ _ =>
      simp [Run.cancel, Run.shutDown, Flow.shutDown, Reply.ends]
  | elapse _ _ inductionHypothesis =>
      exact inductionHypothesis

end Session

/-! ## Polling in a row -/

/--
The replies to so many polls in a row, and the run after them.

Nothing changes outside between the polls.  A poll that has no result is the last one and
does not count.
-/
def Run.polls
    (env : Surroundings σ Req Resp Ctx Fault Refusal)
    (budget : Nat) :
    Nat →
    Run σ Req Resp Ctx Fault Refusal →
    List (Reply Resp Ctx Fault Refusal) × Run σ Req Resp Ctx Fault Refusal
  | 0, run => ([], run)
  | count + 1, run =>
      match run.poll env budget with
      | (none, _) => ([], run)
      | (some result, after) =>
          let (replies, last) := polls env budget count after
          (.polled result :: replies, last)

namespace Session

variable {env : Surroundings σ Req Resp Ctx Fault Refusal}
variable {start run : Run σ Req Resp Ctx Fault Refusal}
variable {replies : List (Reply Resp Ctx Fault Refusal)}

/-- Polls in a row carry a session on. -/
theorem polls
    (session : Session env start replies run)
    (budget count : Nat) :
    Session env start
      (replies ++ (run.polls env budget count).1)
      (run.polls env budget count).2 := by
  induction count generalizing run replies with
  | zero => simpa [Run.polls] using session
  | succ count inductionHypothesis =>
      rcases polled : run.poll env budget with ⟨_ | result, after⟩
      · simpa [Run.polls, polled] using session
      · simpa [Run.polls, polled] using inductionHypothesis (session.poll polled)

theorem cancelled_not_mem_polls (budget count : Nat) :
    .cancelled ∉ (run.polls env budget count).1 := by
  induction count generalizing run with
  | zero => simp [Run.polls]
  | succ count inductionHypothesis =>
      rcases polled : run.poll env budget with ⟨_ | result, after⟩
      · simp [Run.polls, polled]
      · simpa [Run.polls, polled] using inductionHypothesis

end Session

end Resubmit
