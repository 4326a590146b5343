import Mathlib.Algebra.Order.Ring.Nat
import Mathlib.Data.List.Perm.Basic
import Mathlib.Order.Bounds.Basic
import Resubmit.Proofs.Moves
import Resubmit.Simulation.World

namespace Resubmit

/-!
# Counting on both sides

A flow holds the submissions that it waits for, and a mock stage counts for itself those that
it has neither answered nor lost.  Nothing makes the two agree but that each of the few calls
from one to the other changes both.  What the journal tells of these calls is the third count,
and the only one that remembers.
-/

variable {ρ Req Resp Ctx Fault Refusal : Type}

/-! ## The count of the journal -/

namespace Event

/-- The call that a stage records with the event, if there is one. -/
def call? : Event Req Resp Ctx Fault Refusal → Option (Submitted Req)
  | .submitted now submission _ => some ⟨now, submission.attempt.item.request⟩
  | _ => none

/-- How many submissions are answered or given up with the event. -/
def departures : Event Req Resp Ctx Fault Refusal → Nat
  | .answered .. => 1
  | .aborted inFlight _ _ => inFlight
  | .cancelled inFlight _ => inFlight
  | _ => 0

/-- No submission comes or goes with the event. -/
structure Still (event : Event Req Resp Ctx Fault Refusal) : Prop where
  silent : event.call? = none
  stays : event.departures = 0

end Event

namespace Journal

variable {events : List (Event Req Resp Ctx Fault Refusal)}
variable {event : Event Req Resp Ctx Fault Refusal}

/-- The calls that a stage has recorded, in order. -/
def calls (events : List (Event Req Resp Ctx Fault Refusal)) : List (Submitted Req) :=
  events.filterMap Event.call?

/-- How many submissions were answered or given up. -/
def departures (events : List (Event Req Resp Ctx Fault Refusal)) : Nat :=
  (events.map Event.departures).sum

/-- How many submissions were neither answered nor given up. -/
def standing (events : List (Event Req Resp Ctx Fault Refusal)) : Nat :=
  (calls events).length - departures events

/-- All counts of submissions that there were at some time. -/
def heights (events : List (Event Req Resp Ctx Fault Refusal)) : Set Nat :=
  {count | ∃ earlier, earlier <+: events ∧ standing earlier = count}

theorem filterMap_concat (see : Event Req Resp Ctx Fault Refusal → Option β) :
    (events ++ [event]).filterMap see = events.filterMap see ++ (see event).toList := by
  rw [List.filterMap_append, List.filterMap_cons, List.filterMap_nil]
  cases see event <;> rfl

theorem calls_concat : calls (events ++ [event]) = calls events ++ event.call?.toList :=
  filterMap_concat Event.call?

theorem departures_concat :
    departures (events ++ [event]) = departures events + event.departures := by
  simp [departures]

theorem heights_nil :
    heights ([] : List (Event Req Resp Ctx Fault Refusal)) = {0} := by
  ext count
  simp [heights, standing, calls, eq_comm]

theorem heights_concat :
    heights (events ++ [event]) = insert (standing (events ++ [event])) (heights events) := by
  ext count
  constructor
  · rintro ⟨earlier, first, rfl⟩
    rcases List.prefix_concat_iff.mp first with rfl | before
    · exact Set.mem_insert _ _
    · exact Set.mem_insert_of_mem _ ⟨earlier, before, rfl⟩
  · rintro (rfl | ⟨earlier, before, rfl⟩)
    · exact ⟨_, List.prefix_rfl, rfl⟩
    · exact ⟨earlier, List.prefix_concat_iff.mpr (.inr before), rfl⟩

end Journal

/-! ## The stage -/

/-- The open submission as it was handed to the stage. -/
def Open.handed (entry : Open Req) : Nat × Req :=
  (entry.ticket, entry.request)

namespace MockStage

variable {stage later : MockStage Req Resp Fault}
variable {ticket : Nat}

/-- The stages differ at most in when an open submission will be answered. -/
structure Alike (first second : MockStage Req Resp Fault) : Prop where
  respond : first.respond = second.respond
  handed : first.opened.map Open.handed = second.opened.map Open.handed
  inFlight : first.inFlight = second.inFlight
  submissions : first.submissions = second.submissions
  peak : first.peak = second.peak

theorem Alike.refl (stage : MockStage Req Resp Fault) : stage.Alike stage where
  respond := rfl
  handed := rfl
  inFlight := rfl
  submissions := rfl
  peak := rfl

theorem Alike.trans
    {first second third : MockStage Req Resp Fault}
    (one : first.Alike second)
    (other : second.Alike third) :
    first.Alike third where
  respond := one.respond.trans other.respond
  handed := one.handed.trans other.handed
  inFlight := one.inFlight.trans other.inFlight
  submissions := one.submissions.trans other.submissions
  peak := one.peak.trans other.peak

theorem Alike.tickets
    {first second : MockStage Req Resp Fault}
    (alike : first.Alike second) :
    first.opened.map Open.ticket = second.opened.map Open.ticket := by
  have same := congrArg (List.map Prod.fst) alike.handed
  rwa [List.map_map, List.map_map] at same

theorem alike_sleep
    (stage : MockStage Req Resp Fault)
    (ticket : Nat)
    (deadline : Instant) :
    (stage.sleep ticket deadline).Alike stage where
  respond := rfl
  handed := by
    rw [sleep, List.map_map]
    apply List.map_congr_left
    intro entry _
    rw [Function.comp]
    split <;> rfl
  inFlight := rfl
  submissions := rfl
  peak := rfl

theorem mem_of_find?
    {entry : Open Req}
    (found : stage.find? ticket = some entry) :
    entry ∈ stage.opened ∧ entry.ticket = ticket := by
  have fits := List.find?_some found
  exact ⟨List.mem_of_find?_eq_some found, beq_iff_eq.mp fits⟩

/-- One open submission fewer is counted after a release. -/
theorem tickets_release (opened : ticket ∈ stage.opened.map Open.ticket) :
    (stage.opened.map Open.ticket).Perm
      (ticket :: (stage.release ticket).opened.map Open.ticket) := by
  obtain ⟨entry, member, same⟩ := List.mem_map.mp opened
  obtain ⟨other, before, after, _, fits, whole, rest⟩ :=
    List.exists_of_eraseP (p := fun entry : Open Req => entry.ticket == ticket)
      member (beq_iff_eq.mpr same)
  have ticketEq : other.ticket = ticket := beq_iff_eq.mp fits
  rw [release, rest, whole, ← ticketEq]
  simp only [List.map_append, List.map_cons]
  exact List.perm_middle

theorem pending_of_poll
    {now deadline : Instant}
    (polled : stage.poll now ticket = (.pending deadline, later)) :
    later.Alike stage := by
  unfold poll at polled
  split at polled
  · cases polled
  · simp only at polled
    split at polled
    · cases polled
    · split at polled
      · cases polled
      · split at polled
        · cases polled
        · cases polled
          exact alike_sleep stage ticket deadline

/-- Only an open submission is answered, by its request, and it is open no longer. -/
theorem ready_of_poll
    {now : Instant}
    {answer : Except Fault Resp}
    (polled : stage.poll now ticket = (.ready answer, later)) :
    later = stage.release ticket ∧
      ∃ entry ∈ stage.opened,
        entry.ticket = ticket ∧ answer = stage.respond entry.request := by
  unfold poll at polled
  split at polled
  · cases polled
  · rename_i entry found
    obtain ⟨opened, same⟩ := mem_of_find? found
    simp only at polled
    split at polled
    · cases polled
      exact ⟨by rw [same], entry, opened, same, rfl⟩
    · split at polled
      · cases polled
      · split at polled
        · cases polled
          exact ⟨by rw [same], entry, opened, same, rfl⟩
        · cases polled

theorem drop_eq (opened : ticket ∈ stage.opened.map Open.ticket) :
    (stage.drop ticket).2 = stage.release ticket := by
  unfold drop
  split
  · rename_i missing
    obtain ⟨entry, member, same⟩ := List.mem_map.mp opened
    have other := List.find?_eq_none.mp missing entry member
    exact (other (beq_iff_eq.mpr same)).elim
  · rfl

/-- The stage counts the submissions that are open with it. -/
def Counts (stage : MockStage Req Resp Fault) : Prop :=
  stage.inFlight = stage.opened.length

theorem Counts.release
    (counts : stage.Counts)
    (opened : ticket ∈ stage.opened.map Open.ticket) :
    (stage.release ticket).Counts := by
  have fewer := (tickets_release opened).length_eq
  simp only [List.length_map, List.length_cons] at fewer
  have counted : stage.inFlight = stage.opened.length := counts
  change stage.inFlight - 1 = (stage.release ticket).opened.length
  omega

/-- What is left of a stage after submissions have been dropped one after the other. -/
def dropAll (stage : MockStage Req Resp Fault) (tickets : List Nat) : MockStage Req Resp Fault :=
  tickets.foldl (fun stage ticket => (stage.drop ticket).2) stage

/-- Each submission that is dropped counts one less, and what was recorded remains. -/
theorem dropAll_spec
    {dropped others : List Nat}
    (all : (stage.opened.map Open.ticket).Perm (dropped ++ others))
    (counts : stage.Counts) :
    ((stage.dropAll dropped).opened.map Open.ticket).Perm others ∧
      (stage.dropAll dropped).Counts ∧
      (stage.dropAll dropped).submissions = stage.submissions ∧
      (stage.dropAll dropped).peak = stage.peak := by
  induction dropped generalizing stage with
  | nil => exact ⟨all, counts, rfl, rfl⟩
  | cons ticket rest inductionHypothesis =>
      have opened : ticket ∈ stage.opened.map Open.ticket :=
        all.mem_iff.mpr List.mem_cons_self
      have fewer : ((stage.release ticket).opened.map Open.ticket).Perm (rest ++ others) :=
        ((tickets_release opened).symm.trans all).cons_inv
      have left := inductionHypothesis fewer (counts.release opened)
      rw [dropAll, List.foldl_cons, drop_eq opened]
      exact left

end MockStage

/-! ## The tally -/

/--
What a flow holds, what a stage has counted and what the journal tells agree.

`flying` are the submissions that the flow waits for.
-/
structure Tally
    (parallelism : Nat)
    (flying : List (Submission Req Ctx))
    (stage : MockStage Req Resp Fault)
    (events : List (Event Req Resp Ctx Fault Refusal)) :
    Prop where
  tickets : (stage.opened.map Open.ticket).Perm (flying.map Submission.ticket)
  counts : stage.Counts
  recorded : stage.submissions.toList = Journal.calls events
  balanced : (Journal.calls events).length = Journal.departures events + flying.length
  bounded :
    ∀ earlier, earlier <+: events →
      Journal.departures earlier ≤ (Journal.calls earlier).length ∧
        (Journal.calls earlier).length ≤ Journal.departures earlier + parallelism
  peak : IsGreatest (Journal.heights events) stage.peak

namespace Tally

variable {parallelism : Nat}
variable {flying rest : List (Submission Req Ctx)}
variable {stage later : MockStage Req Resp Fault}
variable {events : List (Event Req Resp Ctx Fault Refusal)}
variable {event : Event Req Resp Ctx Fault Refusal}

theorem start
    (parallelism : Nat)
    (respond : Req → Except Fault Resp)
    (latency : Req → Duration) :
    Tally parallelism []
      (MockStage.answering respond latency)
      ([] : List (Event Req Resp Ctx Fault Refusal)) where
  tickets := .nil
  counts := rfl
  recorded := rfl
  balanced := rfl
  bounded earlier before := by
    rw [List.prefix_nil.mp before]
    exact ⟨Nat.le_refl 0, Nat.zero_le _⟩
  peak := by
    rw [Journal.heights_nil]
    exact isGreatest_singleton

theorem inFlight_eq (tally : Tally parallelism flying stage events) :
    stage.inFlight = flying.length := by
  have same := tally.tickets.length_eq
  simp only [List.length_map] at same
  exact tally.counts.trans same

theorem standing_eq (tally : Tally parallelism flying stage events) :
    Journal.standing events = flying.length := by
  rw [Journal.standing, tally.balanced, Nat.add_sub_cancel_left]

theorem length_le_peak (tally : Tally parallelism flying stage events) :
    flying.length ≤ stage.peak := by
  rw [← tally.standing_eq]
  exact tally.peak.2 ⟨events, List.prefix_rfl, rfl⟩

theorem slots (tally : Tally parallelism flying stage events) :
    flying.length ≤ parallelism := by
  have bound := (tally.bounded events List.prefix_rfl).2
  have total := tally.balanced
  omega

theorem peak_le (tally : Tally parallelism flying stage events) :
    stage.peak ≤ parallelism := by
  obtain ⟨earlier, before, high⟩ := tally.peak.1
  have bound := (tally.bounded earlier before).2
  rw [← high, Journal.standing]
  omega

theorem alike
    (tally : Tally parallelism flying stage events)
    (same : later.Alike stage) :
    Tally parallelism flying later events where
  tickets := by
    rw [same.tickets]
    exact tally.tickets
  counts := by
    have length := congrArg List.length same.tickets
    simp only [List.length_map] at length
    rw [MockStage.Counts, same.inFlight, length]
    exact tally.counts
  recorded := by
    rw [same.submissions]
    exact tally.recorded
  balanced := tally.balanced
  bounded := tally.bounded
  peak := by
    rw [same.peak]
    exact tally.peak

/-- One more event keeps the tally when the three counts take part in it. -/
theorem concat
    (tally : Tally parallelism flying stage events)
    (tickets : (later.opened.map Open.ticket).Perm (rest.map Submission.ticket))
    (counts : later.Counts)
    (recorded : later.submissions.toList = Journal.calls (events ++ [event]))
    (balanced :
      (Journal.calls (events ++ [event])).length =
        Journal.departures (events ++ [event]) + rest.length)
    (slots : rest.length ≤ parallelism)
    (peak : later.peak = max rest.length stage.peak) :
    Tally parallelism rest later (events ++ [event]) where
  tickets := tickets
  counts := counts
  recorded := recorded
  balanced := balanced
  bounded earlier first := by
    rcases List.prefix_concat_iff.mp first with rfl | before
    · omega
    · exact tally.bounded earlier before
  peak := by
    have standing : Journal.standing (events ++ [event]) = rest.length := by
      rw [Journal.standing, balanced, Nat.add_sub_cancel_left]
    rw [Journal.heights_concat, standing, peak]
    exact tally.peak.insert _

/-- An event with which nothing comes or goes keeps the tally. -/
theorem still
    (tally : Tally parallelism flying stage events)
    (still : event.Still) :
    Tally parallelism flying stage (events ++ [event]) := by
  have calls : Journal.calls (events ++ [event]) = Journal.calls events := by
    rw [Journal.calls_concat, still.silent]
    exact List.append_nil _
  refine tally.concat tally.tickets tally.counts ?_ ?_ tally.slots ?_
  · rw [calls]
    exact tally.recorded
  · rw [calls, Journal.departures_concat, still.stays]
    exact tally.balanced
  · exact (max_eq_right tally.length_le_peak).symm

/-- A submission comes. -/
theorem submit
    (tally : Tally parallelism flying stage events)
    (slot : flying.length < parallelism)
    (now : Instant)
    (submission : Submission Req Ctx)
    (count : Nat) :
    Tally parallelism
      (flying ++ [submission])
      (stage.submit now submission.ticket submission.attempt.item.request)
      (events ++ [.submitted now submission count]) := by
  refine tally.concat ?_ ?_ ?_ ?_ ?_ ?_
  · simp only [MockStage.submit, List.map_append, List.map_singleton]
    exact tally.tickets.append_right _
  · have counts := tally.counts
    simp only [MockStage.Counts, MockStage.submit, List.length_append,
      List.length_singleton] at *
    rw [counts]
  · rw [Journal.calls_concat, ← tally.recorded]
    exact Array.toList_push
  · have balanced := tally.balanced
    simp only [Journal.calls_concat, Journal.departures_concat, Event.call?, Event.departures,
      Option.toList_some, List.length_append, List.length_singleton]
    omega
  · rw [List.length_append, List.length_singleton]
    exact slot
  · rw [List.length_append, List.length_singleton, ← tally.inFlight_eq]
    exact max_comm _ _

/-- A submission is answered. -/
theorem answer
    (tally : Tally parallelism flying stage events)
    (index : Fin flying.length)
    (now : Instant)
    (answer : Except Fault Resp)
    (opened : (flying.get index).ticket ∈ stage.opened.map Open.ticket) :
    Tally parallelism
      (flying.eraseIdx index)
      (stage.release (flying.get index).ticket)
      (events ++ [.answered now (flying.get index) answer]) := by
  have fewer : ((flying.get index) :: flying.eraseIdx index).Perm flying :=
    List.getElem_cons_eraseIdx_perm index.isLt
  have length := fewer.length_eq
  rw [List.length_cons] at length
  have silent :
      (.answered now (flying.get index) answer : Event Req Resp Ctx Fault Refusal).call? = none :=
    rfl
  refine tally.concat ?_ (tally.counts.release opened) ?_ ?_ ?_ ?_
  · have both :=
      ((MockStage.tickets_release opened).symm.trans tally.tickets).trans
        (fewer.map Submission.ticket).symm
    exact both.cons_inv
  · rw [Journal.calls_concat, silent, Option.toList_none, List.append_nil]
    exact tally.recorded
  · have balanced := tally.balanced
    rw [Journal.calls_concat, Journal.departures_concat, silent, Option.toList_none,
      List.append_nil, Event.departures]
    omega
  · have slots := tally.slots
    omega
  · have most := tally.length_le_peak
    have below : (flying.eraseIdx index).length ≤ stage.peak := by omega
    exact (max_eq_right below).symm

/-- The stage counts as many as are left when some of the submissions have been dropped. -/
theorem inFlight_dropAll
    (tally : Tally parallelism flying stage events)
    {dropped others : List Nat}
    (split : (flying.map Submission.ticket).Perm (dropped ++ others)) :
    (stage.dropAll dropped).inFlight = others.length := by
  obtain ⟨left, counts, _⟩ := MockStage.dropAll_spec (tally.tickets.trans split) tally.counts
  have length := left.length_eq
  rw [List.length_map] at length
  exact counts.trans length

/-- All submissions are given up. -/
theorem giveUp
    (tally : Tally parallelism flying stage events)
    (silent : event.call? = none)
    (all : event.departures = flying.length) :
    Tally parallelism []
      (stage.dropAll (flying.map Submission.ticket))
      (events ++ [event]) := by
  have every : (stage.opened.map Open.ticket).Perm (flying.map Submission.ticket ++ []) := by
    rw [List.append_nil]
    exact tally.tickets
  obtain ⟨none, counts, recorded, peak⟩ := MockStage.dropAll_spec every tally.counts
  refine tally.concat none counts ?_ ?_ (Nat.zero_le _) ?_
  · rw [Journal.calls_concat, silent, recorded, tally.recorded]
    exact (List.append_nil _).symm
  · rw [Journal.calls_concat, Journal.departures_concat, silent, all, Option.toList_none,
      List.append_nil]
    exact tally.balanced
  · rw [peak]
    exact (max_eq_right (Nat.zero_le _)).symm

end Tally

/-! ## The world -/

namespace World

/--
Looking through the queue changes no count, but that an answered submission is released.

`slept` is the stage before that, when some of its submissions have been put to sleep.  The
answer is the one to the request with which the submission is open.
-/
theorem exists_slept
    {now : Instant}
    {inFlight : List (Submission Req Ctx)}
    {queue : List Nat}
    {world later : World ρ Req Resp Fault}
    {found : Option (Completion Resp Fault inFlight)}
    (looked : lookThrough now inFlight queue world = (found, later)) :
    ∃ slept : MockStage Req Resp Fault,
      slept.Alike world.stage ∧
        (found = none → later.stage = slept) ∧
        ∀ completion, found = some completion →
          later.stage = slept.release (inFlight.get completion.index).ticket ∧
            ∃ entry ∈ slept.opened,
              entry.ticket = (inFlight.get completion.index).ticket ∧
                completion.answer = slept.respond entry.request := by
  induction queue generalizing world with
  | nil =>
      cases looked
      exact ⟨world.stage, .refl _, fun _ => rfl, fun _ answered => nomatch answered⟩
  | cons ticket others inductionHypothesis =>
      unfold lookThrough at looked
      split at looked
      · exact inductionHypothesis looked
      · rename_i index fits
        have same : (inFlight.get index).ticket = ticket :=
          beq_iff_eq.mp (List.findFinIdx?_eq_some_iff.mp fits).1
        split at looked
        · exact inductionHypothesis looked
        · exact inductionHypothesis looked
        · rename_i deadline stage polled
          obtain ⟨slept, alike, rest⟩ := inductionHypothesis looked
          exact ⟨slept, alike.trans (MockStage.pending_of_poll polled), rest⟩
        · rename_i answer stage polled
          have ready := MockStage.ready_of_poll polled
          rw [← same] at ready
          cases looked
          refine ⟨world.stage, .refl _, fun missing => (nomatch missing), ?_⟩
          intro completion answered
          cases answered
          exact ready

/-- Waking submissions leaves the stage alone. -/
theorem stage_foldl_wake (tickets : List Nat) (world : World ρ Req Resp Fault) :
    (tickets.foldl wake world).stage = world.stage := by
  induction tickets generalizing world with
  | nil => rfl
  | cons ticket rest inductionHypothesis =>
      rw [List.foldl_cons, inductionHypothesis, wake]
      split <;> rfl

end World

/-! ## The moves -/

/-- Submissions neither come nor go with what a flow does by itself. -/
theorem Event.still_of_own
    {event : Event Req Resp Ctx Fault Refusal}
    (own : event.own = true) :
    event.Still := by
  cases event with
  | feedAsked | submitted | answered | judged | notified | aborted | cancelled => cases own
  | _ => exact ⟨rfl, rfl⟩

/-- The flow, the stage and the journal of the run agree. -/
def Run.Tallied (run : Run (World ρ Req Resp Fault) Req Resp Ctx Fault Refusal) : Prop :=
  Tally run.flow.settings.parallelism run.flow.inFlight run.outside.stage run.events

namespace Run.Tallied

variable {host : Host ρ Req Resp Ctx Refusal}
variable {run after : Run (World ρ Req Resp Fault) Req Resp Ctx Fault Refusal}

theorem log
    (tallied : run.Tallied)
    (event : Event Req Resp Ctx Fault Refusal)
    (still : event.Still) :
    (run.log event).Tallied := by
  rw [Tallied, events_log]
  exact Tally.still tallied still

/-- It does not matter what happens away from the stage. -/
theorem elapse
    (tallied : run.Tallied)
    {outside : World ρ Req Resp Fault}
    (apart : outside.stage = run.outside.stage) :
    ({ run with outside := outside } :
      Run (World ρ Req Resp Fault) Req Resp Ctx Fault Refusal).Tallied := by
  change Tally _ _ outside.stage _
  rw [apart]
  exact tallied

theorem submit
    (tallied : run.Tallied)
    (slot : run.flow.HasSlot)
    (attempt : Attempt Req Ctx)
    (place : Option Place) :
    (run.submit (World.surroundings host) attempt place).Tallied := by
  have submitted :=
    Tally.submit tallied slot (host.now run.outside.host)
      (run.flow.submissionOf attempt place) (run.flow.inFlight.length + 1)
  rw [← events_log] at submitted
  exact submitted

/-- What a flow gives up is dropped by the stage. -/
theorem shutDown
    (tallied : run.Tallied)
    (host : Host ρ Req Resp Ctx Refusal)
    (event : Event Req Resp Ctx Fault Refusal)
    (silent : event.call? = none)
    (all : event.departures = run.flow.inFlightCount) :
    ((run.log event).shutDown (World.surroundings host)).Tallied := by
  have given := Tally.giveUp tallied silent all
  rw [← events_log] at given
  exact given

theorem cancel (tallied : run.Tallied) :
    (run.cancel (World.surroundings host)).Tallied :=
  tallied.shutDown host _ rfl rfl

/-- No move makes the flow and the stage disagree. -/
theorem move
    (tallied : run.Tallied)
    (move : Move (World.surroundings host) run after) :
    after.Tallied := by
  cases move with
  | arrange flow same =>
      change Tally flow.settings.parallelism flow.inFlight _ _
      rw [same.settings, same.inFlight]
      exact tallied
  | note event own => exact tallied.log event (Event.still_of_own own)
  | ask offered =>
      have apart := (congrArg (fun pulled => pulled.2.stage) offered).symm
      exact (tallied.elapse apart).log _ ⟨rfl, rfl⟩
  | submit slot attempt place => exact tallied.submit slot attempt place
  | miss unanswered =>
      obtain ⟨slept, alike, missed, _⟩ := World.exists_slept unanswered
      rw [← missed rfl] at alike
      exact Tally.alike tallied alike
  | @answer completion later collected =>
      obtain ⟨slept, alike, _, answered⟩ := World.exists_slept collected
      obtain ⟨released, entry, opened, same, _⟩ := answered completion rfl
      have standing :
          (run.flow.inFlight.get completion.index).ticket ∈ slept.opened.map Open.ticket := by
        rw [← same]
        exact List.mem_map_of_mem opened
      have taken :=
        (Tally.alike tallied alike).answer completion.index (host.now later.host)
          completion.answer standing
      rw [Tallied, events_log]
      rw [← released] at taken
      exact taken
  | judge classified =>
      have apart := (congrArg (fun judged => judged.2.stage) classified).symm
      exact (tallied.elapse apart).log _ ⟨rfl, rfl⟩
  | tell notice =>
      unfold Run.notify
      split
      · exact tallied.log _ ⟨rfl, rfl⟩
      · exact tallied
  | look looked =>
      have apart := (congrArg (fun asked => asked.2.stage) looked).symm
      exact tallied.elapse apart
  | abort error => exact tallied.shutDown host _ rfl rfl
  | cancel => exact tallied.cancel

/-- No station does, either. -/
theorem step
    {station : Station}
    {next : Next Resp Ctx Fault Refusal}
    (tallied : run.Tallied)
    (stepped : run.step (World.surroundings host) station = (next, after)) :
    after.Tallied :=
  (Run.step_moves stepped).keeps move tallied

end Run.Tallied

end Resubmit
