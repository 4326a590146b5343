import Mathlib.Algebra.BigOperators.Intervals
import Resubmit.Proofs.Backoff
import Resubmit.Proofs.Resubmission

namespace Resubmit

/-!
# When work is handed to the stage

Fresh work is handed on at the instant at which it is taken from the feed.  A retry has an
appointment, made when the response that asks for it is judged, and on a clock that never goes
back and with a punctual timer it never comes early.  Without jitter all delays are known, and
so is how long a lineage takes at least.
-/

variable {σ Req Resp Ctx Fault Refusal : Type}

/-! ## Appointments -/

/-- How a retry came to be scheduled. -/
structure Appointment (Req Resp Ctx : Type) where
  /-- The submission whose response asks for the retry. -/
  parent : Submission Req Ctx
  response : Resp
  /-- When the response was judged. -/
  since : Instant
  delay : Duration
  entry : Waiting (Attempt Req Ctx)

/-- The retry was asked for, its delay drawn and reported, and its place found accordingly. -/
structure Appointment.Made
    (settings : Settings)
    (events : List (Event Req Resp Ctx Fault Refusal))
    (appointment : Appointment Req Resp Ctx) :
    Prop where
  asked :
    ∃ items,
      .judged appointment.since appointment.parent appointment.response
          (.ok (.retryWith items)) ∈ events ∧
        appointment.entry.payload.item ∈ items
  followUp :
    appointment.entry.payload =
      Attempt.followUp appointment.entry.payload.item
        (appointment.parent.attempt.number + 1) appointment.parent.ticket
  drawn :
    ∃ source rest : ChaCha12,
      settings.policy.delay appointment.entry.payload.number source =
        .ok (appointment.delay, rest)
  /-- If there is a hook, it is told of this delay, right before the retry is scheduled. -/
  reported :
    ∃ now,
      (if settings.observed then
          [.notified now
            ⟨appointment.parent.attempt.number, appointment.response,
              some appointment.delay⟩]
        else []) ++ [
        .retryAnnounced appointment.entry.payload.number appointment.delay,
        .retryScheduled appointment.entry] <:+: events
  due : appointment.entry.place.readyAt = appointment.since + appointment.delay

/-- What a hook is told of an appointment. -/
def Appointment.notice (appointment : Appointment Req Resp Ctx) : Notice Resp where
  attempt := appointment.parent.attempt.number
  response := appointment.response
  delay := some appointment.delay

/-- The call of the hook is noted. -/
theorem Appointment.Made.notice_mem
    {settings : Settings}
    {events : List (Event Req Resp Ctx Fault Refusal)}
    {appointment : Appointment Req Resp Ctx}
    (made : appointment.Made settings events)
    (observed : settings.observed = true) :
    appointment.notice ∈ Journal.notices events := by
  obtain ⟨now, told⟩ := made.reported
  rw [if_pos observed] at told
  have noted : .notified now appointment.notice ∈ events :=
    told.subset (List.mem_append_left _ (List.mem_singleton_self _))
  exact List.mem_filterMap.mpr ⟨_, noted, rfl⟩

theorem Appointment.Made.of_prefix
    {settings : Settings}
    {earlier events : List (Event Req Resp Ctx Fault Refusal)}
    {appointment : Appointment Req Resp Ctx}
    (made : appointment.Made settings earlier)
    (first : earlier <+: events) :
    appointment.Made settings events where
  asked := by
    obtain ⟨items, judged, among⟩ := made.asked
    exact ⟨items, first.subset judged, among⟩
  followUp := made.followUp
  drawn := made.drawn
  reported := by
    obtain ⟨now, told⟩ := made.reported
    exact ⟨now, told.trans first.isInfix⟩
  due := made.due

/-- Every retry that was scheduled has an appointment, and what is owed was asked for. -/
structure Scene.Appointed
    (settings : Settings)
    (scene : Scene Req Resp Ctx Fault Refusal) :
    Prop where
  scheduled :
    ∀ entry ∈ Journal.scheduled scene.events,
      ∃ appointment : Appointment Req Resp Ctx,
        appointment.entry = entry ∧ appointment.Made settings scene.events
  owed :
    ∀ debt ∈ scene.owed,
      ∃ items,
        .judged debt.since debt.submission debt.response (.ok (.retryWith items)) ∈
            scene.events ∧
          debt.item ∈ items

namespace Scene.Appointed

variable {settings : Settings}
variable {before : Scene Req Resp Ctx Fault Refusal}
variable {events : List (Event Req Resp Ctx Fault Refusal)}

theorem scheduled_of_prefix
    (appointed : before.Appointed settings)
    (first : before.events <+: events)
    {entry : Waiting (Attempt Req Ctx)}
    (member : entry ∈ Journal.scheduled before.events) :
    ∃ appointment : Appointment Req Resp Ctx,
      appointment.entry = entry ∧ appointment.Made settings events := by
  obtain ⟨appointment, same, made⟩ := appointed.scheduled entry member
  exact ⟨appointment, same, made.of_prefix first⟩

theorem owed_of_prefix
    (appointed : before.Appointed settings)
    (first : before.events <+: events)
    {debt : Debt Req Resp Ctx}
    (member : debt ∈ before.owed) :
    ∃ items,
      .judged debt.since debt.submission debt.response (.ok (.retryWith items)) ∈ events ∧
        debt.item ∈ items := by
  obtain ⟨items, judged, among⟩ := appointed.owed debt member
  exact ⟨items, first.subset judged, among⟩

end Scene.Appointed

section Deeds

variable {env : Surroundings σ Req Resp Ctx Fault Refusal}
variable {station : Station}
variable {before after : Scene Req Resp Ctx Fault Refusal}
variable {next : Option (Next Resp Ctx Fault Refusal)}

theorem Deed.appointed
    {settings : Settings}
    (deed : Deed env station before next after)
    (options : before.flow.settings = settings)
    (appointed : before.Appointed settings) :
    after.Appointed settings := by
  have told :=
    Flow.filterMap_told
      (Event.scheduled? : Event Req Resp Ctx Fault Refusal → _)
      fun _ _ => rfl
  have first := deed.events_prefix
  have unscheduled
      (same : Journal.scheduled after.events = Journal.scheduled before.events) :
      ∀ entry ∈ Journal.scheduled after.events,
        ∃ appointment : Appointment Req Resp Ctx,
          appointment.entry = entry ∧ appointment.Made settings after.events := by
    rw [same]
    exact fun entry member => appointed.scheduled_of_prefix first member
  cases deed with
  | branch =>
      refine ⟨unscheduled ?_, ?_⟩
      · simp only [Journal.scheduled, List.filterMap_append, List.filterMap_cons,
          List.filterMap_nil, List.append_nil, Event.scheduled?]
      · intro debt member
        obtain ⟨item, among, rfl⟩ := List.mem_map.mp member
        refine ⟨_, ?_, among⟩
        simp
  | @schedule flow events debt owed delay random entry _ outside drawn scheduled =>
      obtain ⟨placed, _⟩ := RetryQueue.eq_of_schedule? scheduled
      have place : entry.place.readyAt = debt.since + delay := by rw [placed]
      have payload : entry.payload = debt.attempt := by rw [placed]
      constructor
      case scheduled =>
        intro other member
        simp only [Journal.scheduled, List.filterMap_append, List.filterMap_cons,
          List.filterMap_nil, Event.scheduled?, told, List.nil_append] at member
        rcases List.mem_append.mp member with earlier | new
        · exact appointed.scheduled_of_prefix first earlier
        · cases List.mem_singleton.mp new
          refine ⟨⟨debt.submission, debt.response, debt.since, delay, entry⟩, rfl, ?_⟩
          constructor
          case asked =>
            rw [payload]
            exact appointed.owed_of_prefix first List.mem_cons_self
          case followUp =>
            rw [payload]
            rfl
          case drawn =>
            rw [payload, ← options]
            exact ⟨flow.random, random, drawn⟩
          case reported =>
            refine ⟨env.now outside, ?_⟩
            rw [payload, ← options]
            exact (List.suffix_append _ _).isInfix
          case due => exact place
      case owed =>
        intro other member
        exact appointed.owed_of_prefix first (List.mem_cons_of_mem debt member)
  | _ =>
      refine ⟨unscheduled ?_, fun debt member => appointed.owed_of_prefix first member⟩
      simp only [Journal.scheduled, List.filterMap_append, List.filterMap_cons,
        List.filterMap_nil, List.append_nil, Event.scheduled?, told]

end Deeds

/-! ## Stamps -/

/-- The instant and the submission, if something was handed to the stage. -/
def Event.stamp? : Event Req Resp Ctx Fault Refusal → Option (Instant × Submission Req Ctx)
  | .submitted now submission _ => some (now, submission)
  | _ => none

/-- The instant and the submission, if its response was judged. -/
def Event.hearing? : Event Req Resp Ctx Fault Refusal → Option (Instant × Submission Req Ctx)
  | .judged now submission _ _ => some (now, submission)
  | _ => none

namespace Journal

/-- The submissions made, in order, each with the instant. -/
def stamps (events : List (Event Req Resp Ctx Fault Refusal)) :
    List (Instant × Submission Req Ctx) :=
  events.filterMap Event.stamp?

/-- The submissions whose responses were judged, in order, each with the instant. -/
def hearings (events : List (Event Req Resp Ctx Fault Refusal)) :
    List (Instant × Submission Req Ctx) :=
  events.filterMap Event.hearing?

variable {events : List (Event Req Resp Ctx Fault Refusal)}
variable {stamp : Instant × Submission Req Ctx}

theorem map_snd_stamps (events : List (Event Req Resp Ctx Fault Refusal)) :
    (stamps events).map Prod.snd = submissions events := by
  rw [stamps, submissions, List.map_filterMap]
  congr 1
  funext event
  cases event <;> rfl

theorem mem_instants_of_stamp (member : stamp ∈ stamps events) :
    stamp.1 ∈ instants events := by
  obtain ⟨event, noted, shows⟩ := List.mem_filterMap.mp member
  cases event with
  | submitted now submission count =>
      cases shows
      exact List.mem_filterMap.mpr ⟨_, noted, rfl⟩
  | _ => cases shows

theorem mem_instants_of_hearing (member : stamp ∈ hearings events) :
    stamp.1 ∈ instants events := by
  obtain ⟨event, noted, shows⟩ := List.mem_filterMap.mp member
  cases event with
  | judged now submission response verdict =>
      cases shows
      exact List.mem_filterMap.mpr ⟨_, noted, rfl⟩
  | _ => cases shows

end Journal

theorem Flow.Takes.mem_inFlight
    {env : Surroundings σ Req Resp Ctx Fault Refusal}
    {flow rest : Flow Req Ctx}
    {submission : Submission Req Ctx}
    {answer : Except Fault Resp}
    {later : σ}
    (taken : flow.Takes env submission answer later rest) :
    submission ∈ flow.inFlight ∧ rest.inFlight ⊆ flow.inFlight := by
  cases taken with
  | intro outside later completion collected =>
      exact ⟨List.get_mem _ _, List.eraseIdx_subset⟩

/-- The stamps of a journal fit together: first submitted, then judged, and no retry early. -/
structure Scene.Stamped (scene : Scene Req Resp Ctx Fault Refusal) : Prop where
  flying :
    ∀ submission ∈ scene.flow.inFlight,
      ∃ instant, (instant, submission) ∈ Journal.stamps scene.events
  heard :
    ∀ hearing ∈ Journal.hearings scene.events,
      ∃ instant,
        (instant, hearing.2) ∈ Journal.stamps scene.events ∧ instant ≤ hearing.1
  due :
    ∀ stamp ∈ Journal.stamps scene.events,
      ∀ place, stamp.2.place = some place → place.readyAt ≤ stamp.1

namespace Scene.Stamped

variable {before after : Scene Req Resp Ctx Fault Refusal}

theorem stay
    (stamped : before.Stamped)
    (fewer : after.flow.inFlight ⊆ before.flow.inFlight)
    (stamps : Journal.stamps after.events = Journal.stamps before.events)
    (hearings : Journal.hearings after.events = Journal.hearings before.events) :
    after.Stamped where
  flying submission member := by
    rw [stamps]
    exact stamped.flying submission (fewer member)
  heard := by
    rw [hearings, stamps]
    exact stamped.heard
  due := by
    rw [stamps]
    exact stamped.due

/-- New events keep the stamps in order when what is judged had been in flight. -/
theorem append
    {new : List (Event Req Resp Ctx Fault Refusal)}
    (stamped : before.Stamped)
    (grown : after.events = before.events ++ new)
    (forward : Journal.Forward after.events)
    (flying :
      ∀ submission ∈ after.flow.inFlight,
        submission ∈ before.flow.inFlight ∨
          ∃ instant, (instant, submission) ∈ Journal.stamps new)
    (heard : ∀ hearing ∈ Journal.hearings new, hearing.2 ∈ before.flow.inFlight)
    (due :
      ∀ stamp ∈ Journal.stamps new,
        ∀ place, stamp.2.place = some place → place.readyAt ≤ stamp.1) :
    after.Stamped := by
  have split : Journal.stamps after.events =
      Journal.stamps before.events ++ Journal.stamps new := by
    rw [grown, Journal.stamps, List.filterMap_append]
    rfl
  constructor
  case flying =>
    intro submission member
    rw [split]
    rcases flying submission member with earlier | ⟨instant, made⟩
    · obtain ⟨instant, made⟩ := stamped.flying submission earlier
      exact ⟨instant, List.mem_append_left _ made⟩
    · exact ⟨instant, List.mem_append_right _ made⟩
  case heard =>
    intro hearing member
    rw [split]
    rw [grown, Journal.hearings, List.filterMap_append] at member
    rcases List.mem_append.mp member with earlier | now
    · obtain ⟨instant, made, before⟩ := stamped.heard hearing earlier
      exact ⟨instant, List.mem_append_left _ made, before⟩
    · obtain ⟨instant, made⟩ := stamped.flying hearing.2 (heard hearing now)
      rw [grown] at forward
      refine ⟨instant, List.mem_append_left _ made, ?_⟩
      exact
        forward.le_of_mem
          (Journal.mem_instants_of_stamp made)
          (Journal.mem_instants_of_hearing now)
  case due =>
    intro stamp member place waited
    rw [split] at member
    rcases List.mem_append.mp member with earlier | made
    · exact stamped.due stamp earlier place waited
    · exact due stamp made place waited

/-- Something is handed to the stage that is due. -/
theorem launch
    {flow : Flow Req Ctx}
    {attempt : Attempt Req Ctx}
    {place : Option Place}
    {now : Instant}
    {count : Nat}
    (stamped : before.Stamped)
    (first : List (Event Req Resp Ctx Fault Refusal))
    (flying : flow.inFlight = before.flow.inFlight)
    (forward :
      Journal.Forward
        (before.events ++ (first ++ [.submitted now (flow.submissionOf attempt place) count])))
    (unsubmitted : Journal.stamps first = [])
    (unheard : Journal.hearings first = [])
    (due : ∀ stood, place = some stood → stood.readyAt ≤ now) :
    (⟨flow.launch attempt place,
      before.events ++ (first ++ [.submitted now (flow.submissionOf attempt place) count]), []⟩ :
      Scene Req Resp Ctx Fault Refusal).Stamped := by
  have stamps :
      Journal.stamps (first ++ [.submitted now (flow.submissionOf attempt place) count]) =
        [(now, flow.submissionOf attempt place)] := by
    rw [Journal.stamps, List.filterMap_append]
    exact congrArg (· ++ _) unsubmitted
  refine stamped.append rfl forward ?_ ?_ ?_
  · intro submission member
    rcases List.mem_append.mp member with earlier | new
    · exact .inl (flying ▸ earlier)
    · rw [List.mem_singleton.mp new, stamps]
      exact .inr ⟨now, List.mem_singleton_self _⟩
  · intro hearing heard
    rw [Journal.hearings, List.filterMap_append] at heard
    rcases List.mem_append.mp heard with earlier | last
    · rw [← Journal.hearings, unheard] at earlier
      cases earlier
    · cases last
  · intro stamp made stood waited
    rw [stamps] at made
    cases List.mem_singleton.mp made
    exact due stood waited

/-- A response is judged that was in flight. -/
theorem judge
    {env : Surroundings σ Req Resp Ctx Fault Refusal}
    {flow rest after : Flow Req Ctx}
    {events new : List (Event Req Resp Ctx Fault Refusal)}
    {owed : List (Debt Req Resp Ctx)}
    {submission : Submission Req Ctx}
    {answer : Except Fault Resp}
    {later : σ}
    (stamped : (⟨flow, events, []⟩ : Scene Req Resp Ctx Fault Refusal).Stamped)
    (taken : flow.Takes env submission answer later rest)
    (fewer : after.inFlight ⊆ rest.inFlight)
    (forward : Journal.Forward (events ++ new))
    (unsubmitted : Journal.stamps new = [])
    (heard : ∀ hearing ∈ Journal.hearings new, hearing.2 = submission) :
    (⟨after, events ++ new, owed⟩ : Scene Req Resp Ctx Fault Refusal).Stamped := by
  obtain ⟨flying, others⟩ := taken.mem_inFlight
  refine stamped.append rfl forward ?_ ?_ ?_
  · intro other member
    exact .inl (others (fewer member))
  · intro hearing member
    rw [heard hearing member]
    exact flying
  · intro stamp made
    rw [unsubmitted] at made
    cases made

end Scene.Stamped

section Deeds

variable {env : Surroundings σ Req Resp Ctx Fault Refusal}
variable {station : Station}
variable {before after : Scene Req Resp Ctx Fault Refusal}
variable {next : Option (Next Resp Ctx Fault Refusal)}

theorem Deed.stamped
    (deed : Deed env station before next after)
    (forward : Journal.Forward after.events)
    (inLine : before.InLine)
    (stamped : before.Stamped) :
    after.Stamped := by
  have toldStamp :=
    Flow.filterMap_told
      (Event.stamp? : Event Req Resp Ctx Fault Refusal → _)
      fun _ _ => rfl
  have toldHearing :=
    Flow.filterMap_told
      (Event.hearing? : Event Req Resp Ctx Fault Refusal → _)
      fun _ _ => rfl
  cases deed with
  | @resubmit flow events entry retries outside slot popped =>
      have ready : entry ∈ flow.retries.ready := by
        rw [RetryQueue.eq_of_popReady? popped]
        exact List.mem_cons_self
      refine stamped.launch [] rfl forward rfl rfl ?_
      intro place waited
      cases waited
      obtain ⟨instant, among, passed⟩ := inLine.past entry (List.mem_append_right _ ready)
      have now : instant ≤ env.now outside :=
        forward.le_of_mem among (List.mem_singleton_self _)
      exact Nat.le_trans passed now
  | @pull flow events unasked later item =>
      exact
        stamped.launch [.feedAsked (env.now later) (.item item)] rfl forward rfl rfl
          fun _ waited => nomatch waited
  | stageFault =>
      refine stamped.stay (List.nil_subset _) ?_ ?_
      · simp [Journal.stamps, Event.stamp?]
      · simp [Journal.hearings, Event.hearing?]
  | refusal taken | exhaustionFault taken =>
      refine stamped.judge taken (List.nil_subset _) forward ?_ ?_
      · simp only [Journal.stamps, List.filterMap_append, List.filterMap_cons,
          List.filterMap_nil, List.append_nil, Event.stamp?, toldStamp]
      · intro hearing heard
        simp only [Journal.hearings, List.filterMap_append, List.filterMap_cons,
          List.filterMap_nil, List.append_nil, Event.hearing?, toldHearing] at heard
        rw [List.mem_singleton.mp heard]
  | done taken | dropBranch taken | exhaust taken | branch taken =>
      refine stamped.judge taken (List.Subset.refl _) forward ?_ ?_
      · simp only [Journal.stamps, List.filterMap_append, List.filterMap_cons,
          List.filterMap_nil, List.append_nil, Event.stamp?, toldStamp]
      · intro hearing heard
        simp only [Journal.hearings, List.filterMap_append, List.filterMap_cons,
          List.filterMap_nil, List.append_nil, Event.hearing?, toldHearing] at heard
        rw [List.mem_singleton.mp heard]
  | _ =>
      refine stamped.stay (List.Subset.refl _) ?_ ?_
      · simp only [Journal.stamps, List.filterMap_append, List.filterMap_cons,
          List.filterMap_nil, List.append_nil, Event.stamp?, toldStamp]
      · simp only [Journal.hearings, List.filterMap_append, List.filterMap_cons,
          List.filterMap_nil, List.append_nil, Event.hearing?, toldHearing]

end Deeds

/-! ## Retries in time -/

/-- The delay before an attempt when it is not spread, in nanoseconds. -/
def Policy.span (policy : Policy) (number : Nat) : Nat :=
  min (policy.base.toNanos * 2 ^ number) policy.max.toNanos

theorem Appointment.Made.span_eq
    {settings : Settings}
    {events : List (Event Req Resp Ctx Fault Refusal)}
    {appointment : Appointment Req Resp Ctx}
    (made : appointment.Made settings events)
    (unjittered : settings.policy.Unjittered) :
    appointment.delay.toNanos =
      settings.policy.span appointment.entry.payload.number.toNat := by
  obtain ⟨source, rest, drawn⟩ := made.drawn
  rw [Policy.delay_of_unjittered unjittered] at drawn
  have exact :
      settings.policy.backoff appointment.entry.payload.number = appointment.delay :=
    congrArg Prod.fst (Except.ok.inj drawn)
  rw [← exact]
  exact settings.policy.toNanos_backoff _

/-- Work is handed to the stage in time: fresh work at once, and no retry before its delay. -/
structure Journal.Timely
    (settings : Settings)
    (events : List (Event Req Resp Ctx Fault Refusal)) :
    Prop where
  /-- Each item is handed on at the very instant at which it is taken from the feed. -/
  fresh : AdmitsAtOnce events
  /-- A follow-up waits from its judgement on for the delay that was drawn and reported. -/
  retries :
    ∀ {instant : Instant} {submission : Submission Req Ctx},
      (instant, submission) ∈ stamps events →
      submission.attempt.parent ≠ none →
      ∃ appointment : Appointment Req Resp Ctx,
        appointment.Made settings events ∧
          appointment.entry.payload = submission.attempt ∧
          appointment.since + appointment.delay ≤ instant
  /-- Without jitter the delays double, up to the longest one. -/
  doubled :
    settings.policy.Unjittered →
    ∀ appointment : Appointment Req Resp Ctx,
      appointment.Made settings events →
      appointment.delay.toNanos =
        min
          (settings.policy.base.toNanos * 2 ^ appointment.entry.payload.number.toNat)
          settings.policy.max.toNanos
  /-- So the first resubmission waits for twice the first delay, or for the longest one. -/
  first :
    settings.policy.Unjittered →
    ∀ {instant : Instant} {submission : Submission Req Ctx},
      (instant, submission) ∈ stamps events →
      submission.attempt.number = 1 →
      ∃ since parent response verdict,
        .judged since parent response verdict ∈ events ∧
          submission.attempt.parent = some parent.ticket ∧
          since.nanos +
              min (2 * settings.policy.base.toNanos) settings.policy.max.toNanos ≤
            instant.nanos
  /-- From its first to its last submission a lineage takes as long as all its delays. -/
  spans :
    settings.policy.Unjittered →
    ∀ {begun instant : Instant}
      {first last : Submission Req Ctx}
      {ancestors : List (Submission Req Ctx)},
      (instant, last) ∈ stamps events →
      Lineage events last.attempt ancestors →
      (last :: ancestors).getLast? = some first →
      (begun, first) ∈ stamps events →
      begun.nanos +
          ∑ number ∈ Finset.Icc 1 ancestors.length,
            min (settings.policy.base.toNanos * 2 ^ number) settings.policy.max.toNanos ≤
        instant.nanos

/-- The hook, if there is one, was told of every appointment. -/
def Journal.Reports
    (settings : Settings)
    (told : List (Notice Resp))
    (events : List (Event Req Resp Ctx Fault Refusal)) :
    Prop :=
  settings.observed = true →
  ∀ appointment : Appointment Req Resp Ctx,
    appointment.Made settings events → appointment.notice ∈ told

namespace Reached

variable {env : Surroundings σ Req Resp Ctx Fault Refusal}
variable {settings : Settings}
variable {random : ChaCha12}
variable {outside : σ}
variable {position : Position}
variable {run : Run σ Req Resp Ctx Fault Refusal}

theorem appointed
    (reached :
      Reached env (Run.start (Flow.start settings random) outside) position run) :
    (run.scene []).Appointed settings := by
  refine reached.keeps (fun scene => scene.Appointed settings) ?_ ?_ ?_
  · constructor
    · intro entry member
      cases member
    · intro debt member
      cases member
  · intro station before label after _ options _ appointed deed
    exact deed.appointed options appointed
  · intro flow events appointed
    constructor
    · intro entry member
      simp only [Journal.scheduled, List.filterMap_append, List.filterMap_cons,
        List.filterMap_nil, List.append_nil, Event.scheduled?] at member
      exact appointed.scheduled_of_prefix (List.prefix_append _ _) member
    · intro debt member
      cases member

theorem stamped
    (punctual : env.Punctual)
    (reached :
      Reached env (Run.start (Flow.start settings random) outside) position run)
    (forward : Journal.Forward run.events) :
    (run.scene []).Stamped := by
  have both :=
    reached.keeps
      (fun scene => Journal.Forward scene.events → scene.InLine ∧ scene.Stamped)
      ?_ ?_ ?_ forward
  · exact both.2
  · intro _
    refine ⟨.start settings random, ?_, ?_, ?_⟩ <;>
      · intro _ member
        cases member
  · intro station before label after _ _ _ holds deed forward
    obtain ⟨inLine, stamped⟩ := holds (forward.of_prefix deed.events_prefix)
    exact ⟨deed.inLine punctual forward inLine, deed.stamped forward inLine stamped⟩
  · intro flow events holds forward
    obtain ⟨inLine, stamped⟩ := holds (forward.of_prefix (List.prefix_append _ _))
    refine ⟨inLine.shutDown rfl rfl, stamped.stay (List.nil_subset _) ?_ ?_⟩
    · simp [Journal.stamps, List.filterMap_cons, Event.stamp?]
    · simp [Journal.hearings, List.filterMap_cons, Event.hearing?]

/-- Nothing is handed to the stage twice. -/
theorem eq_of_stamps
    (reached :
      Reached env (Run.start (Flow.start settings random) outside) position run)
    {submission : Submission Req Ctx}
    {first second : Instant}
    (made : (first, submission) ∈ Journal.stamps run.events)
    (again : (second, submission) ∈ Journal.stamps run.events) :
    first = second := by
  have distinct : ((Journal.submissions run.events).map Submission.ticket).Nodup := by
    rw [reached.tickets_eq]
    exact List.nodup_range
  rw [← Journal.map_snd_stamps] at distinct
  have same := List.inj_on_of_nodup_map (List.Nodup.of_map _ distinct) made again rfl
  exact congrArg Prod.fst same

theorem submitted_of_stamp
    {instant : Instant}
    {submission : Submission Req Ctx}
    (made : (instant, submission) ∈ Journal.stamps run.events) :
    submission ∈ Journal.submissions run.events := by
  rw [← Journal.map_snd_stamps]
  exact List.mem_map_of_mem made

/-- A retry keeps its appointment. -/
theorem appointment_of_stamp
    (punctual : env.Punctual)
    (reached :
      Reached env (Run.start (Flow.start settings random) outside) position run)
    (forward : Journal.Forward run.events)
    {instant : Instant}
    {submission : Submission Req Ctx}
    (made : (instant, submission) ∈ Journal.stamps run.events)
    (retry : submission.attempt.parent ≠ none) :
    ∃ appointment : Appointment Req Resp Ctx,
      appointment.Made settings run.events ∧
        appointment.entry.payload = submission.attempt ∧
        appointment.since + appointment.delay ≤ instant := by
  have submitted := submitted_of_stamp made
  have waited : submission.place ≠ none :=
    (reached.place_eq_none_iff submitted).not.mpr retry
  obtain ⟨place, stood⟩ := Option.ne_none_iff_exists'.mp waited
  have resubmitted :
      ⟨place, submission.attempt⟩ ∈ Journal.resubmitted run.events :=
    List.mem_filterMap.mpr ⟨submission, submitted, by simp [Submission.entry?, stood]⟩
  have scheduled := Multiset.mem_of_le reached.resubmitted_le resubmitted
  obtain ⟨appointment, same, kept⟩ := reached.appointed.scheduled _ scheduled
  refine ⟨appointment, kept, by rw [same], ?_⟩
  rw [← kept.due, same]
  exact (reached.stamped punctual forward).due _ made place stood

/-- A follow-up is handed on so much later than the submission whose response asked for it. -/
theorem span_le
    (punctual : env.Punctual)
    (reached :
      Reached env (Run.start (Flow.start settings random) outside) position run)
    (forward : Journal.Forward run.events)
    (unjittered : settings.policy.Unjittered)
    {begun instant : Instant}
    {parent submission : Submission Req Ctx}
    (first : (begun, parent) ∈ Journal.stamps run.events)
    (second : (instant, submission) ∈ Journal.stamps run.events)
    (asked : submission.attempt.parent = some parent.ticket) :
    begun.nanos + settings.policy.span submission.attempt.number.toNat ≤ instant.nanos := by
  obtain ⟨appointment, made, payload, due⟩ :=
    reached.appointment_of_stamp punctual forward second (by simp [asked])
  obtain ⟨items, judged, _⟩ := made.asked
  have hearing :
      (appointment.since, appointment.parent) ∈ Journal.hearings run.events :=
    List.mem_filterMap.mpr ⟨_, judged, rfl⟩
  obtain ⟨earlier, submitted, before⟩ :
      ∃ earlier,
        (earlier, appointment.parent) ∈ Journal.stamps run.events ∧
          earlier ≤ appointment.since :=
    (reached.stamped punctual forward).heard _ hearing
  have same : appointment.parent = parent := by
    apply
      reached.eq_of_ticket_eq (submitted_of_stamp submitted) (submitted_of_stamp first)
    have followUp := congrArg Attempt.parent made.followUp
    rw [payload, asked] at followUp
    exact (Option.some.inj followUp).symm
  rw [same] at submitted
  cases reached.eq_of_stamps submitted first
  have delay := made.span_eq unjittered
  rw [payload] at delay
  rw [Instant.le_iff_nanos_le] at before due
  rw [Instant.nanos_add, delay] at due
  omega

theorem spans
    (punctual : env.Punctual)
    (reached :
      Reached env (Run.start (Flow.start settings random) outside) position run)
    (forward : Journal.Forward run.events)
    (unjittered : settings.policy.Unjittered)
    {begun instant : Instant}
    {first last : Submission Req Ctx}
    {ancestors : List (Submission Req Ctx)}
    (made : (instant, last) ∈ Journal.stamps run.events)
    (lineage : Lineage run.events last.attempt ancestors)
    (eldest : (last :: ancestors).getLast? = some first)
    (began : (begun, first) ∈ Journal.stamps run.events) :
    begun.nanos +
        ∑ number ∈ Finset.Icc 1 ancestors.length, settings.policy.span number ≤
      instant.nanos := by
  generalize shown : last.attempt = attempt at lineage
  induction lineage generalizing last instant with
  | root =>
      cases eldest
      rw [reached.eq_of_stamps began made]
      exact Nat.le_of_eq (Nat.add_zero _)
  | @next attempt judgement items ancestors parent submitted judged asked among earlier
      inductionHypothesis =>
      have lineage : Lineage run.events attempt (judgement.submission :: ancestors) :=
        .next parent submitted judged asked among earlier
      rw [← shown] at lineage parent
      have number :=
        reached.length_of_lineage lineage
          (reached.entered.submitted last (submitted_of_stamp made))
      rw [← Journal.map_snd_stamps] at submitted
      obtain ⟨⟨between, _⟩, middle, rfl⟩ := List.mem_map.mp submitted
      -- The eldest is the same for the parent, whose lineage is shorter by one.
      have before := inductionHypothesis middle eldest rfl
      have after := reached.span_le punctual forward unjittered middle made parent
      rw [← number, List.length_cons] at after
      rw [List.length_cons, Finset.sum_Icc_succ_top (Nat.le_add_left 1 _)]
      omega

/--
No retry is ever early, and fresh work is never delayed.

The delays of which a hook keeps a record are those of the appointments.
-/
theorem timely
    (punctual : env.Punctual)
    (reached :
      Reached env (Run.start (Flow.start settings random) outside) position run)
    (forward : Journal.Forward run.events) :
    Journal.Timely settings run.events ∧
      ∀ record,
        Recorded env (Run.start (Flow.start settings random) outside) position record run →
        Journal.Reports settings record.told run.events := by
  refine ⟨?_, ?_⟩
  · constructor
    case fresh => exact reached.admitsAtOnce
    case retries =>
      intro instant submission made retry
      exact reached.appointment_of_stamp punctual forward made retry
    case doubled =>
      intro unjittered appointment made
      exact made.span_eq unjittered
    case first =>
      intro unjittered instant submission made one
      have retry : submission.attempt.parent ≠ none := by
        have entered := reached.entered.submitted _ (submitted_of_stamp made)
        rcases Journal.origin_of_entered entered with
          ⟨item, _, fresh⟩ | ⟨judgement, _, asked⟩
        · rw [fresh] at one
          cases one
        · obtain ⟨_, _, _, parent, _⟩ := Judgement.mem_followUps asked
          simp [parent]
      obtain ⟨appointment, kept, payload, due⟩ :=
        reached.appointment_of_stamp punctual forward made retry
      obtain ⟨items, judged, _⟩ := kept.asked
      have delay := kept.span_eq unjittered
      rw [payload, one, Policy.span, Nat.mul_comm] at delay
      refine ⟨appointment.since, appointment.parent, appointment.response, _, judged, ?_, ?_⟩
      · rw [← payload, kept.followUp]
        rfl
      · rw [Instant.le_iff_nanos_le, Instant.nanos_add, delay] at due
        exact due
    case spans =>
      intro unjittered begun instant first last ancestors made lineage eldest began
      exact reached.spans punctual forward unjittered made lineage eldest began
  · intro record recorded observed appointment made
    obtain ⟨_, rfl⟩ := Recorded.iff_reached.mp recorded
    exact made.notice_mem observed

end Reached

/-- Options with a delay of twenty milliseconds that is doubled, but never above fifty. -/
def Settings.doubling (maxAttempts : UInt32) : Settings where
  policy := {
    Policy.exponential (Duration.ofMillis 20) with
    maxAttempts := maxAttempts
    max := Duration.ofMillis 50
  }
  parallelism := 2
  retryCapacity := 1
  observed := true
  policy_sound :=
    have sound :
        ({ Policy.exponential (Duration.ofMillis 20) with
            max := Duration.ofMillis 50 } : Policy).fault? = none := by
      decide +kernel
    sound
  parallelism_pos := Nat.zero_lt_two
  retryCapacity_pos := Nat.one_pos

/-- A countdown waits for forty milliseconds, and then for the fifty that are the most. -/
theorem Reached.timely_countdown :
    let scenario := Scenario.countdown 9 [2]
    let settings := Settings.doubling 2
    let (_, run) := Run.leapingly settings scenario 8
    ∃ record : Record Nat Nat,
      (Surroundings.leaping scenario).Punctual ∧
        Journal.Forward run.events ∧
        settings.policy.Unjittered ∧
        Journal.Timely settings run.events ∧
        Journal.Reports settings record.told run.events ∧
        record.told.map (fun notice => notice.delay.map Duration.toNanos) =
          [some 40000000, some 40000000, some 50000000, some 50000000] ∧
        (Journal.stamps run.events).map
            (fun stamp => (stamp.1.nanos, stamp.2.attempt.number.toNat)) =
          [(0, 0), (40000000, 1), (40000000, 1), (90000000, 2), (90000000, 2)] := by
  have session := Session.leapingly (Settings.doubling 2) (Scenario.countdown 9 [2]) 8
  have reached := session.reached (by decide +kernel)
  have punctual := Surroundings.punctual_leaping (Scenario.countdown 9 [2])
  have forward :
      Journal.Forward
        (Run.leapingly (Settings.doubling 2) (Scenario.countdown 9 [2]) 8).2.events := by
    decide +kernel
  obtain ⟨timely, reports⟩ := Reached.timely punctual reached forward
  exact
    ⟨_, punctual, forward, by decide +kernel, timely, reports _ reached.recorded,
      by decide +kernel⟩

end Resubmit
