import Mathlib.Order.Bounds.Basic
import Resubmit.Demo.BatchGet
import Resubmit.Proofs.Chains

namespace Resubmit.BatchGet

/-!
# Batches of keys

A table serves the first keys of a call, and the classifier asks again for the rest.  So the
calls for a batch go through its keys from the first to the last, as long as there are attempts
left, and no key is served twice.
-/

variable {σ Ctx Fault Refusal : Type}

/-! ## One call -/

/-- A call that the table has answered and of which the classifier has judged the response. -/
structure Honest
    (perCall : Nat)
    (call : Judgement Request Response Ctx Refusal) :
    Prop where
  response : call.response = serve perCall call.submission.attempt.item.request
  verdict : call.verdict = .ok (judge call.response call.submission.attempt.item.context)

namespace Honest

variable {perCall : Nat}
variable {maxAttempts : UInt32}
variable {policy : Policy}
variable {call : Judgement Request Response Ctx Refusal}

theorem served_eq (honest : Honest perCall call) :
    call.response.served = call.submission.attempt.item.request.keys.take perCall := by
  rw [honest.response]
  rfl

theorem unprocessed_eq (honest : Honest perCall call) :
    call.response.unprocessed = call.submission.attempt.item.request.keys.drop perCall := by
  rw [honest.response]
  rfl

/-- What is left is asked for again, if anything is left and may be asked for. -/
theorem followUps_eq (honest : Honest perCall call) :
    call.followUps maxAttempts =
      if call.response.unprocessed ≠ [] ∧ call.submission.attempt.number < maxAttempts then
        [Attempt.followUp
          ⟨⟨call.response.unprocessed⟩, call.submission.attempt.item.context⟩
          (call.submission.attempt.number + 1) call.submission.ticket]
      else
        [] := by
  rw [Judgement.followUps, honest.verdict, judge]
  cases call.response.unprocessed with
  | nil => simp
  | cons key rest =>
      by_cases within : call.submission.attempt.number < maxAttempts <;>
        simp [Verdict.retry, within]

theorem length_followUps_le (honest : Honest perCall call) :
    (call.followUps maxAttempts).length ≤ 1 := by
  rw [honest.followUps_eq]
  split
  · exact Nat.le_refl 1
  · exact Nat.zero_le 1

/-- A call without a follow-up gives out its response, exhausted if it leaves anything. -/
theorem outcome?_eq
    (honest : Honest perCall call)
    (emitsLast : policy.exhaustion = .emitLast) :
    (call.consequence policy : Consequence Request Response Ctx Fault Refusal).outcome? =
      if call.followUps policy.maxAttempts = [] then
        some (call.submission.outcome call.response !call.response.unprocessed.isEmpty)
      else
        none := by
  rw [honest.followUps_eq, Judgement.consequence, honest.verdict, judge]
  cases call.response.unprocessed with
  | nil => simp [Consequence.outcome?]
  | cons key rest =>
      by_cases within : call.submission.attempt.number < policy.maxAttempts <;>
        simp [Verdict.retry, Consequence.outcome?, within, emitsLast]

end Honest

/-! ## The calls for a batch -/

/-- What a chain of calls does to the keys of its first attempt. -/
structure Narrowed
    (perCall : Nat)
    (maxAttempts : UInt32)
    (attempt : Attempt Request Ctx)
    (calls : List (Judgement Request Response Ctx Refusal)) :
    Prop where
  /-- Each call carries what the calls before it have left. -/
  carried :
    ∀ index call,
      calls[index]? = some call →
      call.submission.attempt.item =
          ⟨⟨attempt.item.request.keys.drop (index * perCall)⟩, attempt.item.context⟩ ∧
        call.submission.attempt.number.toNat = attempt.number.toNat + index
  /-- Together they serve the first keys. -/
  served :
    calls.flatMap (fun call => call.response.served) =
      attempt.item.request.keys.take (calls.length * perCall)
  /-- A call that is not the last one has left something, and there was an attempt left. -/
  needed :
    ∀ index,
      index + 1 < calls.length →
      (index + 1) * perCall < attempt.item.request.keys.length ∧
        attempt.number.toNat + index < maxAttempts.toNat

/-- By induction on the chain; the rest of it starts from what its first call has left. -/
theorem Narrowed.of_chain
    {perCall : Nat}
    {maxAttempts : UInt32}
    {attempt : Attempt Request Ctx}
    {calls : List (Judgement Request Response Ctx Refusal)}
    (chain : Chain maxAttempts attempt calls)
    (honest : ∀ call ∈ calls, Honest perCall call) :
    Narrowed perCall maxAttempts attempt calls := by
  induction chain with
  | @last call final =>
      have first := honest call (List.mem_singleton_self call)
      constructor
      case carried =>
        intro index other found
        cases index with
        | zero =>
            cases found
            simp
        | succ index => cases found
      case served =>
        rw [List.flatMap_singleton, first.served_eq, List.length_singleton, Nat.one_mul]
      case needed =>
        intro index within
        simp at within
  | @next call followUp later asked rest inductionHypothesis =>
      have first := honest call List.mem_cons_self
      have narrowed := inductionHypothesis fun other member =>
        honest other (List.mem_cons_of_mem call member)
      rw [first.followUps_eq] at asked
      split at asked
      case isFalse => cases asked
      case isTrue more =>
        obtain ⟨left, within⟩ := more
        cases List.singleton_inj.mp asked
        have number := Scenario.toNat_succ within
        have below := UInt32.lt_iff_toNat_lt.mp within
        have keys := first.unprocessed_eq
        have some : perCall < call.submission.attempt.item.request.keys.length := by
          rw [keys, Ne, List.drop_eq_nil_iff] at left
          exact Nat.lt_of_not_le left
        constructor
        case carried =>
          intro index other found
          cases index with
          | zero =>
              cases found
              simp
          | succ index =>
              obtain ⟨item, count⟩ := narrowed.carried index other found
              simp only [Attempt.followUp, keys, List.drop_drop, number] at item count
              rw [item, count, Nat.succ_mul, Nat.add_comm perCall]
              exact ⟨rfl, by omega⟩
        case served =>
          rw [List.flatMap_cons, narrowed.served, List.length_cons, Nat.succ_mul,
            Nat.add_comm _ perCall, List.take_add, first.served_eq, ← keys]
          rfl
        case needed =>
          intro index shorter
          cases index with
          | zero => simpa using ⟨some, below⟩
          | succ index =>
              obtain ⟨further, allowed⟩ :=
                narrowed.needed index (Nat.lt_of_succ_lt_succ shorter)
              simp only [Attempt.followUp, keys, List.length_drop, number] at further allowed
              rw [Nat.succ_mul]
              omega

/-- Where the calls for a batch end: with everything served, or with the last attempt. -/
structure Stopped
    (perCall : Nat)
    (maxAttempts : UInt32)
    (item : WorkItem Request Ctx)
    (earlier : List (Judgement Request Response Ctx Refusal))
    (last : Judgement Request Response Ctx Refusal) :
    Prop where
  context : last.submission.attempt.item.context = item.context
  number : last.submission.attempt.number.toNat = earlier.length
  unprocessed :
    last.response.unprocessed = item.request.keys.drop ((earlier.length + 1) * perCall)
  within : earlier.length ≤ maxAttempts.toNat
  /-- If there is anything left, the attempts have run out. -/
  spent : last.response.unprocessed ≠ [] → earlier.length = maxAttempts.toNat
  /-- The calls before the last one did not get through the batch. -/
  needed :
    ∀ index, index < earlier.length → (index + 1) * perCall < item.request.keys.length

namespace Stopped

variable {perCall : Nat}
variable {maxAttempts : UInt32}
variable {item : WorkItem Request Ctx}
variable {earlier : List (Judgement Request Response Ctx Refusal)}
variable {last : Judgement Request Response Ctx Refusal}

theorem of_narrowed
    (narrowed : Narrowed perCall maxAttempts (Attempt.fresh item) (earlier ++ [last]))
    (honest : Honest perCall last)
    (final : last.followUps maxAttempts = []) :
    Stopped perCall maxAttempts item earlier last := by
  obtain ⟨carries, number⟩ := narrowed.carried earlier.length last (by simp)
  simp only [Attempt.fresh, UInt32.toNat_zero, Nat.zero_add] at carries number
  have needed (index : Nat) (shorter : index < earlier.length) :
      (index + 1) * perCall < item.request.keys.length ∧ index < maxAttempts.toNat := by
    have facts := narrowed.needed index (by simpa using shorter)
    simpa [Attempt.fresh] using facts
  have within : earlier.length ≤ maxAttempts.toNat := by
    cases count : earlier.length with
    | zero => exact Nat.zero_le _
    | succ fewer => exact (needed fewer (by omega)).2
  constructor
  case context => rw [carries]
  case number => exact number
  case unprocessed => rw [honest.unprocessed_eq, carries, List.drop_drop, Nat.succ_mul]
  case within => exact within
  case spent =>
    intro left
    refine Nat.le_antisymm within ?_
    by_contra fewer
    have allowed : last.submission.attempt.number < maxAttempts := by
      rw [UInt32.lt_iff_toNat_lt, number]
      exact Nat.lt_of_not_le fewer
    rw [honest.followUps_eq, if_pos ⟨left, allowed⟩] at final
    cases final
  case needed => exact fun index shorter => (needed index shorter).1

theorem done_iff (stopped : Stopped perCall maxAttempts item earlier last) :
    last.response.unprocessed = [] ↔
      item.request.keys.length ≤ (earlier.length + 1) * perCall := by
  rw [stopped.unprocessed, List.drop_eq_nil_iff]

/-- The calls get no further than all attempts would. -/
theorem reach_le (stopped : Stopped perCall maxAttempts item earlier last) :
    (earlier.length + 1) * perCall ≤ perCall * (maxAttempts.toNat + 1) := by
  rw [Nat.mul_comm perCall]
  exact Nat.mul_le_mul_right perCall (Nat.succ_le_succ stopped.within)

theorem reach_eq
    (stopped : Stopped perCall maxAttempts item earlier last)
    (left : last.response.unprocessed ≠ []) :
    (earlier.length + 1) * perCall = perCall * (maxAttempts.toNat + 1) := by
  rw [stopped.spent left, Nat.mul_comm]

theorem left_iff (stopped : Stopped perCall maxAttempts item earlier last) :
    last.response.unprocessed ≠ [] ↔
      perCall * (maxAttempts.toNat + 1) < item.request.keys.length := by
  constructor
  · intro left
    rw [← stopped.reach_eq left]
    exact Nat.lt_of_not_le (stopped.done_iff.not.mp left)
  · intro tooMany done
    exact absurd ((stopped.done_iff.mp done).trans stopped.reach_le) (Nat.not_le.mpr tooMany)

/-- Whether or not anything is left, the calls have served all keys that they could. -/
theorem take_reach (stopped : Stopped perCall maxAttempts item earlier last) :
    item.request.keys.take ((earlier.length + 1) * perCall) =
      item.request.keys.take (perCall * (maxAttempts.toNat + 1)) := by
  by_cases done : last.response.unprocessed = []
  · have through := stopped.done_iff.mp done
    rw [List.take_of_length_le through, List.take_of_length_le (through.trans stopped.reach_le)]
  · rw [stopped.reach_eq done]

/-- When nothing is left, no smaller number of calls would have got through the batch. -/
theorem isLeast
    (stopped : Stopped perCall maxAttempts item earlier last)
    (done : last.response.unprocessed = []) :
    IsLeast {count | 1 ≤ count ∧ item.request.keys.length ≤ count * perCall}
      (earlier.length + 1) := by
  refine ⟨⟨Nat.succ_pos _, stopped.done_iff.mp done⟩, ?_⟩
  rintro (_ | fewer) ⟨positive, through⟩
  · cases positive
  · by_contra short
    have before := stopped.needed fewer (Nat.lt_of_succ_lt_succ (Nat.lt_of_not_le short))
    exact absurd through (Nat.not_le.mpr before)

theorem toNat_attempts
    (stopped : Stopped perCall maxAttempts item earlier last)
    (below : maxAttempts.toNat + 1 < UInt32.size) :
    (last.submission.attempt.number + 1).toNat = earlier.length + 1 := by
  rw [UInt32.toNat_add, stopped.number]
  exact Nat.mod_eq_of_lt (Nat.lt_of_le_of_lt (Nat.succ_le_succ stopped.within) below)

end Stopped

/-! ## What becomes of a batch -/

/-- A batch with the calls that were made for it and the outcome that was given out. -/
structure Account (Refusal : Type) where
  table : String
  keys : List String
  /-- The calls in the order in which they were made. -/
  calls : List (Judgement Request Response String Refusal)
  outcome : Outcome Response String

/-- The batch as a piece of work. -/
def Account.item (account : Account Refusal) : WorkItem Request String :=
  ⟨⟨account.keys⟩, account.table⟩

/-- The submissions for a batch, in the order in which they were made. -/
def Account.submissions (account : Account Refusal) : List (Submission Request String) :=
  account.calls.map Judgement.submission

/--
The calls for a batch get through its keys, or as far as the attempts allow.

With `maxAttempts` resubmissions and `perCall` keys a call they can get through
`perCall * (maxAttempts + 1)` keys.
-/
structure Account.Narrows
    (perCall : Nat)
    (maxAttempts : UInt32)
    (events : List (Event Request Response String Fault Refusal))
    (account : Account Refusal) :
    Prop where
  /-- The first call was made for the batch, and each other one was asked for by the one before. -/
  chained : Chain maxAttempts (Attempt.fresh account.item) account.calls
  inOrder : account.submissions.Sublist (Journal.submissions events)
  /-- A call carries the keys without those that the calls before it could serve. -/
  carried :
    ∀ (index : Nat) (submission : Submission Request String),
      account.submissions[index]? = some submission →
      submission.attempt.item = ⟨⟨account.keys.drop (index * perCall)⟩, account.table⟩
  /-- Each of the first keys is served once, and in order. -/
  served :
    account.calls.flatMap (fun call => call.response.served) =
      account.keys.take (perCall * (maxAttempts.toNat + 1))
  context : account.outcome.context = account.table
  attempts : account.outcome.attempts.toNat = account.submissions.length
  exhausted_iff :
    account.outcome.exhausted = true ↔
      perCall * (maxAttempts.toNat + 1) < account.keys.length
  exhausted :
    account.outcome.exhausted = true →
    account.outcome.response.unprocessed =
        account.keys.drop (perCall * (maxAttempts.toNat + 1)) ∧
      account.outcome.attempts.toNat = maxAttempts.toNat + 1
  /-- Otherwise there were as many calls as it takes, and at least one. -/
  complete :
    account.outcome.exhausted = false →
    account.outcome.response.unprocessed = [] ∧
      IsLeast {count | 1 ≤ count ∧ account.keys.length ≤ count * perCall}
        account.outcome.attempts.toNat

section Batch

variable {perCall : Nat}
variable {policy : Policy}
variable {table : String}
variable {keys : List String}
variable {calls : List (Judgement Request Response String Refusal)}

/-- A chain of calls for a batch has one outcome, that of its last call. -/
theorem exists_account
    (events : List (Event Request Response String Fault Refusal))
    (chain : Chain policy.maxAttempts (Attempt.fresh ⟨⟨keys⟩, table⟩) calls)
    (honest : ∀ call ∈ calls, Honest perCall call)
    (emitsLast : policy.exhaustion = .emitLast)
    (below : policy.maxAttempts.toNat + 1 < UInt32.size)
    (inOrder : (calls.map Judgement.submission).Sublist (Journal.submissions events)) :
    ∃ outcome,
      calls.filterMap (fun call =>
          (call.consequence policy :
            Consequence Request Response String Fault Refusal).outcome?) =
        [outcome] ∧
      Account.Narrows perCall policy.maxAttempts events ⟨table, keys, calls, outcome⟩ := by
  have narrowed := Narrowed.of_chain chain honest
  obtain ⟨earlier, last, rfl, final, further⟩ := chain.exists_last
  have lastHonest := honest last (List.mem_append_right _ (List.mem_singleton_self last))
  have stopped := Stopped.of_narrowed narrowed lastHonest final
  have attempts := stopped.toNat_attempts below
  have chainLength : (earlier ++ [last]).length = earlier.length + 1 := by simp
  refine ⟨last.submission.outcome last.response !last.response.unprocessed.isEmpty, ?_, ?_⟩
  · have silent :
        earlier.filterMap (fun call =>
          (call.consequence policy :
            Consequence Request Response String Fault Refusal).outcome?) = [] := by
      refine List.filterMap_eq_nil_iff.mpr fun call member => ?_
      rw [(honest call (List.mem_append_left _ member)).outcome?_eq emitsLast,
        if_neg (further call member)]
    rw [List.filterMap_append, silent, List.filterMap_cons, lastHonest.outcome?_eq emitsLast,
      if_pos final]
    rfl
  · constructor
    case chained => exact chain
    case inOrder => exact inOrder
    case carried =>
      intro index submission found
      rw [Account.submissions, List.getElem?_map] at found
      obtain ⟨call, present, rfl⟩ := Option.map_eq_some_iff.mp found
      exact (narrowed.carried index call present).1
    case served =>
      refine narrowed.served.trans ?_
      rw [chainLength]
      exact stopped.take_reach
    case context => exact stopped.context
    case attempts =>
      rw [Account.submissions, List.length_map, chainLength]
      exact attempts
    case exhausted_iff =>
      rw [Submission.outcome, Bool.not_eq_true', List.isEmpty_eq_false_iff]
      exact stopped.left_iff
    case exhausted =>
      intro exhausted
      rw [Submission.outcome, Bool.not_eq_true', List.isEmpty_eq_false_iff] at exhausted
      refine ⟨?_, ?_⟩
      · rw [← stopped.reach_eq exhausted]
        exact stopped.unprocessed
      · rw [← stopped.spent exhausted]
        exact attempts
    case complete =>
      intro complete
      rw [Submission.outcome, Bool.not_eq_false', List.isEmpty_iff] at complete
      refine ⟨complete, ?_⟩
      rw [Submission.outcome, attempts]
      exact stopped.isLeast complete

/-- One account for each batch, by induction on the batches. -/
theorem exists_accounts
    (events : List (Event Request Response String Fault Refusal))
    {batches : List (String × List String)}
    {chains : List (List (Judgement Request Response String Refusal))}
    (chained :
      List.Forall₂ (Chain policy.maxAttempts) ((workItems batches).map Attempt.fresh) chains)
    (honest : ∀ calls ∈ chains, ∀ call ∈ calls, Honest perCall call)
    (emitsLast : policy.exhaustion = .emitLast)
    (below : policy.maxAttempts.toNat + 1 < UInt32.size)
    (inOrder :
      ∀ calls ∈ chains,
        (calls.map Judgement.submission).Sublist (Journal.submissions events)) :
    ∃ accounts : List (Account Refusal),
      (accounts.map fun account => (account.table, account.keys)) = batches ∧
        accounts.map Account.calls = chains ∧
        (chains.flatten.filterMap fun call =>
            (call.consequence policy :
              Consequence Request Response String Fault Refusal).outcome?) =
          accounts.map Account.outcome ∧
        ∀ account ∈ accounts, account.Narrows perCall policy.maxAttempts events := by
  induction batches generalizing chains with
  | nil =>
      cases chained
      exact ⟨[], rfl, rfl, rfl, List.forall_mem_nil _⟩
  | cons batch rest inductionHypothesis =>
      cases chained with
      | @cons _ calls _ others chain chained =>
          obtain ⟨honestCalls, honestOthers⟩ := List.forall_mem_cons.mp honest
          obtain ⟨orderedCalls, orderedOthers⟩ := List.forall_mem_cons.mp inOrder
          obtain ⟨outcome, given, narrows⟩ :=
            exists_account events chain honestCalls emitsLast below orderedCalls
          obtain ⟨accounts, same, theirs, outcomes, all⟩ :=
            inductionHypothesis chained honestOthers orderedOthers
          refine ⟨⟨batch.1, batch.2, calls, outcome⟩ :: accounts, ?_, ?_, ?_, ?_⟩
          · rw [List.map_cons, same]
          · rw [List.map_cons, theirs]
          · rw [List.flatten_cons, List.filterMap_append, given, outcomes]
            rfl
          · exact List.forall_mem_cons.mpr ⟨narrows, all⟩

end Batch

/--
A flow over batches fetches every key once, or as many as the attempts allow.

There is an account for each batch, the calls of the accounts are all calls that were made, and
their outcomes are all that was given out.
-/
theorem narrows
    {env : Surroundings σ Request Response String Fault Refusal}
    {settings : Settings}
    {random : ChaCha12}
    {outside : σ}
    {replies : List (Reply Response String Fault Refusal)}
    {run : Run σ Request Response String Fault Refusal}
    {perCall : Nat}
    {batches : List (String × List String)}
    (emitsLast : settings.policy.exhaustion = .emitLast)
    (below : settings.policy.maxAttempts.toNat + 1 < UInt32.size)
    (session : Session env (Run.start (Flow.start settings random) outside) replies run)
    (sound : Session.Sound replies)
    (uncancelled : .cancelled ∉ replies)
    (ended : run.flow.terminated = true)
    (played :
      (Scenario.unfailing (workItems batches) (serve perCall) judge :
        Scenario Request Response String Fault Refusal).Played run.events) :
    ∃ accounts : List (Account Refusal),
      (accounts.map fun account => (account.table, account.keys)) = batches ∧
        (accounts.flatMap Account.submissions).Perm (Journal.submissions run.events) ∧
        (∃ outcomes : List (Outcome Response String),
          Session.items replies = outcomes.map .ok ∧
            outcomes.Perm (accounts.map Account.outcome)) ∧
        ∀ account ∈ accounts,
          account.Narrows perCall settings.policy.maxAttempts run.events := by
  have kept := played.kept_of_unfailing session sound uncancelled ended emitsLast
  have pulled := played.pulled_eq session ended kept
  have honest : ∀ call ∈ Journal.judgements run.events, Honest perCall call := by
    intro call member
    obtain ⟨answered, judged⟩ :=
      played.rules (session.reached sound) (.judged call) (Journal.mem_judgements.mp member)
    exact ⟨(Except.ok.inj answered).symm, judged.symm⟩
  obtain ⟨chains, chained, whole, inOrder⟩ :=
    session.exists_chains sound ended kept fun call member =>
      (honest call member).length_followUps_le
  rw [pulled] at chained
  obtain ⟨accounts, theBatches, theChains, theOutcomes, all⟩ :=
    exists_accounts run.events chained
      (fun calls member call among =>
        honest call (whole.mem_iff.mp (List.mem_flatten.mpr ⟨calls, member, among⟩)))
      emitsLast below inOrder
  refine ⟨accounts, theBatches, ?_, ⟨_, session.items_of_judgements sound kept, ?_⟩, all⟩
  · have submissions :
        accounts.flatMap Account.submissions = chains.flatten.map Judgement.submission := by
      rw [← theChains, List.map_flatten, List.map_map]
      rfl
    rw [submissions]
    exact (whole.map _).trans (session.judged_all sound ended kept).2
  · rw [← theOutcomes]
    exact (whole.filterMap _).symm

/-- With one resubmission and two keys a call, the fifth key of a batch is not fetched. -/
theorem narrows_demonstration :
    let scenario : Scenario Request Response String Unit Unit :=
      .unfailing (workItems batches) (serve 2) judge
    let settings := Settings.undelayed 1 .emitLast
    let (replies, run) := Run.promptly settings scenario 9
    (∃ accounts : List (Account Unit),
      (accounts.map fun account => (account.table, account.keys)) = batches ∧
        (accounts.flatMap Account.submissions).Perm (Journal.submissions run.events) ∧
        (∃ outcomes : List (Outcome Response String),
          Session.items replies = outcomes.map .ok ∧
            outcomes.Perm (accounts.map Account.outcome)) ∧
        ∀ account ∈ accounts, account.Narrows 2 1 run.events) ∧
      (Session.items replies).map (fun item => item.toOption.map fun outcome =>
          (outcome.context, outcome.attempts, outcome.response.unprocessed)) =
        [some ("users", 2, ["ken"]), some ("orders", 2, []), some ("carts", 1, [])] := by
  intro scenario settings
  have session := Session.promptly settings scenario 9
  have uncancelled := Session.uncancelled_promptly settings scenario 9
  have sound : Session.Sound (Run.promptly settings scenario 9).1 := by
    decide +kernel
  have played : scenario.Played (Run.promptly settings scenario 9).2.events :=
    .of_abides (Scenario.abides_prompt scenario) (session.reached sound) (by decide +kernel)
      fun _ _ => by decide +kernel
  have below : settings.policy.maxAttempts.toNat + 1 < UInt32.size := by
    decide
  exact
    ⟨narrows rfl below session sound uncancelled (by decide +kernel) played, by decide +kernel⟩

end Resubmit.BatchGet
