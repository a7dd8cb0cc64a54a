import RfidBridge.Delivery.DeliveryRuns

/-!
When the next attempt of an event begins. A selection takes only retries that are due, and
a start checks only that its event is in the state of the selection. The delay is respected
in runs where no other worker opened an attempt of the event in between.
-/

namespace RfidBridge
open Database

/-- The delay behind the attempt of this number, in microseconds. -/
def retryDelay (initial maximum : Int) (attemptNumber : Nat) : Nat :=
  (min (initial * 2 ^ (attemptNumber - 1)) maximum).toNat * 1000000

/-- The second attempt begins when the first one has waited for its delay. -/
def Waits (initial maximum : Int) (a b : DeliveryAttempt) : Prop :=
  ∃ done next, a.completedAt = some done ∧ a.nextRetryAt = some next ∧
    next = done + retryDelay initial maximum a.attemptNumber ∧ next ≤ b.attemptedAt

structure BackedOff (initial maximum : Int) (db : Database) : Prop where
  scheduled : ∀ a ∈ db.attempts.rows, a.outcome = .retry → ∃ done, a.completedAt = some done ∧
    a.nextRetryAt = some (done + retryDelay initial maximum a.attemptNumber)
  waits : ∀ a ∈ db.attempts.rows, ∀ b ∈ db.attempts.rows, b.eventId = a.eventId →
    b.attemptNumber = a.attemptNumber + 1 → Waits initial maximum a b

/-- In RETRY or DEAD, so that nobody but a start touches its attempts. -/
def Parked (db : Database) (eventId : Nat) : Prop :=
  ∃ e ∈ db.events.rows, e.id = eventId ∧ (e.queueState = .retry ∨ e.queueState = .dead)

/-- A parked event whose last attempt has waited for its delay. -/
structure Due (db : Database) (now : Timestamp) (eventId : Nat) : Prop where
  parked : Parked db eventId
  waited : ∀ a ∈ (db.attemptsOf eventId).getLast?, ∃ next, a.nextRetryAt = some next ∧ next ≤ now

section
variable {initial maximum : Int} {db db' : Database} {now : Timestamp} {eventId : Nat}

/-- The schedule of a completion in RETRY. -/
theorem retry_scheduled {attemptNumber : Nat} {next : Option Timestamp}
    (positive : 1 ≤ attemptNumber)
    (h : nextRetryAt .retry attemptNumber now (some initial) (some maximum) = .ok next) :
    next = some (now + retryDelay initial maximum attemptNumber) := by
  have number : ((attemptNumber : Int) - 1).toNat = attemptNumber - 1 := by omega
  simp only [nextRetryAt, calculateRetryDelaySeconds, addSeconds, bind_eq_ok, guard_eq_ok,
    Except.ok.injEq, number] at h
  obtain ⟨_, ⟨-, -, -, rfl⟩, _, ⟨-, -, rfl⟩, rfl⟩ := h
  rfl

theorem backedOff_opened {e : RawRFIDEvent} (ledger : StoreLedger db) (member : e ∈ db.events.rows)
    (waited : ∀ a ∈ (db.attemptsOf e.id).getLast?, a.outcome = .retry ∧
      ∃ next, a.nextRetryAt = some next ∧ next ≤ now)
    (inv : BackedOff initial maximum db) :
    BackedOff initial maximum (db.openAttempt e.id now) := by
  have number := nextAttemptNumber_eq ledger member
  have rows : ∀ a ∈ (db.openAttempt e.id now).attempts.rows,
      a ∈ db.attempts.rows ∨ a = openedAttempt db e.id now :=
    fun a ha => (mem_insertAttempt _ _ _ _ a).mp ha
  refine ⟨?_, ?_⟩
  · intro a ha retry
    rcases rows a ha with old | rfl
    · exact inv.scheduled a old retry
    · cases retry
  · intro a ha b hb same following
    rcases rows a ha with oldA | rfl
    · rcases rows b hb with oldB | rfl
      · exact inv.waits a oldA b oldB same following
      · -- the attempt in front of the new one is the last one so far
        have mine : a ∈ db.attemptsOf e.id := mem_attemptsOf.mpr ⟨oldA, same.symm⟩
        have before : nextAttemptNumber db e.id = a.attemptNumber + 1 := following
        have last := (ledger.ledger e member).getLast?_of_number mine (by omega)
        obtain ⟨retry, next, scheduled, due⟩ := waited a last
        obtain ⟨done, completed, delayed⟩ := inv.scheduled a oldA retry
        rw [scheduled] at delayed
        exact ⟨done, next, completed, scheduled, Option.some.inj delayed, due⟩
    · have above : b.attemptNumber = nextAttemptNumber db e.id + 1 := following
      rcases rows b hb with oldB | rfl
      · have mine : b ∈ db.attemptsOf e.id := mem_attemptsOf.mpr ⟨oldB, same⟩
        have le := (ledger.ledger e member).number_le mine
        omega
      · exact absurd above (Nat.ne_of_lt (Nat.lt_succ_self _))

theorem backedOff_completed {utf8 : Utf8} {attemptId : Nat} {outcome : Outcome}
    {responseCode errorKind detail : String} {answer : DeliveryAttemptCompletionResult}
    (ledger : StoreLedger db)
    (ran : completeDeliveryAttempt utf8 eventId attemptId outcome responseCode errorKind detail
      (some initial) (some maximum) now db = .ok (answer, db'))
    (inv : BackedOff initial maximum db) : BackedOff initial maximum db' := by
  obtain ⟨e, member, x, memberX, target, next, rfl, -, rfl, mine, started, -, scheduled, -, rfl⟩ :=
    completeDeliveryAttempt_eq_ok ran
  have run := ledger.ledger e member
  have listed : x ∈ db.attemptsOf e.id := mem_attemptsOf.mpr ⟨memberX, mine⟩
  obtain ⟨front, split, -⟩ := ledger.last_of_started member listed started
  have number := run.number_of_getLast? (a := x) (by rw [split, List.getLast?_concat])
  have positive : 1 ≤ x.attemptNumber := number ▸ List.length_pos_of_mem listed
  let closed := closeAttempt outcome (keptText (some 64) responseCode)
    (keptText (some 128) errorKind) detail now next
  have rows : ∀ a ∈ (db.attempts.update x.id closed fun _ => rfl).rows,
      a ∈ db.attempts.rows ∨ a = closed x := by
    intro a ha
    rcases (Table.mem_update db.attempts x.id closed (fun _ => rfl) a).mp ha with
      ⟨old, -⟩ | ⟨old, there, same, rfl⟩
    · exact .inl old
    · exact .inr (congrArg closed (db.attempts.eq_of_key_eq there memberX same))
  refine ⟨?_, ?_⟩
  · intro a ha retry
    rcases rows a ha with old | rfl
    · exact inv.scheduled a old retry
    · change outcome = .retry at retry
      subst retry
      exact ⟨now, rfl, retry_scheduled positive scheduled⟩
  · intro a ha b hb same following
    rcases rows a ha with oldA | rfl
    · rcases rows b hb with oldB | rfl
      · exact inv.waits a oldA b oldB same following
      · exact inv.waits a oldA x memberX same following
    · -- nothing follows the attempt that was just closed
      have above : b.attemptNumber = x.attemptNumber + 1 := following
      rcases rows b hb with oldB | rfl
      · have theirs : b ∈ db.attemptsOf e.id := mem_attemptsOf.mpr ⟨oldB, same.trans mine⟩
        have le := run.number_le theirs
        omega
      · exact absurd above (Nat.ne_of_lt (Nat.lt_succ_self _))

/-- A parked event stays parked, and its attempts as they were. -/
structure StaysParked (eventId : Nat) (db db' : Database) : Prop where
  parked : Parked db eventId → Parked db' eventId
  attempts : Parked db eventId → db'.attemptsOf eventId = db.attemptsOf eventId

theorem StaysParked.refl (db : Database) : StaysParked eventId db db := ⟨id, fun _ => rfl⟩

theorem StaysParked.trans {db'' : Database} (first : StaysParked eventId db db')
    (second : StaysParked eventId db' db'') : StaysParked eventId db db'' where
  parked h := second.parked (first.parked h)
  attempts h := (second.attempts (first.parked h)).trans (first.attempts h)

/-- What leaves other events alone leaves a parked one alone. -/
theorem StaysParked.of_untouched {other : Nat} (untouched : OthersUntouched other db db')
    (apart : Parked db eventId → eventId ≠ other) : StaysParked eventId db db' where
  parked h := by
    obtain ⟨e, member, same, state⟩ := h
    have elsewhere : e.id ≠ other := same ▸ apart ⟨e, member, same, state⟩
    exact ⟨e, (untouched.rows e elsewhere).mpr member, same, state⟩
  attempts h := untouched.attempts eventId (apart h)

/-- An event in another state is not the parked one. -/
theorem Parked.ne_of_state {e : RawRFIDEvent} (h : Parked db eventId) (member : e ∈ db.events.rows)
    (moving : ¬ (e.queueState = .retry ∨ e.queueState = .dead)) : eventId ≠ e.id := by
  obtain ⟨e', member', same, state⟩ := h
  rintro rfl
  rw [db.events.eq_of_key_eq member' member same] at state
  exact moving state

theorem Edit.staysParked {scope : EditScope} (h : Edit scope db db') :
    StaysParked eventId db db' := by
  cases h with
  | openSession | finishSession => exact ⟨id, fun _ => rfl⟩
  | addEvent row keyed =>
      refine ⟨?_, fun _ => rfl⟩
      rintro ⟨e, member, same, state⟩
      exact ⟨e, (Table.mem_insert _ _ keyed _).mpr (.inl member), same, state⟩
  | assignEvent event session member unassigned =>
      have untouched : OthersUntouched event.id db
          { db with events := db.events.update event.id fun e =>
            { e with rfidSessionId := some session.id, queueState := .queued } } :=
        ⟨fun e other => db.events.mem_update_of_ne other, fun _ _ => rfl⟩
      exact .of_untouched untouched fun parked => parked.ne_of_state member (by simp [unassigned])
  | completeAttempt event attempt outcome target responseCode errorKind detail now next member
      inflight memberAttempt mine =>
      exact .of_untouched (othersUntouched_closeAttempt memberAttempt mine target _ _ _ _ _ _)
        fun parked => parked.ne_of_state member (by simp [inflight])
  | deadLetter event member waiting =>
      refine ⟨?_, fun _ => rfl⟩
      rintro ⟨e, there, same, state⟩
      by_cases here : e.id = event.id
      · have dead := (mem_setQueueState db event.id .dead _).mpr (.inr ⟨e, there, here, rfl⟩)
        exact ⟨_, dead, same, .inr rfl⟩
      · exact ⟨e, (mem_setQueueState db event.id .dead e).mpr (.inl ⟨there, here⟩), same, state⟩

theorem Edit.attempts_eq {scope : EditScope} (outside : ∀ e a o, ¬ scope.closes e a o)
    (h : Edit scope db db') : db'.attempts = db.attempts := by
  cases h with
  | completeAttempt event attempt outcome target responseCode errorKind detail now next member
      inflight memberAttempt mine started hasTarget scheduled may =>
      exact absurd may (outside _ _ _)
  | _ => rfl

/-- Only a delivery touches attempts. -/
theorem attempts_run {sha : Sha256} {op : StoreOp} {answer : op.Answer} (issued : op.Issued)
    (opens : op.opensAttempt = false) (closes : op.closesAttempt = false)
    (ran : op.run sha now db = .ok (answer, db')) : db'.attempts = db.attempts := by
  have outside : ∀ e a o, ¬ op.scope.closes e a o := by
    intro e a o
    cases op <;> first | exact id | cases closes
  have edits := op.run_edits issued opens ran
  clear ran
  induction edits with
  | refl => rfl
  | tail _ edit ih => exact (edit.attempts_eq outside).trans ih

/-- The events that an operation opens an attempt on. -/
def CycleOp.opens (eventId : Nat) : (op : CycleOp) → Except PyException op.Answer → Bool
  | .store (.startDeliveryAttempt id _ _), .ok _ => id == eventId
  | _, _ => false

theorem staysParked_run {sha : Sha256} {op : StoreOp} {answer : op.Answer} (issued : op.Issued)
    (elsewhere : CycleOp.opens eventId (.store op) (.ok answer) = false)
    (ran : op.run sha now db = .ok (answer, db')) : StaysParked eventId db db' := by
  by_cases quiet : op.opensAttempt = false
  · have edits := op.run_edits issued quiet ran
    clear ran
    induction edits with
    | refl => exact .refl db
    | tail _ edit ih => exact ih.trans edit.staysParked
  · cases op with
    | startDeliveryAttempt id _ _ =>
        obtain ⟨-, -, -, -, rfl⟩ := startDeliveryAttempt_eq_ok ran
        have other : id ≠ eventId := by simpa [CycleOp.opens] using elsewhere
        exact .of_untouched (othersUntouched_openAttempt id now) fun _ => other.symm
    | _ => exact absurd rfl quiet

theorem Due.run {sha : Sha256} {later : Timestamp} {op : StoreOp} {answer : op.Answer}
    (issued : op.Issued) (elsewhere : CycleOp.opens eventId (.store op) (.ok answer) = false)
    (ran : op.run sha later db = .ok (answer, db')) (after : now ≤ later) (h : Due db now eventId) :
    Due db' later eventId := by
  have stays := staysParked_run issued elsewhere ran
  refine ⟨stays.parked h.parked, ?_⟩
  rw [stays.attempts h.parked]
  intro a last
  obtain ⟨next, scheduled, due⟩ := h.waited a last
  exact ⟨next, scheduled, due.trans after⟩

/-- The selection takes only retries that are due. -/
theorem due_of_select {readerCode : String} {batchSize : Nat} {c : Candidate}
    (ledger : StoreLedger db) (chosen : c ∈ db.selectCandidates readerCode batchSize now)
    (retry : c.event.queueState = .retry) : Due db now c.event.id := by
  obtain ⟨member, -, queued | ⟨-, due⟩⟩ := mem_selectCandidates chosen
  · rw [retry] at queued
    cases queued
  · refine ⟨⟨c.event, member, rfl, .inl retry⟩, ?_⟩
    intro a last
    rw [retryIsDue, latestAttempt, (ledger.ledger c.event member).argmax_number, last] at due
    simp only [Option.any_some, Bool.and_eq_true, Option.any_eq_true, decide_eq_true_eq] at due
    exact due.2

end

/-- The operation is a selection that returned. -/
def CycleOp.selects : (op : CycleOp) → Except PyException op.Answer → Bool
  | .store (.selectCandidates ..), .ok _ => true
  | _, _ => false

/-- Somebody opened an attempt of the event since the worker last selected its candidates. -/
def startedSince (worker eventId : Nat) : List CycleEntry → Bool
  | [] => false
  | entry :: log =>
      if entry.worker = worker ∧ entry.op.selects entry.answer = true then false
      else entry.op.opens eventId entry.answer || startedSince worker eventId log

/-- A start that expects RETRY is the first one of the event since its worker's selection. -/
def CycleOp.BeginsFreshly (worker : Nat) (log : List CycleEntry) :
    (op : CycleOp) → Except PyException op.Answer → Prop
  | .store (.startDeliveryAttempt eventId .retry _), .ok _ =>
      startedSince worker eventId log = false
  | _, _ => True

def BeginsFreshly (s s' : SharedStore) : Prop :=
  ∀ entry, s'.log = entry :: s.log → entry.op.BeginsFreshly entry.worker s.log entry.answer

/-- The retries that the workers hold are due unless somebody was faster. -/
structure BackoffRun (initial maximum : Int) (s : SharedStore) : Prop where
  ledger : StoreLedger s.db
  backedOff : BackedOff initial maximum s.db
  held : ∀ worker, ∀ c ∈ (progress worker s.log).held, c.event.queueState = .retry →
    startedSince worker c.event.id s.log = false → Due s.db s.clock c.event.id

/-- All workers share their retry settings. -/
abbrev RetrySettings (initial maximum : Int) (settings : DeliverySettings) : Prop :=
  settings.retryInitialSeconds = initial ∧ settings.retryMaxSeconds = maximum

section
variable {sha : Sha256} {initial maximum : Int} {worker : Nat} {s s' : SharedStore} {op : CycleOp}
  {answer : Except PyException op.Answer}

theorem eq_of_selects (h : op.selects answer = true) : ∃ readerCode batchSize candidates,
    (⟨op, answer⟩ : (op : CycleOp) × Except PyException op.Answer) =
      ⟨.store (.selectCandidates readerCode batchSize), .ok candidates⟩ := by
  unfold CycleOp.selects at h
  split at h
  · exact ⟨_, _, _, rfl⟩
  · cases h

theorem held_backoff (step : CycleExec sha worker op s answer s')
    (lawful : op.Lawful (RetrySettings initial maximum) (progress worker s.log))
    (inv : BackoffRun initial maximum s) (worker' : Nat) (c : Candidate)
    (held : c ∈ (progress worker' s'.log).held) (retry : c.event.queueState = .retry)
    (fresh : startedSince worker' c.event.id s'.log = false) : Due s'.db s'.clock c.event.id := by
  rw [step.logged] at held fresh
  rw [startedSince] at fresh
  split at fresh
  · -- the worker has just selected the candidate itself
    rename_i mine
    obtain ⟨rfl, selected⟩ : worker = worker' ∧ op.selects answer = true := mine
    obtain ⟨readerCode, batchSize, candidates, same⟩ := eq_of_selects selected
    cases same
    rw [progress, if_pos rfl] at held
    cases step with
    | committed later ran =>
        obtain ⟨rfl, rfl⟩ := run_selectCandidates ran
        exact due_of_select inv.ledger held retry
  · rename_i notSelected
    obtain ⟨elsewhere, before⟩ := Bool.or_eq_false_iff.mp fresh
    obtain old | ⟨_, _, _, same, -⟩ := mem_held_cons held
    · have due := inv.held worker' c old retry before
      cases step with
      | rolledBack | replied => exact due
      | committed later ran => exact due.run (issued_of_lawful lawful) elsewhere ran later
    · cases same
      exact absurd ⟨rfl, rfl⟩ notSelected

theorem BackedOff.congr {db db' : Database} (same : db'.attempts = db.attempts)
    (h : BackedOff initial maximum db) : BackedOff initial maximum db' := by
  refine ⟨?_, ?_⟩
  · rw [same]
    exact h.scheduled
  · rw [same]
    exact h.waits

theorem backedOff_step (step : CycleExec sha worker op s answer s') (met : BeginsFreshly s s')
    (lawful : op.Lawful (RetrySettings initial maximum) (progress worker s.log))
    (inv : BackoffRun initial maximum s) : BackedOff initial maximum s'.db := by
  have fresh := met _ step.logged
  cases step with
  | rolledBack | replied => exact inv.backedOff
  | @committed _ op _ now answer db' later ran =>
      cases op with
      | startDeliveryAttempt eventId expectedState limit =>
          obtain ⟨-, c, held, rfl, expected⟩ := lawful
          obtain ⟨⟨e, member, same, rfl, waiting⟩, -, -, -, rfl⟩ := startDeliveryAttempt_eq_ok ran
          have ledger := eventLedger_of_ledger (inv.ledger.ledger e member)
          rw [← same]
          refine backedOff_opened inv.ledger member ?_ inv.backedOff
          intro a last
          cases waiting with
          | inl queued =>
              rw [ledger.fresh (.inr queued)] at last
              cases last
          | inr retry =>
              obtain ⟨a', last', outcome, -⟩ := ledger.retry retry
              cases Option.mem_unique last last'
              rw [retry] at fresh expected
              have due := inv.held worker c held expected fresh
              obtain ⟨next, scheduled, past⟩ := due.waited a (same ▸ last)
              exact ⟨outcome, next, scheduled, past.trans later⟩
      | completeDeliveryAttempt =>
          obtain ⟨-, settings, ⟨rfl, rfl⟩, rfl, rfl⟩ := lawful
          exact backedOff_completed inv.ledger ran inv.backedOff
      | _ => exact inv.backedOff.congr (attempts_run (issued_of_lawful lawful) rfl rfl ran)

theorem ledger_backoff (step : CycleExec sha worker op s answer s')
    (lawful : op.Lawful (RetrySettings initial maximum) (progress worker s.log))
    (ledger : StoreLedger s.db) : StoreLedger s'.db := by
  cases step with
  | rolledBack | replied => exact ledger
  | committed later ran => exact ledger.run (issued_of_lawful lawful) ran

end

/-- In runs where every retry is begun by the first worker that begins it after selecting
it, each attempt waits until its predecessor asks for it. -/
theorem attempts_back_off (sha : Sha256) {initial maximum : Int} {c c' : CyclePool}
    (init : CyclePool.Initial c) (fresh : FreshStore c.state.db)
    (run : CycleSteps sha (RetrySettings initial maximum) BeginsFreshly c c') :
    ∀ a ∈ c'.state.db.attempts.rows, ∀ b ∈ c'.state.db.attempts.rows, b.eventId = a.eventId →
      b.attemptNumber = a.attemptNumber + 1 → Waits initial maximum a b := by
  have start : BackoffRun initial maximum c.state := by
    refine ⟨.of_fresh fresh.noAttempts fresh.unassigned, ⟨?_, ?_⟩, ?_⟩
    · simp [fresh.noAttempts]
    · simp [fresh.noAttempts]
    · intro worker candidate held
      rw [init.log] at held
      cases held
  have inv : BackoffRun initial maximum c'.state := by
    refine invariant_cycleSteps ?_ init run start
    intro worker op s answer s' step met lawful inv
    exact ⟨ledger_backoff step lawful inv.ledger, backedOff_step step met lawful inv,
      held_backoff step lawful inv⟩
  exact inv.backedOff.waits

namespace OneTag

/-- Two workers deliver to an Odoo that refuses every request, and a third one puts the tag
into its session. -/
def refusing (admits : Nat → CycleOp → SharedStore → Bool) : CycleSchedule where
  sha
  duration := 10000000
  reply _ := reply [("ok", .bool false)]
  admits
  next
    | 0 | 1 => deliveryWorker (settings 30 3600)
    | _ => (cycleStore (.assignEventToActiveSession 1)).handle fun _ => .ret ()

theorem offered_refusing (admits : Nat → CycleOp → SharedStore → Bool) (worker : Nat) :
    WorkerBody (RetrySettings 30 3600) ((refusing admits).next worker) := by
  cases worker with
  | zero => exact .cycle ⟨rfl, rfl⟩
  | succ worker =>
      cases worker with
      | zero => exact .cycle ⟨rfl, rfl⟩
      | succ _ => exact .service rfl

def onlyFresh (worker : Nat) : CycleOp → SharedStore → Bool
  | .store (.startDeliveryAttempt eventId .retry _), s => !startedSince worker eventId s.log
  | _, _ => true

theorem beginsFreshly_onlyFresh {worker : Nat} {op : CycleOp} {s s' : SharedStore}
    {answer : Except PyException op.Answer} (admitted : onlyFresh worker op s = true)
    (step : CycleExec sha worker op s answer s') : BeginsFreshly s s' := by
  intro entry made
  have same := made.symm.trans step.logged
  cases same
  cases op with
  | send => trivial
  | store op =>
      cases op with
      | startDeliveryAttempt eventId expectedState limit =>
          cases answer with
          | error => cases expectedState <;> trivial
          | ok =>
              cases expectedState with
              | retry =>
                  have first : (!startedSince worker eventId s.log) = true := admitted
                  show startedSince worker eventId s.log = false
                  simpa using first
              | _ => trivial
      | _ => trivial

end OneTag

open OneTag in
/-- One worker tries twice, and the second time it has waited for thirty seconds. -/
theorem attempts_back_off_twice : ∃ c' : CyclePool,
    ∃ a ∈ c'.state.db.attempts.rows, ∃ b ∈ c'.state.db.attempts.rows, b.eventId = a.eventId ∧
      b.attemptNumber = a.attemptNumber + 1 ∧ Waits 30 3600 a b := by
  let schedule := refusing onlyFresh
  have seen : ((schedule.follow ([2, 2] ++ List.replicate 7 0 ++ List.replicate 5 0)
      (.before freshStore)).map fun c' =>
        decide (∃ a ∈ c'.state.db.attempts.rows, ∃ b ∈ c'.state.db.attempts.rows,
          b.eventId = a.eventId ∧ b.attemptNumber = a.attemptNumber + 1)) = some true := by
    decide +kernel
  obtain ⟨c', ran, same⟩ := Option.map_eq_some_iff.mp seen
  obtain ⟨a, ha, b, hb, event, following⟩ := of_decide_eq_true same
  have met : ∀ worker op s answer s', schedule.admits worker op s = true →
      CycleExec schedule.sha worker op s answer s' → BeginsFreshly s s' :=
    fun _ _ _ _ _ admitted step => beginsFreshly_onlyFresh admitted step
  refine ⟨c', a, ha, b, hb, event, following, ?_⟩
  exact attempts_back_off _ (CyclePool.initial_before freshStore) freshStore_fresh
    (CycleSchedule.steps_of_follow met (offered_refusing _) ran) a ha b hb event following

open OneTag in
/-- Two workers select the same due retry; the first one fails, and the second one begins
the next attempt ten seconds later. -/
theorem attempt_before_retry_time : ∃ c c' : CyclePool, CyclePool.Initial c ∧
    FreshStore c.state.db ∧ CycleSteps sha (RetrySettings 30 3600) (fun _ _ => True) c c' ∧
    ∃ a ∈ c'.state.db.attempts.rows, ∃ b ∈ c'.state.db.attempts.rows, b.eventId = a.eventId ∧
      b.attemptNumber = a.attemptNumber + 1 ∧
      a.nextRetryAt.any (fun next => b.attemptedAt < next) = true := by
  let schedule := refusing fun _ _ _ => true
  have seen : ((schedule.follow ([2, 2] ++ List.replicate 7 0 ++ List.replicate 4 0 ++
      List.replicate 7 1 ++ [0]) (.before freshStore)).map fun c' =>
        decide (∃ a ∈ c'.state.db.attempts.rows, ∃ b ∈ c'.state.db.attempts.rows,
          b.eventId = a.eventId ∧ b.attemptNumber = a.attemptNumber + 1 ∧
          a.nextRetryAt.any (fun next => b.attemptedAt < next) = true)) = some true := by
    decide +kernel
  obtain ⟨c', ran, same⟩ := Option.map_eq_some_iff.mp seen
  have met : ∀ worker op s answer s', schedule.admits worker op s = true →
      CycleExec schedule.sha worker op s answer s' → True := fun _ _ _ _ _ _ _ => trivial
  exact ⟨_, c', CyclePool.initial_before freshStore, freshStore_fresh,
    CycleSchedule.steps_of_follow met (offered_refusing _) ran, of_decide_eq_true same⟩

end RfidBridge
