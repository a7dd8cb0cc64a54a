import RfidBridge.Delivery.RetryBackoff

/-!
What killed workers leave behind. When nobody executes, an event that is not finished waits
for a selection, or its attempt was opened and its delivery cut off; no selection and no
dead-letter pass looks at the second kind.
-/

namespace RfidBridge
open Database

/-- The request of an attempt was cut off, or the transaction that closes it has failed. -/
def CycleEntry.Abandons (eventId attemptId : Nat) : CycleEntry → Prop
  | ⟨_, .send attempt candidate, .error exc⟩ =>
      candidate.event.id = eventId ∧ attempt = attemptId ∧ exc.isException = false
  | ⟨_, .store (.completeDeliveryAttempt event attempt ..), .error _⟩ =>
      event = eventId ∧ attempt = attemptId
  | _ => False

/-- An unfinished event that later selections pick up. -/
structure AwaitsSelection (db : Database) (readerCode : String) (e : RawRFIDEvent) : Prop where
  waiting : e.queueState = .queued ∨ e.queueState = .retry ∧
    ∃ a ∈ (db.attemptsOf e.id).getLast?, a.nextRetryAt.isSome
  selected : ∃ soon size, ∀ now batchSize, soon ≤ now → size ≤ batchSize →
    ∃ c ∈ db.selectCandidates readerCode batchSize now, c.event = e

/-- An event whose last attempt was opened, and whose delivery ended there. -/
structure LeftInflight (db : Database) (log : List CycleEntry) (e : RawRFIDEvent) : Prop where
  inflight : e.queueState = .inflight
  abandoned : ∃ a ∈ (db.attemptsOf e.id).getLast?, a.outcome = .started ∧
    ∃ entry ∈ log, entry.Abandons e.id a.id

/-- Nothing has been assigned or delivered yet. -/
structure UntouchedStore (db : Database) : Prop extends FreshStore db where
  unowned : ∀ e ∈ db.events.rows, e.rfidSessionId = none

/-- An open attempt is being delivered, or its delivery was cut off. -/
structure AccountedAttempts (s : SharedStore) : Prop where
  ledger : StoreLedger s.db
  unowned : ∀ e ∈ s.db.events.rows, e.queueState = .unassigned → e.rfidSessionId = none
  attempts : ∀ a ∈ s.db.attempts.rows, a.outcome = .started →
    (∃ worker, (progress worker s.log).attempt = some (a.eventId, a.id)) ∨
      ∃ entry ∈ s.log, entry.Abandons a.eventId a.id

section
variable {db db' : Database} {now : Timestamp}

/-- Only unassigned events have no session. -/
theorem Edit.unowned {scope : EditScope} (h : Edit scope db db')
    (inv : ∀ e ∈ db.events.rows, e.queueState = .unassigned → e.rfidSessionId = none) :
    ∀ e ∈ db'.events.rows, e.queueState = .unassigned → e.rfidSessionId = none := by
  cases h with
  | openSession | finishSession => exact inv
  | addEvent row keyed deviceId readerEventKey fresh =>
      intro e member unassigned
      rcases (Table.mem_insert _ _ keyed _).mp member with old | rfl
      · exact inv e old unassigned
      · exact (fresh _).2
  | assignEvent event session =>
      intro e member unassigned
      rcases (Table.mem_update db.events event.id (fun e => { e with
        rfidSessionId := some session.id, queueState := .queued }) (fun _ => rfl) e).mp member with
        ⟨old, -⟩ | ⟨_, -, -, rfl⟩
      · exact inv e old unassigned
      · cases unassigned
  | completeAttempt event attempt outcome target responseCode errorKind detail now next member
      inflight memberAttempt mine started hasTarget =>
      intro e there unassigned
      rcases (mem_setQueueState db event.id target e).mp there with ⟨old, -⟩ | ⟨_, -, -, rfl⟩
      · exact inv e old unassigned
      · exact absurd unassigned (target_of_outcome hasTarget).1
  | deadLetter event =>
      intro e there unassigned
      rcases (mem_setQueueState db event.id .dead e).mp there with ⟨old, -⟩ | ⟨_, -, -, rfl⟩
      · exact inv e old unassigned
      · cases unassigned

theorem unowned_opened {eventId : Nat}
    (inv : ∀ e ∈ db.events.rows, e.queueState = .unassigned → e.rfidSessionId = none) :
    ∀ e ∈ (db.openAttempt eventId now).events.rows, e.queueState = .unassigned →
      e.rfidSessionId = none := by
  intro e there unassigned
  rcases (mem_setQueueState db eventId .inflight e).mp there with ⟨old, -⟩ | ⟨_, -, -, rfl⟩
  · exact inv e old unassigned
  · cases unassigned

theorem unowned_run {sha : Sha256} {op : StoreOp} {answer : op.Answer} (issued : op.Issued)
    (ran : op.run sha now db = .ok (answer, db')) :
    (∀ e ∈ db.events.rows, e.queueState = .unassigned → e.rfidSessionId = none) →
      ∀ e ∈ db'.events.rows, e.queueState = .unassigned → e.rfidSessionId = none :=
  StoreOp.run_invariant (I := fun db => ∀ e ∈ db.events.rows, e.queueState = .unassigned →
    e.rfidSessionId = none) Edit.unowned (fun _ _ => unowned_opened) issued ran

/-- The query returns an event that waits, from the time of its retry on. -/
theorem awaitsSelection_of_waiting {readerCode : String} {e : RawRFIDEvent}
    (ledger : StoreLedger db) (member : e ∈ db.events.rows) (owned : Owned readerCode db e)
    (waiting : e.queueState = .queued ∨ e.queueState = .retry) :
    AwaitsSelection db readerCode e := by
  have run := ledger.ledger e member
  -- a waiting event is eligible from some time on
  have eligible : ∃ soon, ∀ now, soon ≤ now →
      (e.queueState == .queued || (e.queueState == .retry && db.retryIsDue now e)) = true := by
    cases waiting with
    | inl queued => exact ⟨0, fun now _ => by simp [queued]⟩
    | inr retry =>
        obtain ⟨a, last, outcome, scheduled⟩ := (eventLedger_of_ledger run).retry retry
        obtain ⟨next, scheduled⟩ := Option.isSome_iff_exists.mp scheduled
        refine ⟨next, ?_⟩
        intro now later
        simp [retry, retryIsDue, latestAttempt, run.argmax_number, Option.mem_def.mp last, outcome,
          scheduled, later]
  obtain ⟨soon, eligible⟩ := eligible
  refine ⟨?_, soon, db.events.rows.length, ?_⟩
  · cases waiting with
    | inl queued => exact .inl queued
    | inr retry =>
        obtain ⟨a, last, -, scheduled⟩ := (eventLedger_of_ledger run).retry retry
        exact .inr ⟨retry, a, last, scheduled⟩
  · intro now batchSize later enough
    refine ⟨_, List.mem_map.mpr ⟨e, ?_, rfl⟩, rfl⟩
    rw [List.take_of_length_le]
    · rw [List.mem_mergeSort, List.mem_filter]
      refine ⟨member, ?_⟩
      simp only [owned.1, owned.2.1, owned.2.2, Bool.true_and]
      exact eligible now later
    · rw [List.length_mergeSort]
      exact (List.length_filter_le _ _).trans enough

end

/-- The attempt that an operation closes. -/
def CycleOp.closes (eventId attemptId : Nat) : (op : CycleOp) → Except PyException op.Answer → Bool
  | .store (.completeDeliveryAttempt event attempt ..), .ok _ =>
      event == eventId && attempt == attemptId
  | _, _ => false

section
variable {sha : Sha256} {may : DeliverySettings → Prop} {worker : Nat} {s s' : SharedStore}
  {op : CycleOp} {answer : Except PyException op.Answer}

/-- An attempt that a worker was delivering is still being delivered, or its delivery has
just ended, or the attempt has just been closed. -/
theorem attempt_step {eventId attemptId : Nat}
    (lawful : op.Lawful may (progress worker s.log))
    (logged : s'.log = ⟨worker, op, answer⟩ :: s.log)
    (delivering : ∃ worker', (progress worker' s.log).attempt = some (eventId, attemptId)) :
    (∃ worker', (progress worker' s'.log).attempt = some (eventId, attemptId)) ∨
      (∃ entry ∈ s'.log, entry.Abandons eventId attemptId) ∨
      op.closes eventId attemptId answer = true := by
  obtain ⟨worker', attempt⟩ := delivering
  by_cases mine : worker = worker'
  · subst mine
    rw [logged]
    cases op with
    | send attempt' candidate =>
        rw [show (progress worker s.log).attempt = some (candidate.event.id, attempt') from lawful]
          at attempt
        cases attempt
        cases answer with
        | ok reply =>
            refine .inl ⟨worker, ?_⟩
            rw [progress, if_pos rfl]
            exact lawful
        | error exc =>
            cases cut : exc.isException with
            | false => exact .inr (.inl ⟨_, List.mem_cons_self .., rfl, rfl, cut⟩)
            | true =>
                refine .inl ⟨worker, ?_⟩
                rw [progress, if_pos rfl]
                simp only [Progress.after, Progress.unlessCutOff, cut, if_true]
                exact lawful
    | store op =>
        cases op with
        | completeDeliveryAttempt =>
            obtain ⟨current, -⟩ := lawful
            rw [current] at attempt
            cases attempt
            cases answer with
            | error exc => exact .inr (.inl ⟨_, List.mem_cons_self .., rfl, rfl⟩)
            | ok completed => exact .inr (.inr (by simp [CycleOp.closes]))
        | _ =>
            rw [lawful.1] at attempt
            cases attempt
  · refine .inl ⟨worker', ?_⟩
    rw [logged, progress, if_neg mine]
    exact attempt

theorem accounted_old {a : DeliveryAttempt} (inv : AccountedAttempts s)
    (lawful : op.Lawful may (progress worker s.log))
    (logged : s'.log = ⟨worker, op, answer⟩ :: s.log)
    (member : a ∈ s.db.attempts.rows) (started : a.outcome = .started)
    (stays : op.closes a.eventId a.id answer = false) :
    (∃ worker', (progress worker' s'.log).attempt = some (a.eventId, a.id)) ∨
      ∃ entry ∈ s'.log, entry.Abandons a.eventId a.id := by
  cases inv.attempts a member started with
  | inr abandoned =>
      obtain ⟨entry, there, abandons⟩ := abandoned
      exact .inr ⟨entry, logged ▸ List.mem_cons_of_mem _ there, abandons⟩
  | inl delivering =>
      obtain still | abandoned | closed := attempt_step lawful logged delivering
      · exact .inl still
      · exact .inr abandoned
      · rw [stays] at closed
        cases closed

theorem attempts_accounted (step : CycleExec sha worker op s answer s')
    (lawful : op.Lawful may (progress worker s.log)) (inv : AccountedAttempts s) :
    ∀ a ∈ s'.db.attempts.rows, a.outcome = .started →
      (∃ worker', (progress worker' s'.log).attempt = some (a.eventId, a.id)) ∨
        ∃ entry ∈ s'.log, entry.Abandons a.eventId a.id := by
  have logged := step.logged
  intro a member started
  cases step with
  | @rolledBack _ op =>
      exact accounted_old inv lawful logged member started (by cases op <;> rfl)
  | replied => exact accounted_old inv lawful logged member started rfl
  | @committed _ op _ now answer db' later ran =>
      cases op with
      | startDeliveryAttempt eventId expectedState limit =>
          obtain ⟨-, -, number, -, rfl⟩ := startDeliveryAttempt_eq_ok ran
          rcases (mem_insertAttempt _ _ _ _ a).mp member with old | rfl
          · exact accounted_old inv lawful logged old started rfl
          · refine .inl ⟨worker, ?_⟩
            rw [progress, if_pos rfl]
            exact congrArg (fun id => some (eventId, id)) number
      | completeDeliveryAttempt eventId attemptId outcome responseCode errorKind detail =>
          obtain ⟨e, -, x, memberX, target, next, rfl, -, rfl, mine, -, hasTarget, -, -, rfl⟩ :=
            completeDeliveryAttempt_eq_ok ran
          rcases (Table.mem_update s.db.attempts x.id (closeAttempt outcome
            (keptText (some 64) responseCode) (keptText (some 128) errorKind) detail now next)
            (fun _ => rfl) a).mp member with ⟨old, other⟩ | ⟨_, -, -, rfl⟩
          · apply accounted_old inv lawful logged old started
            have apart : x.id ≠ a.id := fun same => other same.symm
            simp [CycleOp.closes, apart]
          · -- the attempt that was just closed is not open
            change outcome = .started at started
            subst started
            cases hasTarget
      | _ =>
          rw [attempts_run (issued_of_lawful lawful) rfl rfl ran] at member
          exact accounted_old inv lawful logged member started rfl

theorem accounted_step (step : CycleExec sha worker op s answer s')
    (lawful : op.Lawful may (progress worker s.log)) (inv : AccountedAttempts s) :
    AccountedAttempts s' := by
  have attempts := attempts_accounted step lawful inv
  cases step with
  | rolledBack | replied => exact ⟨inv.ledger, inv.unowned, attempts⟩
  | committed later ran =>
      exact ⟨inv.ledger.run (issued_of_lawful lawful) ran,
        unowned_run (issued_of_lawful lawful) ran inv.unowned, attempts⟩

end

/-- When nobody executes, every unfinished event of a session waits for a selection, or it
was left INFLIGHT by a delivery that was cut off. -/
theorem unfinished_events_survive (sha : Sha256) (may : DeliverySettings → Prop) {c c' : CyclePool}
    (init : CyclePool.Initial c) (fresh : UntouchedStore c.state.db)
    (run : CycleSteps sha may (fun _ _ => True) c c') (idle : CyclePool.Idle c')
    (readerCode : String) : ∀ e ∈ c'.state.db.events.rows, Owned readerCode c'.state.db e →
      ¬ e.queueState.Terminal →
      AwaitsSelection c'.state.db readerCode e ∨ LeftInflight c'.state.db c'.state.log e := by
  have start : AccountedAttempts c.state := by
    refine ⟨.of_fresh fresh.noAttempts fresh.unassigned,
      fun e member _ => fresh.unowned e member, ?_⟩
    simp [fresh.noAttempts]
  have inv : AccountedAttempts c'.state :=
    invariant_cycleSteps (fun _ _ _ _ _ step _ lawful inv => accounted_step step lawful inv)
      init run start
  have nobody : ∀ worker, progress worker c'.state.log = {} := by
    intro worker
    have done := sound_cycleSteps init run worker
    rw [idle worker] at done
    exact done.ended
  intro e member owned unfinished
  rw [QueueState.terminal_iff] at unfinished
  have ledger := eventLedger_of_ledger (inv.ledger.ledger e member)
  cases state : e.queueState with
  | unassigned =>
      have unowned := inv.unowned e member state
      rw [Owned, unowned] at owned
      cases owned.2.2
  | queued => exact .inl (awaitsSelection_of_waiting inv.ledger member owned (.inl state))
  | retry => exact .inl (awaitsSelection_of_waiting inv.ledger member owned (.inr state))
  | inflight =>
      obtain ⟨a, last, started⟩ := ledger.inflight_iff.mp state
      obtain ⟨row, mine⟩ := mem_attemptsOf.mp (List.mem_of_getLast? last)
      obtain ⟨worker, delivering⟩ | abandoned := inv.attempts a row started
      · rw [nobody worker] at delivering
        cases delivering
      · exact .inr ⟨state, a, last, started, mine ▸ abandoned⟩
  | sent | rejected | dead => exact absurd state (by simp [state] at unfinished)

namespace OneTag

theorem freshStore_untouched : UntouchedStore freshStore :=
  ⟨freshStore_fresh, by simp [freshStore, Table.insert, Table.empty]⟩

/-- Worker 0 is killed at its first request, and another worker puts the tag into its
session. -/
def killed : CycleSchedule where
  sha
  duration := 10000000
  reply _ _ := .error ⟨.keyboardInterrupt, ""⟩
  next
    | 0 => deliveryWorker (settings 30 3600)
    | _ => (cycleStore (.assignEventToActiveSession 1)).handle fun _ => .ret ()

theorem offered_killed (worker : Nat) : WorkerBody (· = settings 30 3600) (killed.next worker) := by
  cases worker with
  | zero => exact .cycle rfl
  | succ _ => exact .service rfl

/-- Worker 0 ends up killed, with everybody idle. -/
theorem reached_killed : ∃ c', CycleSteps sha (· = settings 30 3600) (fun _ _ => True)
    (.before freshStore) c' ∧ CyclePool.Idle c' ∧ ∃ e ∈ c'.state.db.events.rows,
      Owned "GATE-1" c'.state.db e ∧ e.queueState = .inflight := by
  let turns := [1, 1, 0, 0, 0, 0, 0, 0]
  have seen : ((killed.follow turns (.before freshStore)).map fun c' =>
      ((c'.code 0).hasReturned, (c'.code 1).hasReturned,
        decide (∃ e ∈ c'.state.db.events.rows,
          Owned "GATE-1" c'.state.db e ∧ e.queueState = .inflight))) = some (true, true, true) := by
    decide +kernel
  obtain ⟨c', ran, same⟩ := Option.map_eq_some_iff.mp seen
  obtain ⟨first, same⟩ := Prod.mk.inj same
  obtain ⟨second, left⟩ := Prod.mk.inj same
  refine ⟨c', CycleSchedule.steps_of_follow (fun _ _ _ _ _ _ _ => trivial) offered_killed ran, ?_,
    of_decide_eq_true left⟩
  intro worker
  by_cases busy : worker ∈ turns
  · have both : worker = 1 ∨ worker = 0 := by simpa [turns] using busy
    cases both with
    | inl one => exact one ▸ Prog.eq_ret_of_hasReturned second
    | inr zero => exact zero ▸ Prog.eq_ret_of_hasReturned first
  · exact Pool.code_of_follow ran busy

end OneTag

open OneTag in
/-- A worker was killed between the start and the end of its delivery. -/
theorem unfinished_events_survive_kill : ∃ c' : CyclePool, CyclePool.Idle c' ∧
    ∃ e ∈ c'.state.db.events.rows, e.queueState = .inflight ∧
      (AwaitsSelection c'.state.db "GATE-1" e ∨ LeftInflight c'.state.db c'.state.log e) := by
  obtain ⟨c', run, idle, e, member, owned, inflight⟩ := reached_killed
  refine ⟨c', idle, e, member, inflight, ?_⟩
  exact unfinished_events_survive sha _ (CyclePool.initial_before freshStore) freshStore_untouched
    run idle "GATE-1" e member owned (by simp [inflight, QueueState.terminal_iff])

open OneTag in
/-- The event of the killed worker is neither QUEUED nor RETRY, and nobody executes. -/
theorem killed_delivery_stays_inflight : ∃ c c' : CyclePool, CyclePool.Initial c ∧
    UntouchedStore c.state.db ∧
    CycleSteps sha (· = settings 30 3600) (fun _ _ => True) c c' ∧ CyclePool.Idle c' ∧
    ∃ e ∈ c'.state.db.events.rows, Owned "GATE-1" c'.state.db e ∧ ¬ e.queueState.Terminal ∧
      e.queueState ≠ .queued ∧ e.queueState ≠ .retry := by
  obtain ⟨c', run, idle, e, member, owned, inflight⟩ := reached_killed
  exact ⟨_, c', CyclePool.initial_before freshStore, freshStore_untouched, run, idle, e, member,
    owned, by simp [inflight, QueueState.terminal_iff], by simp [inflight], by simp [inflight]⟩

end RfidBridge
