import RfidBridge.Delivery.DeliveryRuns

/-!
A cancelled session gets no new delivery attempt as long as no session is cancelled
between the first pass of a cycle and the last start of its batch. Inside that window the
cancellation is not noticed, since a start looks at the event and not at its session.
-/

namespace RfidBridge
open Database

/-- An event that is in a session stays in it. -/
def AssignedStay (db db' : Database) : Prop :=
  ∀ e ∈ db.events.rows, e.rfidSessionId.isSome →
    ∃ e' ∈ db'.events.rows, e'.id = e.id ∧ e'.rfidSessionId = e.rfidSessionId

section
variable {db db' db₁ db₂ : Database}

theorem AssignedStay.refl (db : Database) : AssignedStay db db :=
  fun e he _ => ⟨e, he, rfl, rfl⟩

theorem AssignedStay.trans (first : AssignedStay db db₁) (second : AssignedStay db₁ db₂) :
    AssignedStay db db₂ := by
  intro e he assigned
  obtain ⟨e₁, he₁, id, same⟩ := first e he assigned
  obtain ⟨e₂, he₂, id', same'⟩ := second e₁ he₁ (same ▸ assigned)
  exact ⟨e₂, he₂, id'.trans id, same'.trans same⟩

theorem assignedStay_setQueueState (eventId : Nat) (state : QueueState) :
    AssignedStay db (db.setQueueState eventId state) := by
  intro e he _
  by_cases same : e.id = eventId
  · exact ⟨_, (mem_setQueueState db eventId state _).mpr (.inr ⟨e, he, same, rfl⟩), rfl, rfl⟩
  · exact ⟨e, (mem_setQueueState db eventId state e).mpr (.inl ⟨he, same⟩), rfl, rfl⟩

theorem Edit.assignedStay {scope : EditScope} (h : Edit scope db db') : AssignedStay db db' := by
  cases h with
  | openSession | finishSession => exact .refl _
  | addEvent row keyed =>
      exact fun e he _ => ⟨e, (Table.mem_insert _ _ keyed _).mpr (.inl he), rfl, rfl⟩
  | assignEvent event session member unassigned free =>
      intro e he assigned
      have other : e.id ≠ event.id := by
        intro same
        rw [db.events.eq_of_key_eq he member same, free] at assigned
        cases assigned
      exact ⟨e, (db.events.mem_update_of_ne other).mpr he, rfl, rfl⟩
  | completeAttempt event | deadLetter event => exact assignedStay_setQueueState event.id _

theorem assignedStay_run {sha : Sha256} {now : Timestamp} {op : StoreOp} {answer : op.Answer}
    (issued : op.Issued) (h : op.run sha now db = .ok (answer, db')) : AssignedStay db db' :=
  StoreOp.run_relation AssignedStay.refl AssignedStay.trans Edit.assignedStay
    (fun {_ event _} _ _ => assignedStay_setQueueState event.id .inflight) issued h

/-- A session ends up in the status that its transaction aims at, or stays as it was. -/
theorem sessions_finishLocalSession {utf8 : Utf8} {target : SessionStatus}
    {verb sessionKey readerCode : String} {now : Timestamp} {result : RFIDSession}
    (h : finishLocalSession utf8 target verb sessionKey readerCode now db = .ok (result, db')) :
    ∀ session ∈ db'.sessions.rows, session ∈ db.sessions.rows ∨
      session.status = target ∧ ∃ found ∈ db.sessionByKey (strip sessionKey),
        found.id = session.id := by
  intro session member
  obtain ⟨-, found, matched, -, ⟨-, -, rfl⟩ | ⟨-, -, rfl⟩⟩ := finishLocalSession_eq_ok h
  · exact .inl member
  · rcases (mem_setStatus _ _ _ _ _).mp member with ⟨old, -⟩ | ⟨old, -, same, rfl⟩
    · exact .inl old
    · exact .inr ⟨rfl, found, matched, same.symm⟩

/-- A new session is ACTIVE. -/
theorem sessions_synchronizeStartCommand {utf8 : Utf8} {command : OdooRFIDCommand}
    {result : SessionSyncResult}
    (h : synchronizeStartCommand utf8 command db = .ok (result, db')) :
    ∀ session ∈ db'.sessions.rows, session ∈ db.sessions.rows ∨ session.status = .active := by
  intro session member
  obtain ⟨reader, operation, -, -, ⟨_, -, -, -, rfl⟩ | ⟨-, -, -, rfl⟩⟩ :=
    synchronizeStartCommand_eq_ok h
  · exact .inl member
  · rcases (Table.mem_insert _ _ (fun _ => rfl) _).mp member with old | rfl
    · exact .inl old
    · exact .inr rfl

/-- Only a cancellation makes a session CANCELLED. -/
theorem cancelled_of_run {sha : Sha256} {now : Timestamp} {op : StoreOp} {answer : op.Answer}
    (issued : op.Issued) (h : op.run sha now db = .ok (answer, db')) {session : RFIDSession}
    (member : session ∈ db'.sessions.rows) (cancelled : session.status = .cancelled) :
    session ∈ db.sessions.rows ∨ ∃ key readerCode, op = .cancelLocalSession key readerCode ∧
      ∃ found ∈ db.sessionByKey (strip key), found.id = session.id := by
  cases op with
  | synchronizeStartCommand command =>
      rcases sessions_synchronizeStartCommand h session member with old | active
      · exact .inl old
      · rw [cancelled] at active
        cases active
  | closeLocalSession key readerCode =>
      simp only [StoreOp.run, closeLocalSession, guard_eq_ok] at h
      obtain ⟨-, h⟩ := h
      rcases sessions_finishLocalSession h session member with old | ⟨closed, -⟩
      · exact .inl old
      · rw [cancelled] at closed
        cases closed
  | cancelLocalSession key readerCode =>
      rcases sessions_finishLocalSession h session member with old | ⟨-, found⟩
      · exact .inl old
      · exact .inr ⟨key, readerCode, rfl, found⟩
  | _ =>
      rw [sessions_run issued id h] at member
      exact .inl member

end

/-- No selection finds an event of a cancelled session, and no cancellation hits the session
of a candidate that a worker has still to begin. -/
def CycleOp.SparesCancelled (s : SharedStore) (now : Timestamp) :
    (op : CycleOp) → Except PyException op.Answer → Prop
  | .store (.selectCandidates readerCode _), .ok _ =>
      ∀ e ∈ s.db.events.rows, Owned readerCode s.db e →
        e.queueState = .queued ∨ e.queueState = .retry ∧ s.db.retryIsDue now e = true →
        ∀ session ∈ s.db.sessions.rows, e.rfidSessionId = some session.id →
          session.status ≠ .cancelled
  | .store (.cancelLocalSession sessionKey _), .ok _ =>
      ∀ worker, ∀ c ∈ (progress worker s.log).held,
        ∀ session ∈ s.db.sessionByKey (strip sessionKey), c.event.rfidSessionId ≠ some session.id
  | _, _ => True

def SparesCancelled (s s' : SharedStore) : Prop :=
  ∀ entry, s'.log = entry :: s.log → entry.op.SparesCancelled s s'.clock entry.answer

/-- An attempt is opened while the session of its event is not cancelled, and only an
opened attempt is sent. -/
def CycleOp.RespectsCancellation (worker : Nat) (s : SharedStore) :
    (op : CycleOp) → Except PyException op.Answer → Prop
  | .store (.startDeliveryAttempt eventId _ _), .ok _ =>
      ∀ e ∈ s.db.events.rows, e.id = eventId → ∀ session ∈ s.db.sessions.rows,
        e.rfidSessionId = some session.id → session.status ≠ .cancelled
  | .send attemptId candidate, _ => ∃ expectedState limit, ∃ started : DeliveryAttemptStartResult,
      ⟨worker, .store (.startDeliveryAttempt candidate.event.id expectedState limit),
        .ok started⟩ ∈ s.log ∧ started.attemptId = attemptId
  | _, _ => True

/-- The session of a candidate is not cancelled. -/
structure InOpenSession (db : Database) (c : Candidate) : Prop where
  assigned : c.event.rfidSessionId.isSome
  event : ∃ e ∈ db.events.rows, e.id = c.event.id ∧ e.rfidSessionId = c.event.rfidSessionId
  session : ∀ session ∈ db.sessions.rows, c.event.rfidSessionId = some session.id →
    session.status ≠ .cancelled

/-- Every candidate that is still to be begun is in an open session, and an attempt that is
being delivered was opened by its worker. -/
structure SparingRun (s : SharedStore) : Prop where
  held : ∀ worker, ∀ c ∈ (progress worker s.log).held, InOpenSession s.db c
  opened : ∀ worker eventId attemptId, (progress worker s.log).attempt = some (eventId, attemptId) →
    ∃ expectedState limit, ∃ started : DeliveryAttemptStartResult,
      ⟨worker, .store (.startDeliveryAttempt eventId expectedState limit), .ok started⟩ ∈ s.log ∧
      started.attemptId = attemptId

section
variable {sha : Sha256} {may : DeliverySettings → Prop} {worker : Nat} {s s' : SharedStore}
  {op : CycleOp} {answer : Except PyException op.Answer}

theorem InOpenSession.run {now : Timestamp} {db db' : Database} {op : StoreOp} {answer : op.Answer}
    {c : Candidate} (issued : op.Issued) (ran : op.run sha now db = .ok (answer, db'))
    (spared : ∀ key readerCode, op = .cancelLocalSession key readerCode →
      ∀ session ∈ db.sessionByKey (strip key), c.event.rfidSessionId ≠ some session.id)
    (h : InOpenSession db c) : InOpenSession db' c where
  assigned := h.assigned
  event := by
    obtain ⟨e, he, id, same⟩ := h.event
    obtain ⟨e', he', id', same'⟩ := assignedStay_run issued ran e he (same ▸ h.assigned)
    exact ⟨e', he', id'.trans id, same'.trans same⟩
  session session member mine cancelled := by
    obtain old | ⟨key, readerCode, rfl, found, matched, same⟩ :=
      cancelled_of_run issued ran member cancelled
    · exact h.session session old mine cancelled
    · exact spared key readerCode rfl found matched (same ▸ mine)

/-- A candidate that the query of a selection returns. -/
theorem inOpenSession_of_select {db : Database} {readerCode : String} {batchSize : Nat}
    {now : Timestamp} {c : Candidate}
    (spared : ∀ e ∈ db.events.rows, Owned readerCode db e →
      e.queueState = .queued ∨ e.queueState = .retry ∧ db.retryIsDue now e = true →
      ∀ session ∈ db.sessions.rows, e.rfidSessionId = some session.id →
        session.status ≠ .cancelled)
    (chosen : c ∈ db.selectCandidates readerCode batchSize now) : InOpenSession db c := by
  obtain ⟨member, owned, waiting⟩ := mem_selectCandidates chosen
  exact ⟨owned.2.2, ⟨c.event, member, rfl, rfl⟩, spared c.event member owned waiting⟩

theorem held_sparing (step : CycleExec sha worker op s answer s') (spared : SparesCancelled s s')
    (lawful : op.Lawful may (progress worker s.log)) (inv : SparingRun s) :
    ∀ worker', ∀ c ∈ (progress worker' s'.log).held, InOpenSession s'.db c := by
  intro worker' c hc
  have met := spared _ step.logged
  rw [step.logged] at hc
  cases step with
  | rolledBack | replied =>
      obtain old | ⟨_, _, _, same, -⟩ := mem_held_cons hc
      · exact inv.held worker' c old
      · cases same
  | @committed _ op _ now answer db' later ran =>
      obtain old | ⟨readerCode, batchSize, candidates, same, chosen⟩ := mem_held_cons hc
      · apply (inv.held worker' c old).run (issued_of_lawful lawful) ran
        rintro key readerCode rfl session matched
        exact met worker' c old session matched
      · cases same
        obtain ⟨rfl, rfl⟩ := run_selectCandidates ran
        exact inOpenSession_of_select met chosen

theorem opened_sparing (step : CycleExec sha worker op s answer s') (inv : SparingRun s)
    (worker' eventId attemptId : Nat)
    (delivering : (progress worker' s'.log).attempt = some (eventId, attemptId)) :
    ∃ expectedState limit, ∃ started : DeliveryAttemptStartResult,
      ⟨worker', .store (.startDeliveryAttempt eventId expectedState limit), .ok started⟩ ∈ s'.log ∧
      started.attemptId = attemptId := by
  rw [step.logged] at delivering ⊢
  obtain old | ⟨expectedState, limit, started, same, number⟩ := attempt_cons delivering
  · obtain ⟨expectedState, limit, started, member, number⟩ :=
      inv.opened worker' eventId attemptId old
    exact ⟨expectedState, limit, started, List.mem_cons_of_mem _ member, number⟩
  · exact ⟨expectedState, limit, started, same ▸ List.mem_cons_self .., number⟩

/-- What a lawful operation does in a run that spares cancelled sessions so far. -/
theorem respectsCancellation_of_lawful (inv : SparingRun s)
    (lawful : op.Lawful may (progress worker s.log)) : op.RespectsCancellation worker s answer := by
  cases op with
  | send attemptId candidate => exact inv.opened worker candidate.event.id attemptId lawful
  | store op =>
      cases op with
      | startDeliveryAttempt eventId expectedState limit =>
          cases answer with
          | error exc => trivial
          | ok started =>
              obtain ⟨-, c, held, rfl, -⟩ := lawful
              have open_ := inv.held worker c held
              intro e he same session member mine
              obtain ⟨e', he', id, sessionId⟩ := open_.event
              rw [s.db.events.eq_of_key_eq he he' (same.trans id.symm), sessionId] at mine
              exact open_.session session member mine
      | _ => trivial

end

/-- In runs that never cancel between a selection and its last start, every attempt is
opened in a session that is not cancelled, and nothing else is sent to Odoo. -/
theorem attempts_spare_cancelled_sessions (sha : Sha256) (may : DeliverySettings → Prop)
    {c c' c'' : CyclePool} {entry : CycleEntry} (init : CyclePool.Initial c)
    (run : CycleSteps sha may SparesCancelled c c')
    (step : CycleStep sha may SparesCancelled c' c'')
    (made : c''.state.log = entry :: c'.state.log) :
    entry.op.RespectsCancellation entry.worker c'.state entry.answer := by
  have start : SparingRun c.state := by
    refine ⟨?_, ?_⟩
    · intro worker candidate held
      rw [init.log] at held
      cases held
    · intro worker eventId attemptId delivering
      rw [init.log] at delivering
      cases delivering
  have inv : SparingRun c'.state := by
    refine invariant_cycleSteps ?_ init run start
    intro worker op s answer s' step spared lawful inv
    exact ⟨held_sparing step spared lawful inv, opened_sparing step inv⟩
  exact respectsCancellation_of_lawful inv (lawful_of_step init run step made)

namespace OneTag

/-- Worker 0 delivers, and the others cancel the session. -/
def cancelling (admits : Nat → CycleOp → SharedStore → Bool) : CycleSchedule where
  sha
  duration := 10000000
  reply _ := reply acceptance
  admits
  next
    | 0 => deliveryWorker (settings 30 3600)
    | _ => (cycleStore (.cancelLocalSession "S1" "GATE-1")).handle fun _ => .ret ()

theorem offered_cancelling (admits : Nat → CycleOp → SharedStore → Bool) (worker : Nat) :
    WorkerBody (· = settings 30 3600) ((cancelling admits).next worker) := by
  cases worker with
  | zero => exact .cycle rfl
  | succ _ => exact .service rfl

/-- Nobody cancels, and nobody has. -/
def untilCancelled (_ : Nat) : CycleOp → SharedStore → Bool
  | .store (.cancelLocalSession ..), _ => false
  | _, s => s.db.sessions.rows.all fun session => session.status ≠ .cancelled

theorem spares_untilCancelled {worker : Nat} {op : CycleOp} {s s' : SharedStore}
    {answer : Except PyException op.Answer} (admitted : untilCancelled worker op s = true)
    (step : CycleExec sha worker op s answer s') : SparesCancelled s s' := by
  intro entry made
  have same := made.symm.trans step.logged
  cases same
  cases op with
  | send => trivial
  | store op =>
      cases op with
      | cancelLocalSession => cases admitted
      | selectCandidates =>
          cases answer with
          | error => trivial
          | ok =>
              simp only [untilCancelled, List.all_eq_true, decide_eq_true_eq] at admitted
              exact fun _ _ _ _ session member _ => admitted session member
      | _ => trivial

end OneTag

open OneTag in
/-- One worker delivers a tag of a session that nobody cancels. -/
theorem attempts_spare_cancelled_sessions_active :
    ∃ c' c'' : CyclePool, ∃ worker expectedState limit, ∃ started : DeliveryAttemptStartResult,
      c''.state.log = ⟨worker, .store (.startDeliveryAttempt 1 expectedState limit),
        .ok started⟩ :: c'.state.log ∧
      ∀ e ∈ c'.state.db.events.rows, e.id = 1 → ∀ session ∈ c'.state.db.sessions.rows,
        e.rfidSessionId = some session.id → session.status ≠ .cancelled := by
  let schedule := cancelling untilCancelled
  have seen : ((schedule.follow [0, 0, 0, 0] (.before queuedStore)).bind fun c' =>
      (schedule.turn 0 c').map fun c'' =>
        (c''.state.log.length - c'.state.log.length, lastOpened c''.state.log)) =
      some (1, some 1) := by decide +kernel
  obtain ⟨c', ran, turned⟩ := Option.bind_eq_some_iff.mp seen
  obtain ⟨c'', turned, same⟩ := Option.map_eq_some_iff.mp turned
  obtain ⟨grown, opened⟩ := Prod.mk.inj same
  have met : ∀ worker op s answer s', schedule.admits worker op s = true →
      CycleExec schedule.sha worker op s answer s' → SparesCancelled s s' :=
    fun _ _ _ _ _ admitted step => spares_untilCancelled admitted step
  have step := CycleSchedule.step_of_turn met (offered_cancelling _) turned
  obtain ⟨worker, expectedState, limit, started, made⟩ :=
    made_of_lastOpened step (by omega) opened
  refine ⟨c', c'', worker, expectedState, limit, started, made, ?_⟩
  exact attempts_spare_cancelled_sessions _ _ (CyclePool.initial_before queuedStore)
    (CycleSchedule.steps_of_follow met (offered_cancelling _) ran) step made

open OneTag in
/-- A worker selects a tag, its session is cancelled, and the worker opens an attempt. -/
theorem cancelled_session_receives_attempt :
    ∃ c c' c'' : CyclePool, ∃ entry, CyclePool.Initial c ∧
      CycleSteps sha (· = settings 30 3600) (fun _ _ => True) c c' ∧
      CycleStep sha (· = settings 30 3600) (fun _ _ => True) c' c'' ∧
      c''.state.log = entry :: c'.state.log ∧
      ¬ entry.op.RespectsCancellation entry.worker c'.state entry.answer := by
  let schedule := cancelling fun _ _ _ => true
  have seen : ((schedule.follow [0, 0, 0, 0, 1, 1] (.before queuedStore)).bind fun c' =>
      (schedule.turn 0 c').map fun c'' =>
        (c''.state.log.length - c'.state.log.length, lastOpened c''.state.log,
          decide (∃ e ∈ c'.state.db.events.rows, e.id = 1 ∧ ∃ session ∈ c'.state.db.sessions.rows,
            e.rfidSessionId = some session.id ∧ session.status = .cancelled))) =
      some (1, some 1, true) := by decide +kernel
  obtain ⟨c', ran, turned⟩ := Option.bind_eq_some_iff.mp seen
  obtain ⟨c'', turned, same⟩ := Option.map_eq_some_iff.mp turned
  obtain ⟨grown, same⟩ := Prod.mk.inj same
  obtain ⟨opened, cancelled⟩ := Prod.mk.inj same
  have met : ∀ worker op s answer s', schedule.admits worker op s = true →
      CycleExec schedule.sha worker op s answer s' → True := fun _ _ _ _ _ _ _ => trivial
  have step := CycleSchedule.step_of_turn met (offered_cancelling _) turned
  obtain ⟨worker, expectedState, limit, started, made⟩ :=
    made_of_lastOpened step (by omega) opened
  obtain ⟨e, member, id, session, listed, mine, status⟩ := of_decide_eq_true cancelled
  exact ⟨_, c', c'', _, CyclePool.initial_before queuedStore,
    CycleSchedule.steps_of_follow met (offered_cancelling _) ran, step, made,
    fun respects => respects e member id session listed mine status⟩

end RfidBridge
