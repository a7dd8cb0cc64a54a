import RfidBridge.Store.Transactions
import Mathlib.Logic.Relation

/-!
What the transactions can do to the database, said once. A committed transaction
opens one delivery attempt, or is a sequence of primitive edits, each with the
guard under which the code makes it; so a property that the edits and the opening
of an attempt keep is kept by every transaction.
-/

namespace RfidBridge
open Relation

/-- What an operation may change: the keys of the events that it may add, the attempts
of which events it may close and how, and whether it may touch the sessions. -/
structure EditScope where
  adds : String → Prop := fun _ => False
  closes : Nat → Nat → Outcome → Prop := fun _ _ _ => False
  sessions : Prop := False

/-- One guarded change of the session, event or attempt table. -/
inductive Edit (scope : EditScope) (db : Database) : Database → Prop
  | openSession (row : Nat → RFIDSession) (keyed : ∀ k, Keyed.key (row k) = k)
      (reader : ReaderDevice) (operation : Option OperationType) :
      (∀ k, (row k).status = .active ∧ (row k).closedAt = none) →
      (∀ k, (row k).externalSessionKey = (row 0).externalSessionKey) →
      Clean (row 0).externalSessionKey → (row 0).externalSessionKey.toList.length ≤ 128 →
      (∀ k, (row k).deviceId = reader.id) →
      (∃ code, db.enabledReader code = some reader) →
      (∀ k, operationForReader reader operation = .ok (row k).operationType) →
      db.sessionByKey (row 0).externalSessionKey = none →
      db.activeSessions reader.id = [] → scope.sessions →
      Edit scope db { db with sessions := db.sessions.insert row keyed }
  | finishSession (session : RFIDSession) (status : SessionStatus) (now : Timestamp) :
      session ∈ db.sessions.rows → session.status = .active → status ≠ .active →
      scope.sessions →
      Edit scope db (db.setStatus session.id status now)
  | addEvent (row : Nat → RawRFIDEvent) (keyed : ∀ k, Keyed.key (row k) = k)
      (deviceId : Nat) (readerEventKey : String) :
      (∀ k, (row k).queueState = .unassigned ∧ (row k).rfidSessionId = none) →
      (∀ k, (row k).deviceId = deviceId ∧ (row k).readerEventKey = readerEventKey) →
      db.eventByKey deviceId readerEventKey = none → scope.adds readerEventKey →
      Edit scope db { db with events := db.events.insert row keyed }
  | assignEvent (event : RawRFIDEvent) (session : RFIDSession) :
      event ∈ db.events.rows → event.queueState = .unassigned → event.rfidSessionId = none →
      session ∈ db.activeSessions event.deviceId →
      requireCompatibleOperation (db.deviceOf event.deviceId) session = .ok () →
      Edit scope db { db with events := db.events.update event.id fun e =>
        { e with rfidSessionId := some session.id, queueState := .queued } }
  | completeAttempt (event : RawRFIDEvent) (attempt : DeliveryAttempt) (outcome : Outcome)
      (target : QueueState) (responseCode errorKind detail : String) (now : Timestamp)
      (next : Option Timestamp) :
      event ∈ db.events.rows → event.queueState = .inflight →
      attempt ∈ db.attempts.rows → attempt.eventId = event.id → attempt.outcome = .started →
      outcomeToQueueState outcome = some target → (next.isSome ↔ outcome = .retry) →
      scope.closes event.id attempt.id outcome →
      Edit scope db { db.setQueueState event.id target with
        attempts := db.attempts.update attempt.id
          (closeAttempt outcome responseCode errorKind detail now next) }
  | deadLetter (event : RawRFIDEvent) :
      event ∈ db.events.rows → event.queueState = .queued ∨ event.queueState = .retry →
      Edit scope db (db.setQueueState event.id .dead)

/-- Any number of edits. -/
abbrev Edits (scope : EditScope) : Database → Database → Prop := ReflTransGen (Edit scope)

/-- The database after an attempt of the event was opened. -/
def Database.openAttempt (db : Database) (eventId : Nat) (now : Timestamp) : Database :=
  (db.setQueueState eventId .inflight).insertAttempt eventId (nextAttemptNumber db eventId) now

theorem startDeliveryAttempt_eq_ok {eventId : Nat} {expectedState : QueueState}
    {maxDeliveryAttempts : Int} {now : Timestamp} {db db' : Database}
    {result : DeliveryAttemptStartResult}
    (h : startDeliveryAttempt eventId expectedState maxDeliveryAttempts now db =
      .ok (result, db')) :
    (∃ event ∈ db.events.rows, event.id = eventId ∧ event.queueState = expectedState ∧
      (event.queueState = .queued ∨ event.queueState = .retry)) ∧
    (nextAttemptNumber db eventId : Int) ≤ maxDeliveryAttempts ∧
    result.attemptId = db.attempts.nextKey ∧
    result.attemptNumber = nextAttemptNumber db eventId ∧
    db' = db.openAttempt eventId now := by
  simp only [startDeliveryAttempt, bind_eq_ok, guard_eq_ok, Except.ok.injEq, Prod.mk.injEq] at h
  obtain ⟨-, event, found, same, startable, within, -, -, -, rfl, rfl⟩ := h
  obtain ⟨member, rfl⟩ := Database.getEvent_eq_ok.mp found
  refine ⟨⟨event, member, rfl, Decidable.not_not.mp same, ?_⟩, Int.not_lt.mp within, rfl, rfl, rfl⟩
  tauto

/-- A completion sets next_retry_at for RETRY and for no other outcome. -/
theorem nextRetryAt_isSome {outcome : Outcome} {attemptNumber : Nat} {completedAt : Timestamp}
    {initial maximum : Option Int} {next : Option Timestamp}
    (settings : requireRetrySettings outcome initial maximum = .ok ())
    (h : nextRetryAt outcome attemptNumber completedAt initial maximum = .ok next) :
    next.isSome ↔ outcome = .retry := by
  simp only [requireRetrySettings, guard_eq_ok, and_true] at settings
  cases outcome with
  | retry =>
      cases initial with
      | none => simp at settings
      | some initial =>
          cases maximum with
          | none => simp at settings
          | some maximum =>
              simp only [nextRetryAt, bind_eq_ok, Except.ok.injEq] at h
              obtain ⟨delay, -, at_, -, rfl⟩ := h
              simp
  | started | sent | rejected | dead | other _ =>
      simp only [nextRetryAt, Except.ok.injEq] at h
      simp [← h]

theorem completeDeliveryAttempt_eq_ok {utf8 : Utf8} {eventId attemptId : Nat} {outcome : Outcome}
    {responseCode errorKind detail : String} {initial maximum : Option Int} {now : Timestamp}
    {db db' : Database} {result : DeliveryAttemptCompletionResult}
    (h : completeDeliveryAttempt utf8 eventId attemptId outcome responseCode errorKind detail
      initial maximum now db = .ok (result, db')) :
    ∃ event ∈ db.events.rows, ∃ attempt ∈ db.attempts.rows, ∃ target next,
      event.id = eventId ∧ event.queueState = .inflight ∧ attempt.id = attemptId ∧
      attempt.eventId = event.id ∧ attempt.outcome = .started ∧
      outcomeToQueueState outcome = some target ∧
      nextRetryAt outcome attempt.attemptNumber now initial maximum = .ok next ∧
      (next.isSome ↔ outcome = .retry) ∧
      db' = { db.setQueueState event.id target with
        attempts := db.attempts.update attempt.id
          (closeAttempt outcome (keptText (some 64) responseCode)
            (keptText (some 128) errorKind) detail now next) } := by
  simp only [completeDeliveryAttempt] at h
  split at h
  · cases h
  · rename_i target hasTarget
    simp only [bind_eq_ok, guard_eq_ok, columnText_eq_ok, Except.ok.injEq, Prod.mk.injEq] at h
    obtain ⟨_, settings, event, found, inflight, attempt, foundAttempt, started, _, _, next,
      hnext, _, ⟨_, rfl⟩, _, ⟨_, rfl⟩, _, ⟨_, rfl⟩, -, rfl⟩ := h
    obtain ⟨member, rfl⟩ := Database.getEvent_eq_ok.mp found
    simp only [Database.getAttempt] at foundAttempt
    split at foundAttempt
    · rename_i row filtered
      cases foundAttempt
      obtain ⟨located, mine⟩ := Option.filter_eq_some_iff.mp filtered
      obtain ⟨memberAttempt, rfl⟩ := (Table.find?_eq_some _).mp located
      exact ⟨event, member, attempt, memberAttempt, target, next, rfl,
        Decidable.not_not.mp inflight, rfl, by simpa using mine, Decidable.not_not.mp started,
        hasTarget, hnext, nextRetryAt_isSome settings hnext, rfl⟩
    · cases foundAttempt

/-- The operations that the bridge issues: a bare queue transition only ever moves a
queued or retried event to DEAD. -/
def StoreOp.Issued : StoreOp → Prop
  | .transitionEventQueueState _ expectedState targetState =>
      (expectedState = .queued ∨ expectedState = .retry) ∧ targetState = .dead
  | _ => True

def StoreOp.scope : StoreOp → EditScope
  | .synchronizeStartCommand _ | .closeLocalSession .. | .cancelLocalSession .. =>
      { sessions := True }
  | .ingestFinalActiveTagFrames .. => { adds := fun _ => True }
  | .getOrCreateEvent _ read => { adds := fun key => key = keptText (some 128) read.readerEventKey }
  | .completeDeliveryAttempt eventId attemptId outcome .. =>
      { closes := fun event attempt closed =>
          event = eventId ∧ attempt = attemptId ∧ closed = outcome }
  | _ => {}

/-- The only operation that opens an attempt. -/
def StoreOp.opensAttempt : StoreOp → Bool
  | .startDeliveryAttempt .. => true
  | _ => false

/-- The only operation that closes an attempt. -/
def StoreOp.closesAttempt : StoreOp → Bool
  | .completeDeliveryAttempt .. => true
  | _ => false

/-- Neither the selection of candidates nor a step of a delivery. -/
def StoreOp.isRoutine : StoreOp → Bool
  | .startDeliveryAttempt .. | .completeDeliveryAttempt .. | .selectCandidates .. => false
  | _ => true

/-- A step of a dead-letter pass. -/
def StoreOp.deadLetters : StoreOp → Bool
  | .transitionEventQueueState .. | .selectCancelled .. | .selectExhausted .. => true
  | _ => false

theorem StoreOp.isRoutine_of_deadLetters {op : StoreOp} (passes : op.deadLetters = true) :
    op.isRoutine = true := by
  cases op <;> first | rfl | cases passes

theorem StoreOp.closesAttempt_of_routine {op : StoreOp} (routine : op.isRoutine = true) :
    op.closesAttempt = false := by
  cases op <;> first | rfl | cases routine

namespace Edit
variable {scope : EditScope} {utf8 : Utf8}

theorem edits_of_synchronizeStartCommand {command : OdooRFIDCommand} {db db' : Database}
    {result : SessionSyncResult} (may : scope.sessions)
    (h : synchronizeStartCommand utf8 command db = .ok (result, db')) :
    Edits scope db db' := by
  obtain ⟨reader, operation, found, compatible, ⟨_, -, -, -, rfl⟩ | ⟨fresh, free, short, rfl⟩⟩ :=
    synchronizeStartCommand_eq_ok h
  · exact .refl
  · refine .single (.openSession _ _ reader command.operation ?_ ?_ ?_ ?_ ?_ ⟨_, found⟩ ?_
      fresh free may)
    · exact fun _ => ⟨rfl, rfl⟩
    · exact fun _ => rfl
    · exact command.sessionKey_clean
    · exact short
    · exact fun _ => rfl
    · exact fun _ => compatible

theorem edits_of_finishLocalSession {target : SessionStatus} {verb sessionKey readerCode : String}
    {now : Timestamp} {db db' : Database} {session : RFIDSession} (closes : target ≠ .active)
    (may : scope.sessions)
    (h : finishLocalSession utf8 target verb sessionKey readerCode now db = .ok (session, db')) :
    Edits scope db db' := by
  obtain ⟨-, found, matched, -, ⟨-, -, rfl⟩ | ⟨active, -, rfl⟩⟩ := finishLocalSession_eq_ok h
  · exact .refl
  · exact .single (.finishSession found target now (List.mem_of_find?_eq_some matched)
      active closes may)

theorem edits_of_getOrCreateEvent {device : ReaderDevice} {read : TechnicalRFIDRead}
    {now : Timestamp} {db db' : Database} {event : RawRFIDEvent} {created : Bool}
    (may : scope.adds (keptText (some 128) read.readerEventKey))
    (h : getOrCreateEvent utf8 device read now db = .ok ((event, created), db')) :
    Edits scope db db' := by
  obtain ⟨-, -, rfl⟩ | ⟨fresh, -, -, -, -, rfl⟩ := getOrCreateEvent_eq_ok h
  · exact .refl
  · exact .single (.addEvent _ _ device.id (keptText (some 128) read.readerEventKey)
      (fun _ => ⟨rfl, rfl⟩) (fun _ => ⟨rfl, rfl⟩) fresh may)

theorem edits_of_ingestLoop {device : ReaderDevice} {now : Timestamp}
    {reads : List TechnicalRFIDRead} {db db' : Database} {ids : List Nat}
    (may : ∀ key, scope.adds key) (h : ingestLoop utf8 device now reads db = .ok (ids, db')) :
    Edits scope db db' := by
  induction reads generalizing db ids with
  | nil =>
      cases h
      exact .refl
  | cons read reads ih =>
      simp only [ingestLoop, bind_eq_ok, Except.ok.injEq, Prod.mk.injEq] at h
      obtain ⟨⟨⟨event, created⟩, mid⟩, first, ⟨rest, last⟩, loop, -, rfl⟩ := h
      exact (edits_of_getOrCreateEvent (may _) first).trans (ih loop)

theorem edits_of_assignEvent {eventId : Nat} {db db' : Database}
    (h : assignEventToActiveSession eventId db = .ok db') : Edits scope db db' := by
  simp only [assignEventToActiveSession, bind_eq_ok, guard_eq_ok, Except.ok.injEq] at h
  obtain ⟨event, found, unassigned, fresh, session, active, _, compatible, _, _, rfl⟩ := h
  obtain ⟨member, rfl⟩ := Database.getEvent_eq_ok.mp found
  refine .single (.assignEvent event session member (Decidable.not_not.mp unassigned)
    (Decidable.not_not.mp fresh) ?_ compatible)
  simp only [getActiveSession] at active
  split at active
  · rename_i only
    cases active
    exact only ▸ List.mem_singleton_self _
  · cases active
  · cases active

theorem edits_of_assignmentCycle (eventIds : List Nat) (db : Database) :
    Edits scope db (runActiveSessionAssignmentCycle eventIds db).2 := by
  induction eventIds generalizing db with
  | nil => exact .refl
  | cons eventId eventIds ih =>
      simp only [runActiveSessionAssignmentCycle]
      split
      · rename_i mid assigned
        exact (edits_of_assignEvent assigned).trans (ih mid)
      · exact ih db
      · exact ih db

theorem edits_of_ingestFinal {sha : Sha256} {device : ReaderDevice} {sessionKey : String}
    {frames : List RFIDFrame} {now : Timestamp} {db db' : Database}
    {result : FinalTagIngestionResult} (may : ∀ key, scope.adds key)
    (h : ingestFinalActiveTagFrames sha device sessionKey frames now db = .ok (result, db')) :
    Edits scope db db' := by
  simp only [ingestFinalActiveTagFrames, ingestTechnicalReads, bind_eq_ok, guard_eq_ok,
    Except.ok.injEq, Prod.mk.injEq] at h
  obtain ⟨key, _, _, session, _, reads, _, ⟨ingestion, mid⟩, ⟨_, ⟨ids, last⟩, loop, rfl, rfl⟩,
    _, _, _, _, -, rfl⟩ := h
  exact (edits_of_ingestLoop may loop).trans (edits_of_assignmentCycle ids last)

theorem edits_of_completeDeliveryAttempt {eventId attemptId : Nat} {outcome : Outcome}
    {responseCode errorKind detail : String} {initial maximum : Option Int} {now : Timestamp}
    {db db' : Database} {result : DeliveryAttemptCompletionResult}
    (may : scope.closes eventId attemptId outcome)
    (h : completeDeliveryAttempt utf8 eventId attemptId outcome responseCode errorKind detail
      initial maximum now db = .ok (result, db')) : Edits scope db db' := by
  obtain ⟨event, member, attempt, memberAttempt, target, next, rfl, inflight, rfl, mine, started,
    hasTarget, -, scheduled, rfl⟩ := completeDeliveryAttempt_eq_ok h
  exact .single (.completeAttempt event attempt outcome target _ _ detail now next member
    inflight memberAttempt mine started hasTarget scheduled may)

theorem edits_of_deadLetter {eventId : Nat} {expectedState : QueueState} {db db' : Database}
    {result : QueueTransitionResult} (waiting : expectedState = .queued ∨ expectedState = .retry)
    (h : transitionEventQueueState eventId expectedState .dead db = .ok (result, db')) :
    Edits scope db db' := by
  simp only [transitionEventQueueState, bind_eq_ok, guard_eq_ok, Except.ok.injEq,
    Prod.mk.injEq] at h
  obtain ⟨event, found, same, _, -, -, rfl⟩ := h
  obtain ⟨member, rfl⟩ := Database.getEvent_eq_ok.mp found
  exact .single (.deadLetter event member (Decidable.not_not.mp same ▸ waiting))

end Edit

/-- Every committed transaction that opens no attempt is a sequence of edits. -/
theorem StoreOp.run_edits {sha : Sha256} {now : Timestamp} {db db' : Database} {op : StoreOp}
    {answer : op.Answer} (issued : op.Issued) (quiet : op.opensAttempt = false)
    (h : op.run sha now db = .ok (answer, db')) : Edits op.scope db db' := by
  cases op with
  | synchronizeStartCommand _ => exact Edit.edits_of_synchronizeStartCommand trivial h
  | closeLocalSession _ _ =>
      simp only [StoreOp.run, RfidBridge.closeLocalSession, guard_eq_ok] at h
      exact Edit.edits_of_finishLocalSession (by decide) trivial h.2
  | cancelLocalSession _ _ =>
      have cancels : SessionStatus.cancelled ≠ .active := by decide
      exact Edit.edits_of_finishLocalSession cancels trivial h
  | ingestFinalActiveTagFrames _ _ _ => exact Edit.edits_of_ingestFinal (fun _ => trivial) h
  | getOrCreateEvent _ _ => exact Edit.edits_of_getOrCreateEvent rfl h
  | assignEventToActiveSession eventId =>
      simp only [StoreOp.run] at h
      cases assigned : RfidBridge.assignEventToActiveSession eventId db with
      | error _ => simp [assigned, Except.map] at h
      | ok mid =>
          simp only [assigned, Except.map, Except.ok.injEq, Prod.mk.injEq] at h
          exact h.2 ▸ Edit.edits_of_assignEvent assigned
  | startDeliveryAttempt _ _ _ => cases quiet
  | completeDeliveryAttempt _ _ _ _ _ _ _ _ =>
      exact Edit.edits_of_completeDeliveryAttempt ⟨rfl, rfl, rfl⟩ h
  | transitionEventQueueState _ _ _ =>
      obtain ⟨waiting, rfl⟩ := issued
      exact Edit.edits_of_deadLetter waiting h
  | countActiveSessions _ | selectCancelled _ | selectExhausted _ _ | selectCandidates _ _
  | finalQueueStates _ _ =>
      cases h
      exact .refl

/-- The rule for relations between the databases before and after an operation. -/
theorem StoreOp.run_relation {T : Database → Database → Prop} (refl : ∀ db, T db db)
    (trans : ∀ {db₁ db₂ db₃}, T db₁ db₂ → T db₂ db₃ → T db₁ db₃) {op : StoreOp}
    (edit : ∀ {db db'}, Edit op.scope db db' → T db db')
    (opened : ∀ {db : Database} {event now}, event ∈ db.events.rows →
      event.queueState = .queued ∨ event.queueState = .retry →
      T db (db.openAttempt event.id now))
    {sha : Sha256} {now : Timestamp} {db db' : Database} {answer : op.Answer}
    (issued : op.Issued) (h : op.run sha now db = .ok (answer, db')) : T db db' := by
  by_cases quiet : op.opensAttempt = false
  · have edits := op.run_edits issued quiet h
    clear h
    induction edits with
    | refl => exact refl db
    | tail _ step ih => exact trans ih (edit step)
  · cases op with
    | startDeliveryAttempt _ _ _ =>
        obtain ⟨⟨event, member, rfl, -, startable⟩, -, -, -, rfl⟩ := startDeliveryAttempt_eq_ok h
        exact opened member startable
    | _ => exact absurd rfl quiet

/-- The rule for invariants of the database. -/
theorem StoreOp.run_invariant {I : Database → Prop} {op : StoreOp}
    (edit : ∀ {db db'}, Edit op.scope db db' → I db → I db')
    (opened : ∀ {db : Database} {event now}, event ∈ db.events.rows →
      event.queueState = .queued ∨ event.queueState = .retry → I db →
      I (db.openAttempt event.id now))
    {sha : Sha256} {now : Timestamp} {db db' : Database} {answer : op.Answer}
    (issued : op.Issued) (h : op.run sha now db = .ok (answer, db')) : I db → I db' :=
  StoreOp.run_relation (T := fun db db' => I db → I db') (fun _ => id)
    (fun first second inv => second (first inv)) edit opened issued h

theorem Edit.sessions_eq {scope : EditScope} {db db' : Database} (outside : ¬ scope.sessions)
    (h : Edit scope db db') :
    db'.sessions = db.sessions := by
  cases h with
  | openSession row keyed reader operation fresh key clean fits device enabled compatible absent
      free may => exact absurd may outside
  | finishSession session status now member active closes may => exact absurd may outside
  | _ => rfl

theorem sessions_run {sha : Sha256} {now : Timestamp} {db db' : Database} {op : StoreOp}
    {answer : op.Answer}
    (issued : op.Issued) (outside : ¬ op.scope.sessions)
    (h : op.run sha now db = .ok (answer, db')) : db'.sessions = db.sessions :=
  StoreOp.run_relation (T := fun db db' => db'.sessions = db.sessions) (fun _ => rfl)
    (fun first second => second.trans first) (Edit.sessions_eq outside) (fun _ _ => rfl) issued h

end RfidBridge
