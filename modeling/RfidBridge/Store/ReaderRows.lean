import RfidBridge.Store.FinalIngestion

/-!
The rows of one reader: its sessions, its events and the attempts on these. A transaction
that is for another reader, or for an event of another, leaves all of them as they are.
-/

namespace RfidBridge
open Database

@[ext] structure ReaderRows where
  sessions : List RFIDSession
  events : List RawRFIDEvent
  attempts : List DeliveryAttempt

def Database.rowsOf (db : Database) (deviceId : Nat) : ReaderRows :=
  let events := db.events.rows.filter fun e => e.deviceId == deviceId
  { sessions := db.sessions.rows.filter fun s => s.deviceId == deviceId
    events
    attempts := db.attempts.rows.filter fun a => events.any fun e => e.id == a.eventId }

/-- None of these rows is the event. -/
def ReaderRows.Lacks (rows : ReaderRows) (eventId : Nat) : Prop :=
  ∀ e ∈ rows.events, e.id ≠ eventId

/-- The operation is for another reader, or for none. -/
def StoreOp.Avoids (device : ReaderDevice) (rows : ReaderRows) : StoreOp → Prop
  | .synchronizeStartCommand command => command.readerCode ≠ device.code
  | .closeLocalSession _ readerCode | .cancelLocalSession _ readerCode =>
      strip readerCode ≠ device.code
  | .ingestFinalActiveTagFrames owner .. | .getOrCreateEvent owner _ => owner.id ≠ device.id
  | .assignEventToActiveSession eventId | .startDeliveryAttempt eventId ..
  | .completeDeliveryAttempt eventId .. | .transitionEventQueueState eventId .. =>
      rows.Lacks eventId
  | _ => True

section
variable {db db' : Database} {deviceId : Nat}

theorem lacks_iff {eventId : Nat} : (db.rowsOf deviceId).Lacks eventId ↔
    ∀ e ∈ db.events.rows, e.id = eventId → e.deviceId ≠ deviceId := by
  simp only [ReaderRows.Lacks, rowsOf, List.mem_filter, beq_iff_eq]
  exact ⟨fun h e member same onReader => h e ⟨member, onReader⟩ same,
    fun h e member same => h e member.1 same member.2⟩

/-- An event that the reader does not have is on no attempt of the reader. -/
theorem any_events_of_lacks {eventId : Nat} (lacks : (db.rowsOf deviceId).Lacks eventId) :
    ((db.rowsOf deviceId).events.any fun e => e.id == eventId) = false := by
  simpa [ReaderRows.Lacks] using lacks

/-- The three tables, one after the other. -/
theorem rowsOf_eq
    (sessions : (db'.rowsOf deviceId).sessions = (db.rowsOf deviceId).sessions)
    (events : (db'.rowsOf deviceId).events = (db.rowsOf deviceId).events)
    (attempts : db'.attempts.rows.filter (fun a =>
        (db.rowsOf deviceId).events.any fun e => e.id == a.eventId) =
      (db.rowsOf deviceId).attempts) : db'.rowsOf deviceId = db.rowsOf deviceId := by
  ext1
  · exact sessions
  · exact events
  · rw [← attempts, ← events]
    rfl

theorem rowsOf_sessions {t : Table RFIDSession}
    (same : t.rows.filter (fun s => s.deviceId == deviceId) =
      db.sessions.rows.filter fun s => s.deviceId == deviceId) :
    ({ db with sessions := t } : Database).rowsOf deviceId = db.rowsOf deviceId :=
  rowsOf_eq same rfl rfl

theorem rowsOf_events {t : Table RawRFIDEvent}
    (same : t.rows.filter (fun e => e.deviceId == deviceId) =
      db.events.rows.filter fun e => e.deviceId == deviceId) :
    ({ db with events := t } : Database).rowsOf deviceId = db.rowsOf deviceId :=
  rowsOf_eq rfl same rfl

/-- A change of an event that the reader does not have. -/
theorem rowsOf_update {eventId : Nat} (change : RawRFIDEvent → RawRFIDEvent)
    (keeps : ∀ e, Keyed.key (change e) = Keyed.key e)
    (device : ∀ e, (change e).deviceId = e.deviceId)
    (lacks : (db.rowsOf deviceId).Lacks eventId) :
    ({ db with events := db.events.update eventId change keeps } : Database).rowsOf deviceId =
      db.rowsOf deviceId := by
  apply rowsOf_events
  apply Table.filter_update_of_ne
  intro e member same
  have other := lacks_iff.mp lacks e member same
  simp [device, other]

theorem rowsOf_setQueueState {eventId : Nat} {state : QueueState}
    (lacks : (db.rowsOf deviceId).Lacks eventId) :
    (db.setQueueState eventId state).rowsOf deviceId = db.rowsOf deviceId :=
  rowsOf_update (fun e => { e with queueState := state }) (fun _ => rfl) (fun _ => rfl) lacks

theorem rowsOf_openAttempt {eventId : Nat} {now : Timestamp}
    (lacks : (db.rowsOf deviceId).Lacks eventId) :
    (db.openAttempt eventId now).rowsOf deviceId = db.rowsOf deviceId := by
  have moved : (db.setQueueState eventId .inflight).rowsOf deviceId = db.rowsOf deviceId :=
    rowsOf_setQueueState lacks
  rw [← moved] at lacks ⊢
  refine rowsOf_eq rfl rfl ?_
  exact Table.filter_insert_of_not _ _ _ _ (any_events_of_lacks lacks)

theorem rowsOf_closeAttempt {eventId : Nat} {state : QueueState} {attempt : DeliveryAttempt}
    (change : DeliveryAttempt → DeliveryAttempt) (keeps : ∀ a, Keyed.key (change a) = Keyed.key a)
    (event : ∀ a, (change a).eventId = a.eventId) (row : attempt ∈ db.attempts.rows)
    (owns : attempt.eventId = eventId) (lacks : (db.rowsOf deviceId).Lacks eventId) :
    ({ db.setQueueState eventId state with
      attempts := db.attempts.update attempt.id change keeps } : Database).rowsOf deviceId =
        db.rowsOf deviceId := by
  have moved : (db.setQueueState eventId state).rowsOf deviceId = db.rowsOf deviceId :=
    rowsOf_setQueueState lacks
  have events := congrArg ReaderRows.events moved
  refine rowsOf_eq rfl events (Table.filter_update_of_ne _ _ _ keeps _ ?_)
  intro a member same
  obtain rfl := db.attempts.eq_of_key_eq member row same
  rw [event, owns]
  exact ⟨any_events_of_lacks lacks, any_events_of_lacks lacks⟩

end

section
variable {db db' : Database} {device : ReaderDevice} {now : Timestamp} {utf8 : Utf8}

/-- A reader that a code leads to is not the reader of another code. -/
theorem id_ne_of_enabledReader {code : String} {reader : ReaderDevice}
    (ids : (db.devices.map (·.id)).Nodup) (known : db.deviceOf device.id = some device)
    (found : db.enabledReader code = some reader) (other : code ≠ device.code) :
    reader.id ≠ device.id := by
  intro same
  obtain ⟨located, -, named⟩ := deviceOf_of_enabledReader ids found
  rw [same, known] at located
  cases located
  exact other named.symm

theorem rowsOf_synchronizeStartCommand {command : OdooRFIDCommand} {result : SessionSyncResult}
    (ids : (db.devices.map (·.id)).Nodup) (known : db.deviceOf device.id = some device)
    (other : command.readerCode ≠ device.code)
    (h : synchronizeStartCommand utf8 command db = .ok (result, db')) :
    db'.rowsOf device.id = db.rowsOf device.id := by
  obtain ⟨reader, operation, found, -, ⟨_, -, -, -, rfl⟩ | ⟨-, -, -, rfl⟩⟩ :=
    synchronizeStartCommand_eq_ok h
  · rfl
  · have apart := id_ne_of_enabledReader ids known found other
    exact rowsOf_sessions (Table.filter_insert_of_not _ _ _ _
      (by simpa [OdooRFIDCommand.sessionRow] using apart))

theorem rowsOf_finishLocalSession {target : SessionStatus} {verb sessionKey readerCode : String}
    {result : RFIDSession} (known : db.deviceOf device.id = some device)
    (other : strip readerCode ≠ device.code)
    (h : finishLocalSession utf8 target verb sessionKey readerCode now db = .ok (result, db')) :
    db'.rowsOf device.id = db.rowsOf device.id := by
  obtain ⟨-, session, found, mine, ⟨-, -, rfl⟩ | ⟨-, -, rfl⟩⟩ := finishLocalSession_eq_ok h
  · rfl
  · have apart : session.deviceId ≠ device.id := by
      intro same
      rw [same, known] at mine
      have named : device.code = strip readerCode := by simpa using mine
      exact other named.symm
    apply rowsOf_sessions
    apply Table.filter_update_of_ne
    intro s member same
    obtain rfl := db.sessions.eq_of_key_eq member (List.mem_of_find?_eq_some found) same
    simpa using apart

theorem rowsOf_getOrCreateEvent {owner : ReaderDevice} {read : TechnicalRFIDRead}
    {event : RawRFIDEvent} {created : Bool} (other : owner.id ≠ device.id)
    (h : getOrCreateEvent utf8 owner read now db = .ok ((event, created), db')) :
    db'.rowsOf device.id = db.rowsOf device.id := by
  obtain ⟨-, -, rfl⟩ | ⟨-, -, -, -, -, rfl⟩ := getOrCreateEvent_eq_ok h
  · rfl
  · exact rowsOf_events (Table.filter_insert_of_not _ _ _ _ (by simpa [newEvent] using other))

/-- Final ingestion adds events of its own reader and changes no other. -/
theorem rowsOf_ingestFinal {sha : Sha256} {since : Nat} {owner : ReaderDevice} {sessionKey : String}
    {frames : List RFIDFrame} {result : FinalTagIngestionResult} (keys : StoreKeys since db)
    (other : owner.id ≠ device.id)
    (h : ingestFinalActiveTagFrames sha owner sessionKey frames now db = .ok (result, db')) :
    db'.rowsOf device.id = db.rowsOf device.id := by
  obtain ⟨session, -, -, reads, created, -, ingested, -⟩ := ingestFinal_eq_ok keys h
  rw [ingested.others]
  apply rowsOf_events
  have none : created.filter (fun e => e.deviceId == device.id) = [] := by
    refine List.filter_eq_nil_iff.mpr fun e member => ?_
    have onReader := (ingested.each e member).onReader
    simpa [onReader] using other
  rw [ingested.rows, List.filter_append, none, List.append_nil]

theorem rowsOf_assignEvent {eventId : Nat} (lacks : (db.rowsOf device.id).Lacks eventId)
    (h : assignEventToActiveSession eventId db = .ok db') :
    db'.rowsOf device.id = db.rowsOf device.id := by
  simp only [assignEventToActiveSession, bind_eq_ok, guard_eq_ok, Except.ok.injEq] at h
  obtain ⟨event, -, -, -, session, -, _, -, _, -, rfl⟩ := h
  exact rowsOf_update (fun e => { e with rfidSessionId := some session.id, queueState := .queued })
    (fun _ => rfl) (fun _ => rfl) lacks

/-- A transaction for others leaves the rows of the reader alone. -/
theorem rowsOf_run {sha : Sha256} {since : Nat} {op : StoreOp} {answer : op.Answer}
    (keys : StoreKeys since db) (known : db.deviceOf device.id = some device)
    (avoids : op.Avoids device (db.rowsOf device.id))
    (ran : op.run sha now db = .ok (answer, db')) :
    db'.rowsOf device.id = db.rowsOf device.id := by
  cases op with
  | synchronizeStartCommand _ =>
      exact rowsOf_synchronizeStartCommand keys.devices known avoids ran
  | closeLocalSession _ _ =>
      simp only [StoreOp.run, RfidBridge.closeLocalSession, guard_eq_ok] at ran
      exact rowsOf_finishLocalSession known avoids ran.2
  | cancelLocalSession _ _ => exact rowsOf_finishLocalSession known avoids ran
  | ingestFinalActiveTagFrames _ _ _ => exact rowsOf_ingestFinal keys avoids ran
  | getOrCreateEvent _ _ => exact rowsOf_getOrCreateEvent avoids ran
  | assignEventToActiveSession eventId =>
      simp only [StoreOp.run] at ran
      cases assigned : RfidBridge.assignEventToActiveSession eventId db with
      | error _ => simp [assigned, Except.map] at ran
      | ok mid =>
          simp only [assigned, Except.map, Except.ok.injEq, Prod.mk.injEq] at ran
          exact ran.2 ▸ rowsOf_assignEvent avoids assigned
  | startDeliveryAttempt eventId _ _ =>
      obtain ⟨-, -, -, -, rfl⟩ := startDeliveryAttempt_eq_ok ran
      exact rowsOf_openAttempt avoids
  | completeDeliveryAttempt eventId attemptId outcome _ _ _ _ _ =>
      obtain ⟨event, -, attempt, row, target, next, rfl, -, -, owns, -, -, -, -, rfl⟩ :=
        completeDeliveryAttempt_eq_ok ran
      exact rowsOf_closeAttempt (closeAttempt outcome _ _ _ now next) (fun _ => rfl)
        (fun _ => rfl) row owns avoids
  | transitionEventQueueState eventId _ _ =>
      simp only [StoreOp.run, RfidBridge.transitionEventQueueState, bind_eq_ok, guard_eq_ok,
        Except.ok.injEq, Prod.mk.injEq] at ran
      obtain ⟨event, -, -, _, -, -, rfl⟩ := ran
      exact rowsOf_setQueueState avoids
  | countActiveSessions _ | selectCancelled _ | selectExhausted _ _ | selectCandidates _ _
  | finalQueueStates _ _ =>
      cases ran
      rfl

end
end RfidBridge
