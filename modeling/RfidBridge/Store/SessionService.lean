import RfidBridge.Runtime.Command

/-!
final_session_service.py: the local session of an Odoo command. Every function
is one transaction on the session table.
-/

namespace RfidBridge

structure SessionSyncResult where
  session : RFIDSession
  created : Bool
  reused : Bool
  deriving DecidableEq, Repr

def operationByRole : Role → Option OperationType
  | .receiving => some .receipt
  | .dispatch => some .dispatch
  | .other _ => none

/-- The operation of a new session: the requested one on a shared reader, else
the one of the reader's role, which the request must match. -/
def operationForReader (reader : ReaderDevice) (requestedOperation : Option OperationType) :
    Except PyException OperationType :=
  match operationByRole reader.role, requestedOperation with
  | none, _ => raised .finalSessionError s!"Unsupported RFID reader role: '{reader.role.value}'"
  | some roleOperation, none => .ok roleOperation
  | some roleOperation, some requested =>
      if reader.sharedOperations then .ok requested
      else if requested ≠ roleOperation then
        raised .finalSessionError ("Requested RFID session operation does not match " ++
          "the dedicated reader role.")
      else .ok roleOperation

namespace Database

def deviceOf (db : Database) (deviceId : Nat) : Option ReaderDevice :=
  db.devices.find? fun device => device.id == deviceId

def enabledReader (db : Database) (code : String) : Option ReaderDevice :=
  db.devices.find? fun device => device.code == code && device.enabled

def sessionByKey (db : Database) (key : String) : Option RFIDSession :=
  db.sessions.rows.find? fun s => s.externalSessionKey == key

/-- The ACTIVE sessions of a reader; the partial unique constraint allows one. -/
def activeSessions (db : Database) (deviceId : Nat) : List RFIDSession :=
  db.sessions.rows.filter fun s => s.deviceId == deviceId && s.status == .active

def setStatus (db : Database) (sessionId : Nat) (status : SessionStatus) (now : Timestamp) :
    Database :=
  { db with sessions := db.sessions.update sessionId fun s =>
      { s with status, closedAt := some now } }

theorem mem_setStatus (db : Database) (sessionId : Nat) (status : SessionStatus) (now : Timestamp)
    (s : RFIDSession) : s ∈ (db.setStatus sessionId status now).sessions.rows ↔
      (s ∈ db.sessions.rows ∧ s.id ≠ sessionId) ∨
      ∃ old ∈ db.sessions.rows, old.id = sessionId ∧
        s = { old with status, closedAt := some now } :=
  Table.mem_update db.sessions sessionId (fun s => { s with status, closedAt := some now })
    (fun _ => rfl) s

end Database

/-- The session of a START command. A created session is returned as it is stored. -/
def synchronizeStartCommand (utf8 : Utf8) (command : OdooRFIDCommand) (db : Database) :
    Except PyException (SessionSyncResult × Database) :=
  if command.command ≠ .start then
    raised .finalSessionError "Only a START command may create/synchronize a local session."
  else do
    sendText utf8 command.readerCode
    match db.enabledReader command.readerCode with
    | none =>
        raised .finalSessionError s!"Enabled RFID reader not found: {command.readerCode}"
    | some reader => do
        let operation ← operationForReader reader command.operation
        sendText utf8 command.sessionKey
        match db.sessionByKey command.sessionKey with
        | some existing =>
            if existing.deviceId ≠ reader.id then
              raised .finalSessionError "Existing local session belongs to a different reader."
            else if existing.operationType ≠ operation then
              raised .finalSessionError ("Existing local session operation does not match " ++
                "the requested operation.")
            else if existing.status ≠ .active then
              raised .finalSessionError
                "Odoo attempted to restart a locally closed/cancelled session."
            else
              .ok (⟨existing, false, true⟩, db)
        | none =>
            if db.activeSessions reader.id ≠ [] then
              raised .finalSessionError
                "Reader already has a different active local RFID session."
            else do
              let sessionKey ← columnText utf8 (some 128) command.sessionKey
              let picking ← columnText utf8 (some 128) command.picking
              let row (id : Nat) : RFIDSession := {
                id
                externalSessionKey := sessionKey
                deviceId := reader.id
                operationType := operation
                odooRecordId := 0
                odooReference := picking }
              .ok (⟨row db.sessions.nextKey, true, false⟩,
                { db with sessions := db.sessions.insert row })

/-- The row of the session that a START creates. -/
def OdooRFIDCommand.sessionRow (command : OdooRFIDCommand) (reader : ReaderDevice)
    (operation : OperationType) (id : Nat) : RFIDSession where
  id
  externalSessionKey := command.sessionKey
  deviceId := reader.id
  operationType := operation
  odooRecordId := 0
  odooReference := keptText (some 128) command.picking

/-- A START that returns has found the active session of its key on the reader, or has
created it where there was none of the key and no active one. -/
theorem synchronizeStartCommand_eq_ok {utf8 : Utf8} {command : OdooRFIDCommand}
    {result : SessionSyncResult} {db db' : Database}
    (h : synchronizeStartCommand utf8 command db = .ok (result, db')) :
    ∃ reader operation, db.enabledReader command.readerCode = some reader ∧
      operationForReader reader command.operation = .ok operation ∧
      ((∃ existing, db.sessionByKey command.sessionKey = some existing ∧
          existing.deviceId = reader.id ∧ existing.status = .active ∧ db' = db) ∨
        db.sessionByKey command.sessionKey = none ∧ db.activeSessions reader.id = [] ∧
          command.sessionKey.toList.length ≤ 128 ∧
          db' = { db with
            sessions := db.sessions.insert (command.sessionRow reader operation) }) := by
  simp only [synchronizeStartCommand, guard_eq_ok, bind_eq_ok] at h
  obtain ⟨-, _, -, h⟩ := h
  split at h
  · cases h
  · rename_i reader found
    simp only [bind_eq_ok] at h
    obtain ⟨operation, compatible, _, -, h⟩ := h
    refine ⟨reader, operation, found, compatible, ?_⟩
    split at h
    · rename_i existing located
      simp only [guard_eq_ok, Except.ok.injEq, Prod.mk.injEq, not_not] at h
      obtain ⟨mine, -, active, -, rfl⟩ := h
      exact .inl ⟨existing, located, mine, active, rfl⟩
    · rename_i fresh
      simp only [guard_eq_ok, bind_eq_ok, columnText_eq_ok, Except.ok.injEq, Prod.mk.injEq,
        not_not] at h
      obtain ⟨free, _, ⟨fits, rfl⟩, _, ⟨-, rfl⟩, -, rfl⟩ := h
      have short := short_of_stripped command.sessionKey_clean.1 fits
      simp only [keptText_of_short short]
      exact .inr ⟨fresh, free, short, rfl⟩

/-- The common body of close_local_session and cancel_local_session. -/
def finishLocalSession (utf8 : Utf8) (target : SessionStatus) (verb sessionKey readerCode : String)
    (now : Timestamp) (db : Database) : Except PyException (RFIDSession × Database) := do
  sendText utf8 (strip sessionKey)
  match db.sessionByKey (strip sessionKey) with
  | none => raised .finalSessionError "Local RFID session does not exist."
  | some session =>
      if (db.deviceOf session.deviceId).map (·.code) ≠ some (strip readerCode) then
        raised .finalSessionError "Local session reader identity mismatch."
      else if session.status = target then
        .ok (session, db)
      else if session.status ≠ .active then
        raised .finalSessionError s!"Cannot {verb} session in status '{session.status.value}'."
      else
        .ok ({ session with status := target, closedAt := some now },
          db.setStatus session.id target now)

/-- A finishing call returns the finished session that its arguments name, and writes it
only when it was active. -/
theorem finishLocalSession_eq_ok {utf8 : Utf8} {target : SessionStatus}
    {verb sessionKey readerCode : String} {now : Timestamp} {db db' : Database}
    {session : RFIDSession}
    (h : finishLocalSession utf8 target verb sessionKey readerCode now db = .ok (session, db')) :
    sendText utf8 (strip sessionKey) = .ok () ∧ ∃ found,
      db.sessionByKey (strip sessionKey) = some found ∧
      (db.deviceOf found.deviceId).map (·.code) = some (strip readerCode) ∧
      (found.status = target ∧ session = found ∧ db' = db ∨
        found.status = .active ∧
          session = { found with status := target, closedAt := some now } ∧
          db' = db.setStatus found.id target now) := by
  simp only [finishLocalSession, bind_eq_ok] at h
  obtain ⟨_, sent, h⟩ := h
  refine ⟨sent, ?_⟩
  split at h
  · cases h
  · rename_i found located
    simp only [guard_eq_ok, not_not] at h
    obtain ⟨reader, h⟩ := h
    refine ⟨found, located, reader, ?_⟩
    split at h
    · rename_i already
      cases h
      exact .inl ⟨already, rfl, rfl⟩
    · simp only [guard_eq_ok, not_not, Except.ok.injEq, Prod.mk.injEq] at h
      obtain ⟨active, rfl, rfl⟩ := h
      exact .inr ⟨active, rfl, rfl⟩

def closeLocalSession (utf8 : Utf8) (sessionKey readerCode : String) (now : Timestamp)
    (db : Database) : Except PyException (RFIDSession × Database) :=
  if strip sessionKey = "" ∨ strip readerCode = "" then
    raised .finalSessionError "session_key and reader_code are required."
  else
    finishLocalSession utf8 .closed "close" sessionKey readerCode now db

def cancelLocalSession (utf8 : Utf8) (sessionKey readerCode : String) (now : Timestamp)
    (db : Database) : Except PyException (RFIDSession × Database) :=
  finishLocalSession utf8 .cancelled "cancel" sessionKey readerCode now db

end RfidBridge
