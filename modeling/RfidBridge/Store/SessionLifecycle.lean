import RfidBridge.Store.Constraints
import Mathlib.Logic.Relation

/-!
The session table under all its writers: the three functions of
final_session_service.py and the command create_test_rfid_session, run by different
processes in any order. A finishing call holds the row lock of its session from the
lookup to the commit, so it is one step. The two creating calls cannot lock a row that
does not exist yet: their lookups and their INSERT are steps of their own, and other
calls may come in between.
-/

namespace RfidBridge
open Database

/-- `OdooRFIDCommand(...)` as any caller may build it; only from_payload checks the fields. -/
structure StartArguments where
  command : RuntimeCommand
  sessionKey : String
  readerCode : String
  picking : String := ""
  operation : Option String := none
  deriving DecidableEq, Repr

def OdooRFIDCommand.arguments (command : OdooRFIDCommand) : StartArguments :=
  ⟨command.command, command.sessionKey, command.readerCode, command.picking,
    command.operation.map (·.value)⟩

def OperationType.ofValue (value : String) : Option OperationType :=
  if value = "receipt" then some .receipt
  else if value = "dispatch" then some .dispatch
  else none

/-- `_operation_for_reader` on the text that was requested. -/
def operationForRequest (py : Builtins) (reader : ReaderDevice)
    (requestedOperation : Option String) :
    Except PyException OperationType := do
  let roleOperation ← operationForReader reader none
  let requested := strip (requestedOperation.getD "")
  if requested = "" then .ok roleOperation
  else
    match OperationType.ofValue requested with
    | none =>
        raised .finalSessionError s!"Unsupported RFID session operation: {py.reprText requested}"
    | some operation => operationForReader reader (some operation)

/-- The columns of a new session, before the sequence hands out its key. -/
structure NewSession where
  externalSessionKey : String
  deviceId : Nat
  operationType : OperationType
  odooRecordId : Int
  odooReference : String
  deriving DecidableEq, Repr

def NewSession.row (new : NewSession) (id : Nat) : RFIDSession where
  id
  externalSessionKey := new.externalSessionKey
  deviceId := new.deviceId
  operationType := new.operationType
  odooRecordId := new.odooRecordId
  odooReference := new.odooReference

/-- `RFIDSession.objects.create`: one INSERT under the column types, the check of a
PositiveBigIntegerField and the two unique constraints. -/
def createSession (utf8 : Utf8) (new : NewSession) (db : Database) :
    Except PyException (RFIDSession × Database) := do
  let externalSessionKey ← columnText utf8 (some 128) new.externalSessionKey
  let odooReference ← columnText utf8 (some 128) new.odooReference
  let new := { new with externalSessionKey, odooReference }
  if new.odooRecordId < -2 ^ 63 ∨ 2 ^ 63 ≤ new.odooRecordId then
    raised .dataError "bigint out of range"
  else if new.odooRecordId < 0 then
    raised .integrityError "new row violates a check constraint"
  else if db.sessionByKey new.externalSessionKey ≠ none then
    raised .integrityError "duplicate key value violates unique constraint"
  else if db.activeSessions new.deviceId ≠ [] then
    raised .integrityError ("duplicate key value violates unique constraint " ++
      "unique_active_rfid_session_per_device")
  else
    .ok (new.row db.sessions.nextKey, { db with sessions := db.sessions.insert new.row })

/-- What is left of a creating call: the lookup of a conflicting session and the INSERT,
or the INSERT alone. -/
inductive Pending
  | conflicting (new : NewSession)
  | inserting (new : NewSession)
  deriving DecidableEq, Repr

/-- A step of a call ends it, or leaves the rest of it. -/
inductive CallProgress
  | returns (session : Option RFIDSession) (db : Database)
  | continues (rest : Pending)

/-- synchronize_start_command up to the lookup by session key. -/
def locateStartSession (utf8 : Utf8) (py : Builtins) (arguments : StartArguments) (db : Database) :
    Except PyException CallProgress :=
  if arguments.command ≠ .start then
    raised .finalSessionError "Only a START command may create/synchronize a local session."
  else do
    sendText utf8 arguments.readerCode
    match db.enabledReader arguments.readerCode with
    | none =>
        raised .finalSessionError s!"Enabled RFID reader not found: {arguments.readerCode}"
    | some reader => do
        let operation ← operationForRequest py reader arguments.operation
        sendText utf8 arguments.sessionKey
        match db.sessionByKey arguments.sessionKey with
        | some existing =>
            if existing.deviceId ≠ reader.id then
              raised .finalSessionError "Existing local session belongs to a different reader."
            else if existing.operationType ≠ operation then
              raised .finalSessionError ("Existing local session operation does not match " ++
                "the requested operation.")
            else if existing.status ≠ .active then
              raised .finalSessionError
                "Odoo attempted to restart a locally closed/cancelled session."
            else
              .ok (.returns (some existing) db)
        | none =>
            .ok (.continues (.conflicting
              ⟨arguments.sessionKey, reader.id, operation, 0, arguments.picking⟩))

def operationFromDevice (device : ReaderDevice) : Except PyException OperationType :=
  match device.role with
  | .receiving => .ok .receipt
  | .dispatch => .ok .dispatch
  | .other _ => raised .commandError "Unsupported reader role for RFID session creation."

structure TestSessionOptions where
  deviceCode : String
  sessionKey : String
  odooRecordId : Int
  odooReference : String
  apply : Bool
  deriving DecidableEq, Repr

/-- `Command.handle` of create_test_rfid_session up to its INSERT. -/
def handleTestSession (utf8 : Utf8) (options : TestSessionOptions) (db : Database) :
    Except PyException CallProgress :=
  let deviceCode := strip options.deviceCode
  let sessionKey := strip options.sessionKey
  let odooReference := strip options.odooReference
  if deviceCode = "" then raised .commandError "--device-code cannot be empty."
  else if sessionKey = "" then raised .commandError "--session-key cannot be empty."
  else do
    sendText utf8 deviceCode
    match db.enabledReader deviceCode with
    | none => raised .commandError s!"Enabled reader device not found: {deviceCode}"
    | some device => do
        let operationType ← operationFromDevice device
        if !options.apply then .ok (.returns none db)
        else
          .ok (.continues (.inserting
            ⟨sessionKey, device.id, operationType, options.odooRecordId, odooReference⟩))

inductive SessionCall
  | synchronizeStartCommand (arguments : StartArguments)
  | closeLocalSession (sessionKey readerCode : String)
  | cancelLocalSession (sessionKey readerCode : String)
  | createTestRfidSession (options : TestSessionOptions)

def CallProgress.finished (done : RFIDSession × Database) : CallProgress :=
  .returns (some done.1) done.2

/-- The first step of a call. -/
def SessionCall.begin (utf8 : Utf8) (py : Builtins) (now : Timestamp) (db : Database) :
    SessionCall → Except PyException CallProgress
  | .synchronizeStartCommand arguments => locateStartSession utf8 py arguments db
  | .closeLocalSession sessionKey readerCode =>
      (RfidBridge.closeLocalSession utf8 sessionKey readerCode now db).map .finished
  | .cancelLocalSession sessionKey readerCode =>
      (RfidBridge.cancelLocalSession utf8 sessionKey readerCode now db).map .finished
  | .createTestRfidSession options => handleTestSession utf8 options db

/-- A later step of a creating call. -/
def Pending.resume (utf8 : Utf8) (db : Database) : Pending → Except PyException CallProgress
  | .conflicting new =>
      if db.activeSessions new.deviceId ≠ [] then
        raised .finalSessionError "Reader already has a different active local RFID session."
      else .ok (.continues (.inserting new))
  | .inserting new => (createSession utf8 new db).map .finished

/-- The rest of a call that nobody interrupts. -/
def CallProgress.next (utf8 : Utf8) (db : Database) : CallProgress → Except PyException CallProgress
  | .returns session db' => .ok (.returns session db')
  | .continues rest => rest.resume utf8 db

theorem OperationType.strip_value (operation : OperationType) :
    strip operation.value = operation.value ∧ operation.value ≠ "" ∧
      OperationType.ofValue operation.value = some operation := by
  cases operation <;> decide

/-- The text of an operation asks for that operation, and no text for the role's. -/
theorem operationForRequest_value (py : Builtins) (reader : ReaderDevice)
    (operation : Option OperationType) :
    operationForRequest py reader (operation.map (·.value)) =
      operationForReader reader operation := by
  cases role : operationByRole reader.role with
  | none => simp [operationForRequest, operationForReader, role, bind, Except.bind]
  | some roleOperation =>
      have default : operationForReader reader none = .ok roleOperation := by
        simp [operationForReader, role]
      cases operation with
      | none =>
          have blank : strip "" = "" := by decide
          simp [operationForRequest, default, blank, bind, Except.bind]
      | some operation =>
          obtain ⟨stripped, shown, named⟩ := operation.strip_value
          simp [operationForRequest, default, stripped, shown, named, bind, Except.bind]

/-- Uninterrupted, the steps of a START command are the one transaction of
synchronize_start_command, whose lookups leave the constraints nothing to refuse. -/
theorem synchronizeStartCommand_eq_steps (utf8 : Utf8) (py : Builtins) (command : OdooRFIDCommand)
    (db : Database) :
    (do
      let located ← locateStartSession utf8 py command.arguments db
      let checked ← located.next utf8 db
      checked.next utf8 db) =
    (synchronizeStartCommand utf8 command db).map fun done =>
      .returns (some done.1.session) done.2 := by
  simp only [locateStartSession, synchronizeStartCommand, OdooRFIDCommand.arguments,
    operationForRequest_value]
  split
  · rfl
  cases sendText utf8 command.readerCode with
  | error exc => rfl
  | ok _ =>
  cases db.enabledReader command.readerCode with
  | none => rfl
  | some reader =>
  dsimp only [bind, Except.bind]
  cases operationForReader reader command.operation with
  | error exc => rfl
  | ok operation =>
  dsimp only
  cases sendText utf8 command.sessionKey with
  | error exc => rfl
  | ok _ =>
  dsimp only
  cases located : db.sessionByKey command.sessionKey with
  | some existing =>
      dsimp only
      split_ifs <;> rfl
  | none =>
      simp only [CallProgress.next, Pending.resume]
      by_cases free : db.activeSessions reader.id = []
      · simp only [free, ne_eq, not_true_eq_false, if_false, createSession]
        cases kept : columnText utf8 (some 128) command.sessionKey with
        | error exc => rfl
        | ok sessionKey =>
            obtain ⟨fits, rfl⟩ := columnText_eq_ok.mp kept
            have short := short_of_stripped command.sessionKey_clean.1 fits
            cases columnText utf8 (some 128) command.picking with
            | error exc => rfl
            | ok _ =>
                simp only [keptText_of_short short]
                simp only [located, bind, Except.bind, Except.map, CallProgress.finished]
                rfl
      · simp [free, Except.map]

/-- The database and the calls that have still to write to it. -/
structure SessionState where
  db : Database
  pending : List Pending := []

/-- The state after a step of a call; an exception leaves nothing of the call. -/
def SessionState.after (state : SessionState) (others : List Pending) :
    Except PyException CallProgress → SessionState
  | .error _ => ⟨state.db, others⟩
  | .ok (.returns _ db) => ⟨db, others⟩
  | .ok (.continues rest) => ⟨state.db, rest :: others⟩

/-- One step of one call of some process, with its outcome. -/
inductive SessionState.Step (utf8 : Utf8) (py : Builtins) (state : SessionState) :
    Except PyException CallProgress → SessionState → Prop
  | begins (call : SessionCall) (now : Timestamp) :
      Step utf8 py state (call.begin utf8 py now state.db)
        (state.after state.pending (call.begin utf8 py now state.db))
  | resumes (rest : Pending) : rest ∈ state.pending →
      Step utf8 py state (rest.resume utf8 state.db)
        (state.after (state.pending.erase rest) (rest.resume utf8 state.db))

abbrev SessionSteps (utf8 : Utf8) (py : Builtins) : SessionState → SessionState → Prop :=
  Relation.ReflTransGen fun state next => ∃ outcome, state.Step utf8 py outcome next

/-- What a step does to the session table. -/
inductive SessionChange (db : Database) : Database → Prop
  | stays : SessionChange db db
  | creates (new : NewSession) :
      db.sessionByKey new.externalSessionKey = none → db.activeSessions new.deviceId = [] →
      SessionChange db { db with sessions := db.sessions.insert new.row }
  | finishes (session : RFIDSession) (status : SessionStatus) (now : Timestamp) :
      session ∈ db.sessions.rows → session.status = .active → status ≠ .active →
      SessionChange db (db.setStatus session.id status now)

/-- The columns of a session as they are stored. -/
def NewSession.kept (new : NewSession) : NewSession :=
  { new with
    externalSessionKey := keptText (some 128) new.externalSessionKey
    odooReference := keptText (some 128) new.odooReference }

theorem createSession_eq_ok {utf8 : Utf8} {new : NewSession} {db db' : Database}
    {session : RFIDSession} (h : createSession utf8 new db = .ok (session, db')) :
    fitsColumn utf8 (some 128) new.externalSessionKey = true ∧
      db.sessionByKey new.kept.externalSessionKey = none ∧ db.activeSessions new.deviceId = [] ∧
      db' = { db with sessions := db.sessions.insert new.kept.row } := by
  simp only [createSession, bind_eq_ok, guard_eq_ok, columnText_eq_ok, Except.ok.injEq,
    Prod.mk.injEq] at h
  obtain ⟨_, ⟨fits, rfl⟩, _, ⟨-, rfl⟩, -, -, fresh, free, -, rfl⟩ := h
  exact ⟨fits, not_not.mp fresh, not_not.mp free, rfl⟩

/-- The INSERT of a create_test_rfid_session that looked up its reader before. -/
def CreatesTestSession (utf8 : Utf8) (db db' : Database) : Prop :=
  ∃ (options : TestSessionOptions) (seen : Database) (new : NewSession) (session : RFIDSession),
    seen.devices = db.devices ∧
    handleTestSession utf8 options seen = .ok (.continues (.inserting new)) ∧
    createSession utf8 new db = .ok (session, db')

/-- It opens a session no different from those that a START opens. -/
theorem CreatesTestSession.edit {utf8 : Utf8} {db db' : Database}
    (h : CreatesTestSession utf8 db db') : Edit { sessions := True } db db' := by
  obtain ⟨options, seen, new, session, devices, located, created⟩ := h
  simp only [handleTestSession, guard_eq_ok, bind_eq_ok] at located
  obtain ⟨-, named, _, -, located⟩ := located
  split at located
  · cases located
  · rename_i device found
    obtain ⟨operation, role, located⟩ := bind_eq_ok.mp located
    split at located
    · cases located
    · have key : new.externalSessionKey = strip options.sessionKey := by cases located; rfl
      have onReader : new.deviceId = device.id := by cases located; rfl
      have typed : new.operationType = operation := by cases located; rfl
      obtain ⟨fits, fresh, free, rfl⟩ := createSession_eq_ok created
      have stripped : strip new.externalSessionKey = new.externalSessionKey := by
        rw [key, strip_strip]
      have short := short_of_stripped stripped fits
      have whole : new.kept.externalSessionKey = new.externalSessionKey :=
        keptText_of_short short
      have reader : db.enabledReader (strip options.deviceCode) = some device := by
        rw [enabledReader, ← devices]
        exact found
      have compatible : operationForReader device none = .ok operation := by
        cases kind : device.role <;> simp_all [operationFromDevice, operationForReader,
          operationByRole]
      refine .openSession new.kept.row (fun _ => rfl) device none (fun _ => ⟨rfl, rfl⟩)
        (fun _ => rfl) ?_ ?_ (fun _ => onReader) ⟨_, reader⟩
        (fun _ => compatible.trans (congrArg _ typed.symm)) fresh
        (onReader ▸ free) trivial
      · show Clean new.kept.externalSessionKey
        rw [whole, key]
        exact ⟨strip_strip _, named⟩
      · show new.kept.externalSessionKey.toList.length ≤ 128
        rw [whole]
        exact short

theorem SessionChange.of_finishLocalSession {utf8 : Utf8} {target : SessionStatus}
    {verb sessionKey readerCode : String} {now : Timestamp} {db db' : Database}
    {session : RFIDSession} (ends : target ≠ .active)
    (h : finishLocalSession utf8 target verb sessionKey readerCode now db = .ok (session, db')) :
    SessionChange db db' := by
  obtain ⟨-, found, located, -, ⟨-, -, rfl⟩ | ⟨active, -, rfl⟩⟩ := finishLocalSession_eq_ok h
  · exact .stays
  · exact .finishes found target now (List.mem_of_find?_eq_some located) active ends

/-- The lookups of a START write nothing. -/
theorem locateStartSession_returns {utf8 : Utf8} {py : Builtins} {arguments : StartArguments}
    {db db' : Database} {session : Option RFIDSession}
    (h : locateStartSession utf8 py arguments db = .ok (.returns session db')) : db' = db := by
  simp only [locateStartSession, guard_eq_ok, bind_eq_ok] at h
  obtain ⟨-, _, -, h⟩ := h
  split at h
  · cases h
  · simp only [bind_eq_ok] at h
    obtain ⟨_, -, _, -, h⟩ := h
    split at h
    · simp only [guard_eq_ok, Except.ok.injEq, CallProgress.returns.injEq] at h
      exact h.2.2.2.2.symm
    · cases h

/-- Nor does a dry run of the command. -/
theorem handleTestSession_returns {utf8 : Utf8} {options : TestSessionOptions}
    {db db' : Database} {session : Option RFIDSession}
    (h : handleTestSession utf8 options db = .ok (.returns session db')) : db' = db := by
  simp only [handleTestSession, guard_eq_ok, bind_eq_ok] at h
  obtain ⟨-, -, _, -, h⟩ := h
  split at h
  · cases h
  · obtain ⟨_, -, h⟩ := bind_eq_ok.mp h
    split at h
    · simp only [Except.ok.injEq, CallProgress.returns.injEq] at h
      exact h.2.symm
    · cases h

theorem SessionCall.change {utf8 : Utf8} {py : Builtins} {now : Timestamp} {db db' : Database}
    {call : SessionCall} {session : Option RFIDSession}
    (h : call.begin utf8 py now db = .ok (.returns session db')) : SessionChange db db' := by
  cases call with
  | synchronizeStartCommand arguments =>
      exact locateStartSession_returns h ▸ .stays
  | closeLocalSession sessionKey readerCode =>
      obtain ⟨done, closed, same⟩ := map_eq_ok.mp h
      cases same
      simp only [RfidBridge.closeLocalSession, guard_eq_ok] at closed
      exact .of_finishLocalSession (by decide) closed.2
  | cancelLocalSession sessionKey readerCode =>
      obtain ⟨done, cancelled, same⟩ := map_eq_ok.mp h
      cases same
      exact .of_finishLocalSession (by decide) cancelled
  | createTestRfidSession options =>
      exact handleTestSession_returns h ▸ .stays

theorem Pending.change {utf8 : Utf8} {db db' : Database} {rest : Pending}
    {session : Option RFIDSession} (h : rest.resume utf8 db = .ok (.returns session db')) :
    SessionChange db db' := by
  cases rest with
  | conflicting new =>
      simp only [Pending.resume, guard_eq_ok] at h
      cases h.2
  | inserting new =>
      obtain ⟨done, created, same⟩ := map_eq_ok.mp h
      cases same
      obtain ⟨-, fresh, free, written⟩ := createSession_eq_ok created
      rw [written]
      exact .creates new.kept fresh free

/-- A step that does not end its call changes nothing; one that does makes one change. -/
theorem SessionState.after_db {state : SessionState} {others : List Pending}
    {outcome : Except PyException CallProgress}
    (change : ∀ session db', outcome = .ok (.returns session db') → SessionChange state.db db') :
    SessionChange state.db (state.after others outcome).db := by
  match outcome, change with
  | .error _, _ => exact .stays
  | .ok (.returns session db'), change => exact change session db' rfl
  | .ok (.continues _), _ => exact .stays

theorem SessionState.Step.change {utf8 : Utf8} {py : Builtins} {state next : SessionState}
    {outcome : Except PyException CallProgress} (h : state.Step utf8 py outcome next) :
    SessionChange state.db next.db := by
  cases h with
  | begins call now => exact after_db fun _ _ returned => call.change returned
  | resumes rest member => exact after_db fun _ _ returned => rest.change returned

/-- A call writes in the step in which it returns, and in no other. -/
theorem SessionState.Step.unchanged {utf8 : Utf8} {py : Builtins} {state next : SessionState}
    {outcome : Except PyException CallProgress} (h : state.Step utf8 py outcome next)
    (unfinished : ∀ session db', outcome ≠ .ok (.returns session db')) : next.db = state.db := by
  have same : ∀ others, (state.after others outcome).db = state.db := by
    intro others
    match outcome, unfinished with
    | .error _, _ => rfl
    | .ok (.returns session db'), unfinished => exact absurd rfl (unfinished session db')
    | .ok (.continues _), _ => rfl
  cases h with
  | begins call now => exact same _
  | resumes rest member => exact same _

/-- The constraints of the session table. -/
structure SessionRules (db : Database) : Prop where
  keys : db.sessions.Unique fun s s' => s.externalSessionKey = s'.externalSessionKey
  oneActive : db.sessions.Unique fun s s' =>
    s.status = .active ∧ s'.status = .active ∧ s.deviceId = s'.deviceId
  closedAt : ∀ s ∈ db.sessions.rows, s.closedAt = none ↔ s.status = .active

namespace SessionChange
variable {db db' : Database}

theorem mem_insert_row {new : NewSession} {s : RFIDSession} :
    s ∈ (db.sessions.insert new.row).rows ↔
      s ∈ db.sessions.rows ∨ s = new.row db.sessions.nextKey :=
  Table.mem_insert db.sessions new.row (fun _ => rfl) s

theorem devices (h : SessionChange db db') : db'.devices = db.devices := by
  cases h <;> rfl

/-- A finished session is not written again. -/
theorem finished_stay (h : SessionChange db db') {s : RFIDSession} (member : s ∈ db.sessions.rows)
    (finished : s.status ≠ .active) : s ∈ db'.sessions.rows := by
  cases h with
  | stays => exact member
  | creates new fresh free => exact mem_insert_row.mpr (.inl member)
  | finishes session status now found active ends =>
      refine (mem_setStatus db session.id status now s).mpr (.inl ⟨member, fun same => finished ?_⟩)
      rw [db.sessions.eq_of_key_eq member found same, active]

/-- A session keeps its key, its reader and its operation. -/
theorem identity (h : SessionChange db db') {s : RFIDSession} (member : s ∈ db.sessions.rows) :
    ∃ s' ∈ db'.sessions.rows, s'.id = s.id ∧ s'.externalSessionKey = s.externalSessionKey ∧
      s'.deviceId = s.deviceId ∧ s'.operationType = s.operationType := by
  cases h with
  | stays => exact ⟨s, member, rfl, rfl, rfl, rfl⟩
  | creates new fresh free => exact ⟨s, mem_insert_row.mpr (.inl member), rfl, rfl, rfl, rfl⟩
  | finishes session status now found active ends =>
      by_cases same : s.id = session.id
      · exact ⟨_, (mem_setStatus ..).mpr (.inr ⟨s, member, same, rfl⟩), rfl, rfl, rfl, rfl⟩
      · exact ⟨s, (mem_setStatus ..).mpr (.inl ⟨member, same⟩), rfl, rfl, rfl, rfl⟩

theorem rules (h : SessionChange db db') (inv : SessionRules db) : SessionRules db' := by
  have sameKey : ∀ s s' : RFIDSession, s.externalSessionKey = s'.externalSessionKey →
      s'.externalSessionKey = s.externalSessionKey := fun _ _ => Eq.symm
  have bothActive : ∀ s s' : RFIDSession,
      s.status = .active ∧ s'.status = .active ∧ s.deviceId = s'.deviceId →
      s'.status = .active ∧ s.status = .active ∧ s'.deviceId = s.deviceId :=
    fun _ _ ⟨first, second, device⟩ => ⟨second, first, device.symm⟩
  cases h with
  | stays => exact inv
  | creates new fresh free =>
      constructor
      · exact inv.keys.insert sameKey new.row (fun _ => rfl) (sessionByKey_eq_none.mp fresh)
      · refine inv.oneActive.insert bothActive new.row (fun _ => rfl) ?_
        rintro s hs ⟨active, -, device⟩
        have occupied := mem_activeSessions.mpr ⟨hs, device, active⟩
        change s ∈ db.activeSessions new.deviceId at occupied
        rw [free] at occupied
        cases occupied
      · intro s hs
        cases mem_insert_row.mp hs with
        | inl old => exact inv.closedAt s old
        | inr new' => exact new' ▸ ⟨fun _ => rfl, fun _ => rfl⟩
  | finishes session status now found active ends =>
      let change (s : RFIDSession) : RFIDSession := { s with status, closedAt := some now }
      constructor
      · exact inv.keys.update sameKey session.id change (fun _ => rfl) fun _ _ _ _ _ same => same
      · exact inv.oneActive.update bothActive session.id change (fun _ => rfl)
          fun _ _ _ _ _ both => absurd both.1 ends
      · intro s hs
        cases (mem_setStatus ..).mp hs with
        | inl old => exact inv.closedAt s old.1
        | inr changed =>
            obtain ⟨old, -, -, rfl⟩ := changed
            exact ⟨nofun, fun live => absurd live ends⟩

end SessionChange

namespace SessionSteps
variable {utf8 : Utf8} {py : Builtins} {state later : SessionState}

theorem rules (h : SessionSteps utf8 py state later) (inv : SessionRules state.db) :
    SessionRules later.db := by
  induction h with
  | refl => exact inv
  | tail _ step ih =>
      obtain ⟨_, step⟩ := step
      exact step.change.rules ih

theorem devices (h : SessionSteps utf8 py state later) : later.db.devices = state.db.devices := by
  induction h with
  | refl => rfl
  | tail _ step ih =>
      obtain ⟨_, step⟩ := step
      exact step.change.devices.trans ih

theorem finished_stay (h : SessionSteps utf8 py state later) {s : RFIDSession}
    (member : s ∈ state.db.sessions.rows) (finished : s.status ≠ .active) :
    s ∈ later.db.sessions.rows := by
  induction h with
  | refl => exact member
  | tail _ step ih =>
      obtain ⟨_, step⟩ := step
      exact step.change.finished_stay ih finished

theorem identity (h : SessionSteps utf8 py state later) {s : RFIDSession}
    (member : s ∈ state.db.sessions.rows) :
    ∃ s' ∈ later.db.sessions.rows, s'.id = s.id ∧ s'.externalSessionKey = s.externalSessionKey ∧
      s'.deviceId = s.deviceId ∧ s'.operationType = s.operationType := by
  induction h with
  | refl => exact ⟨s, member, rfl, rfl, rfl, rfl⟩
  | tail _ step ih =>
      obtain ⟨_, step⟩ := step
      obtain ⟨mid, hmid, id, key, device, operation⟩ := ih
      obtain ⟨last, hlast, id', key', device', operation'⟩ := step.change.identity hmid
      exact ⟨last, hlast, id'.trans id, key'.trans key, device'.trans device,
        operation'.trans operation⟩

end SessionSteps

theorem SessionRules.sessionByKey {db : Database} (inv : SessionRules db) {s : RFIDSession}
    (member : s ∈ db.sessions.rows) : db.sessionByKey s.externalSessionKey = some s := by
  cases located : db.sessionByKey s.externalSessionKey with
  | none => exact absurd rfl (sessionByKey_eq_none.mp located s member)
  | some other =>
      have named := List.find?_some located
      rw [inv.keys other (List.mem_of_find?_eq_some located) s member (by simpa using named)]

/-- The session that a finishing call with these arguments is about. -/
structure NamedBy (utf8 : Utf8) (sessionKey readerCode : String) (db : Database)
    (s : RFIDSession) : Prop where
  sent : sendText utf8 (strip sessionKey) = .ok ()
  member : s ∈ db.sessions.rows
  key : s.externalSessionKey = strip sessionKey
  reader : (db.deviceOf s.deviceId).map (·.code) = some (strip readerCode)

theorem NamedBy.of_finishLocalSession {utf8 : Utf8} {target : SessionStatus}
    {verb sessionKey readerCode : String} {now : Timestamp} {db db' : Database}
    {session : RFIDSession}
    (h : finishLocalSession utf8 target verb sessionKey readerCode now db = .ok (session, db')) :
    NamedBy utf8 sessionKey readerCode db' session ∧ session.status = target := by
  obtain ⟨sent, found, located, reader, same | changed⟩ := finishLocalSession_eq_ok h
  · obtain ⟨already, rfl, rfl⟩ := same
    exact ⟨⟨sent, List.mem_of_find?_eq_some located, by simpa using List.find?_some located,
      reader⟩, already⟩
  · obtain ⟨-, rfl, rfl⟩ := changed
    have member := List.mem_of_find?_eq_some located
    exact ⟨⟨sent, (mem_setStatus ..).mpr (.inr ⟨found, member, rfl, rfl⟩),
      by simpa using List.find?_some located, reader⟩, rfl⟩

/-- A session that has its final status already: the same call again returns it, the
other one refuses it. -/
theorem NamedBy.again {utf8 : Utf8} {verb sessionKey readerCode : String} {now : Timestamp}
    {db : Database} {s : RFIDSession} (named : NamedBy utf8 sessionKey readerCode db s)
    (inv : SessionRules db) :
    finishLocalSession utf8 s.status verb sessionKey readerCode now db = .ok (s, db) := by
  have located := inv.sessionByKey named.member
  rw [named.key] at located
  simp [finishLocalSession, named.sent, located, named.reader, bind, Except.bind]

/-- Whichever reader the other call names. -/
theorem SessionRules.refused {utf8 : Utf8} {target : SessionStatus}
    {verb sessionKey readerCode : String} {now : Timestamp} {db : Database} {s : RFIDSession}
    (inv : SessionRules db) (member : s ∈ db.sessions.rows)
    (key : s.externalSessionKey = strip sessionKey) (other : s.status ≠ target)
    (finished : s.status ≠ .active) :
    ∃ exc, finishLocalSession utf8 target verb sessionKey readerCode now db = .error exc := by
  cases ran : finishLocalSession utf8 target verb sessionKey readerCode now db with
  | error exc => exact ⟨exc, rfl⟩
  | ok answer =>
      obtain ⟨-, found, located, -, done⟩ := finishLocalSession_eq_ok ran
      rw [← key, inv.sessionByKey member] at located
      cases located
      obtain ⟨already, -⟩ | ⟨active, -⟩ := done
      · exact absurd already other
      · exact absurd active finished

theorem NamedBy.later {utf8 : Utf8} {py : Builtins} {sessionKey readerCode : String}
    {state later : SessionState} {s : RFIDSession}
    (named : NamedBy utf8 sessionKey readerCode state.db s)
    (steps : SessionSteps utf8 py state later) (finished : s.status ≠ .active) :
    NamedBy utf8 sessionKey readerCode later.db s where
  sent := named.sent
  member := steps.finished_stay named.member finished
  key := named.key
  reader := by
    rw [deviceOf, steps.devices]
    exact named.reader

theorem SessionRules.length_activeSessions {db : Database} (inv : SessionRules db)
    (deviceId : Nat) : (db.activeSessions deviceId).length ≤ 1 := by
  have apart : (db.activeSessions deviceId).Nodup :=
    (List.Nodup.of_map _ db.sessions.distinct).filter _
  match found : db.activeSessions deviceId, apart with
  | [], _ => exact Nat.zero_le _
  | [_], _ => exact Nat.le_refl _
  | s :: s' :: _, apart =>
      have first : s ∈ db.activeSessions deviceId := by simp [found]
      have second : s' ∈ db.activeSessions deviceId := by simp [found]
      obtain ⟨hs, device, active⟩ := mem_activeSessions.mp first
      obtain ⟨hs', device', active'⟩ := mem_activeSessions.mp second
      have same := inv.oneActive s hs s' hs' ⟨active, active', device.trans device'.symm⟩
      simp [same] at apart

theorem SessionRules.nodup_keys {db : Database} (inv : SessionRules db) :
    (db.sessions.rows.map (·.externalSessionKey)).Nodup :=
  (List.Nodup.of_map _ db.sessions.distinct).map_on fun s hs s' hs' => inv.keys s hs s' hs'

/-- What is promised of the session table in one state and of all that follows it. -/
structure SessionLifecycle (utf8 : Utf8) (py : Builtins) (state : SessionState) : Prop where
  oneActive : ∀ deviceId, (state.db.activeSessions deviceId).length ≤ 1
  uniqueKeys : (state.db.sessions.rows.map (·.externalSessionKey)).Nodup
  closedAt : ∀ s ∈ state.db.sessions.rows, s.closedAt = none ↔ s.status = .active
  finished : ∀ later, SessionSteps utf8 py state later → ∀ s ∈ state.db.sessions.rows,
    s.status ≠ .active → s ∈ later.db.sessions.rows
  identity : ∀ later, SessionSteps utf8 py state later → ∀ s ∈ state.db.sessions.rows,
    ∃ s' ∈ later.db.sessions.rows, s'.id = s.id ∧ s'.externalSessionKey = s.externalSessionKey ∧
      s'.deviceId = s.deviceId ∧ s'.operationType = s.operationType
  closed : ∀ sessionKey readerCode now s db',
    closeLocalSession utf8 sessionKey readerCode now state.db = .ok (s, db') →
    ∀ later, SessionSteps utf8 py ⟨db', state.pending⟩ later → ∀ now',
      closeLocalSession utf8 sessionKey readerCode now' later.db = .ok (s, later.db) ∧
      ∀ sameKey otherCode, strip sameKey = strip sessionKey →
        ∃ exc, cancelLocalSession utf8 sameKey otherCode now' later.db = .error exc
  cancelled : ∀ sessionKey readerCode now s db',
    cancelLocalSession utf8 sessionKey readerCode now state.db = .ok (s, db') →
    ∀ later, SessionSteps utf8 py ⟨db', state.pending⟩ later → ∀ now',
      cancelLocalSession utf8 sessionKey readerCode now' later.db = .ok (s, later.db) ∧
      ∀ sameKey otherCode, strip sameKey = strip sessionKey →
        ∃ exc, closeLocalSession utf8 sameKey otherCode now' later.db = .error exc
  raising : ∀ outcome next, state.Step utf8 py outcome next →
    (∀ session db', outcome ≠ .ok (.returns session db')) → next.db = state.db

/-- Every state that the calls reach from an empty session table, in any order and with
any arguments. -/
theorem session_lifecycle (utf8 : Utf8) (py : Builtins) (start state : SessionState)
    (empty : start.db.sessions.rows = []) (h : SessionSteps utf8 py start state) :
    SessionLifecycle utf8 py state := by
  have none : ∀ s, s ∉ start.db.sessions.rows := by simp [empty]
  have rules : SessionRules state.db := h.rules
    ⟨fun s hs => absurd hs (none s), fun s hs => absurd hs (none s), fun s hs => absurd hs (none s)⟩
  refine ⟨rules.length_activeSessions, rules.nodup_keys, rules.closedAt,
    fun later steps s member => steps.finished_stay member,
    fun later steps s member => steps.identity member, ?_, ?_,
    fun outcome next step => step.unchanged⟩
  · intro sessionKey readerCode now s db' closes later steps now'
    simp only [closeLocalSession, guard_eq_ok] at closes
    obtain ⟨given, closes⟩ := closes
    obtain ⟨named, status⟩ := NamedBy.of_finishLocalSession closes
    have ended : s.status ≠ .active := by simp [status]
    have rulesLater : SessionRules later.db :=
      steps.rules ((SessionChange.of_finishLocalSession (by decide) closes).rules rules)
    have namedLater := NamedBy.later named steps ended
    constructor
    · rw [closeLocalSession, if_neg given, ← status]
      exact namedLater.again rulesLater
    · intro sameKey otherCode same
      exact rulesLater.refused namedLater.member (named.key.trans same.symm) (by simp [status])
        ended
  · intro sessionKey readerCode now s db' cancels later steps now'
    obtain ⟨named, status⟩ := NamedBy.of_finishLocalSession cancels
    have ended : s.status ≠ .active := by simp [status]
    have rulesLater : SessionRules later.db :=
      steps.rules ((SessionChange.of_finishLocalSession (by decide) cancels).rules rules)
    have namedLater := NamedBy.later named steps ended
    constructor
    · rw [cancelLocalSession, ← status]
      exact namedLater.again rulesLater
    · intro sameKey otherCode same
      simp only [closeLocalSession]
      split
      · exact ⟨_, rfl⟩
      · exact rulesLater.refused namedLater.member (named.key.trans same.symm) (by simp [status])
          ended

/-- A schedule: a call that begins, or the pending call that goes on. -/
def SessionState.move (utf8 : Utf8) (py : Builtins) (state : SessionState) :
    SessionCall ⊕ Nat → SessionState
  | .inl call => state.after state.pending (call.begin utf8 py 0 state.db)
  | .inr place =>
      match state.pending[place]? with
      | none => state
      | some rest => state.after (state.pending.erase rest) (rest.resume utf8 state.db)

theorem sessionSteps_move (utf8 : Utf8) (py : Builtins) (state : SessionState)
    (moves : List (SessionCall ⊕ Nat)) :
    SessionSteps utf8 py state (moves.foldl (SessionState.move utf8 py) state) := by
  induction moves generalizing state with
  | nil => exact .refl
  | cons move moves ih =>
      refine .trans ?_ (ih (state.move utf8 py move))
      cases move with
      | inl call => exact .single ⟨_, .begins call 0⟩
      | inr place =>
          simp only [SessionState.move]
          split
          · exact .refl
          · rename_i rest found
            exact .single ⟨_, .resumes rest (List.mem_of_getElem? found)⟩

def plainBuiltins : Builtins := ⟨fun _ => "", id, fun _ => none, id, id⟩

def freeReader : SessionState :=
  ⟨{ devices := [{ id := 1, code := "GATE-1", enabled := true }] }, []⟩

/-- Two processes open a session on one reader at the same time: both find it free, the
second INSERT is refused, and the session of the first is closed. -/
def openingRace : List (SessionCall ⊕ Nat) := [
  .inl (.synchronizeStartCommand ⟨.start, "S1", "GATE-1", "", none⟩),
  .inl (.createTestRfidSession ⟨"GATE-1", "S2", 7, "WH/IN/1", true⟩),
  .inr 1, .inr 0, .inr 0,
  .inl (.closeLocalSession "S1" "GATE-1")]

theorem session_lifecycle_race :
    ((openingRace.foldl (SessionState.move plainUtf8 plainBuiltins) freeReader).db.sessions.rows.map
      fun s => (s.externalSessionKey, s.status)) = [("S1", .closed)] ∧
    SessionLifecycle plainUtf8 plainBuiltins
      (openingRace.foldl (SessionState.move plainUtf8 plainBuiltins) freeReader) :=
  ⟨by decide +kernel, session_lifecycle _ _ _ _ rfl (sessionSteps_move _ _ _ _)⟩

end RfidBridge
