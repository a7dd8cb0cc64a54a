import RfidBridge.Delivery.QueuePolicy
import RfidBridge.Protocol.TagData
import RfidBridge.Store.SessionService

/-!
From tag frames to queued events: session_assignment.py, ingestion.py and
final_tag_ingestion.py. The digest of keys is SHA-256 of a text's UTF-8 bytes, cut to
24 hex digits, and kept as a parameter because only its shape and its collisions matter.
-/

namespace RfidBridge

structure Sha256 extends Utf8 where
  digest24 : String → String
  length_digest24 : ∀ text, (digest24 text).toList.length = 24
  hex_digest24 : ∀ text, ∀ c ∈ (digest24 text).toList, c ∈ "0123456789abcdef".toList

theorem Sha256.plain_digest24 (sha : Sha256) (text : String) : Plain (sha.digest24 text) := by
  intro c member
  have digits : Plain "0123456789abcdef" := by decide
  exact digits c (sha.hex_digest24 text c member)

/-- The digest of evaluated runs. -/
def zeros : String := "000000000000000000000000"

theorem length_zeros : zeros.toList.length = 24 := by decide

theorem hex_zeros : ∀ c ∈ zeros.toList, c ∈ "0123456789abcdef".toList := by simp [zeros]

structure TechnicalRFIDRead where
  readerEventKey : String
  epc : String
  rawPayload : RawPayload
  deriving DecidableEq, Repr

/-- A read whose texts a row holds as they are, if it holds them at all. -/
structure TechnicalRFIDRead.IsPlain (read : TechnicalRFIDRead) : Prop where
  readerEventKey : Plain read.readerEventKey
  epc : Plain read.epc

/-- Its texts are no longer than their columns. -/
structure TechnicalRFIDRead.IsShort (read : TechnicalRFIDRead) : Prop where
  readerEventKey : read.readerEventKey.toList.length ≤ 128
  epc : read.epc.toList.length ≤ 128

structure IngestionResult where
  receivedCount : Nat
  createdCount : Nat
  duplicateCount : Nat
  createdEventIds : List Nat
  deriving DecidableEq, Repr

structure AssignmentCycleResult where
  selectedCount : Nat := 0
  assignedCount : Nat := 0
  unassignedCount : Nat := 0
  failedCount : Nat := 0
  deriving DecidableEq, Repr

structure FinalTagIngestionResult where
  frameCount : Nat
  technicalReadCount : Nat
  createdCount : Nat
  duplicateCount : Nat
  assignedCount : Nat
  queuedCount : Nat
  deriving DecidableEq, Repr

namespace Database

def eventByKey (db : Database) (deviceId : Nat) (readerEventKey : String) : Option RawRFIDEvent :=
  db.events.rows.find? fun e => e.deviceId == deviceId && e.readerEventKey == readerEventKey

end Database

/-- The row of a read, as it is stored. -/
def newEvent (device : ReaderDevice) (read : TechnicalRFIDRead) (now : Timestamp) (id : Nat) :
    RawRFIDEvent where
  id
  deviceId := device.id
  readerEventKey := keptText (some 128) read.readerEventKey
  epc := keptText (some 128) read.epc
  rawPayload := read.rawPayload
  receivedAt := now

/-- `RawRFIDEvent.objects.get_or_create` with the defaults of ingestion.py. The unique
constraint looks at the key as it is stored, the lookup at the key it is given. -/
def getOrCreateEvent (utf8 : Utf8) (device : ReaderDevice) (read : TechnicalRFIDRead)
    (now : Timestamp) (db : Database) : Except PyException ((RawRFIDEvent × Bool) × Database) :=
  match db.eventByKey device.id read.readerEventKey with
  | some event => .ok ((event, false), db)
  | none => do
      let readerEventKey ← columnText utf8 (some 128) read.readerEventKey
      let epc ← columnText utf8 (some 128) read.epc
      if db.eventByKey device.id readerEventKey ≠ none then
        raised .integrityError ("duplicate key value violates unique constraint " ++
          "unique_reader_event_key_per_device")
      else
        let row (id : Nat) : RawRFIDEvent := {
          id
          deviceId := device.id
          readerEventKey
          epc
          rawPayload := read.rawPayload
          queueState := .unassigned
          receivedAt := now }
        .ok ((row db.events.nextKey, true), { db with events := db.events.insert row })

/-- What get_or_create leaves of a read: an event with its key, found or created. -/
theorem getOrCreateEvent_eq_ok {utf8 : Utf8} {device : ReaderDevice} {read : TechnicalRFIDRead}
    {now : Timestamp} {db db' : Database} {event : RawRFIDEvent} {created : Bool}
    (h : getOrCreateEvent utf8 device read now db = .ok ((event, created), db')) :
    db.eventByKey device.id read.readerEventKey = some event ∧ created = false ∧ db' = db ∨
    db.eventByKey device.id (keptText (some 128) read.readerEventKey) = none ∧
      fitsColumn utf8 (some 128) read.readerEventKey = true ∧
      fitsColumn utf8 (some 128) read.epc = true ∧ created = true ∧
      event = newEvent device read now db.events.nextKey ∧
      db' = { db with events := db.events.insert (newEvent device read now) } := by
  simp only [getOrCreateEvent] at h
  split at h
  · rename_i found
    cases h
    exact .inl ⟨found, rfl, rfl⟩
  · simp only [bind_eq_ok, guard_eq_ok, columnText_eq_ok, Except.ok.injEq, Prod.mk.injEq] at h
    obtain ⟨_, ⟨key, rfl⟩, _, ⟨epc, rfl⟩, fresh, ⟨rfl, rfl⟩, rfl⟩ := h
    exact .inr ⟨Decidable.not_not.mp fresh, key, epc, rfl, rfl, rfl⟩

theorem TechnicalRFIDRead.IsPlain.isShort {utf8 : Utf8} {read : TechnicalRFIDRead}
    (plain : read.IsPlain) (key : fitsColumn utf8 (some 128) read.readerEventKey = true)
    (epc : fitsColumn utf8 (some 128) read.epc = true) : read.IsShort :=
  ⟨short_of_stripped plain.readerEventKey.strip key, short_of_stripped plain.epc.strip epc⟩

theorem TechnicalRFIDRead.IsShort.newEvent_eq {read : TechnicalRFIDRead} (short : read.IsShort)
    (device : ReaderDevice) (now : Timestamp) (id : Nat) :
    (newEvent device read now id).readerEventKey = read.readerEventKey ∧
      (newEvent device read now id).epc = read.epc :=
  ⟨keptText_of_short short.readerEventKey, keptText_of_short short.epc⟩

theorem getOrCreateEvent_of_plain (utf8 : Utf8) {device : ReaderDevice} {read : TechnicalRFIDRead}
    (now : Timestamp) {db : Database} (plain : read.IsPlain) (short : read.IsShort)
    (new : db.eventByKey device.id read.readerEventKey = none) :
    getOrCreateEvent utf8 device read now db =
      .ok ((newEvent device read now db.events.nextKey, true),
        { db with events := db.events.insert (newEvent device read now) }) := by
  have key := columnText_of_plain utf8 plain.readerEventKey short.readerEventKey
  have epc := columnText_of_plain utf8 plain.epc short.epc
  have kept : newEvent device read now = fun id => {
      id
      deviceId := device.id
      readerEventKey := read.readerEventKey
      epc := read.epc
      rawPayload := read.rawPayload
      queueState := .unassigned
      receivedAt := now } := by
    funext id
    simp only [newEvent, keptText_of_short short.readerEventKey, keptText_of_short short.epc]
  simp only [getOrCreateEvent, new, key, epc, kept, ne_eq, not_true_eq_false, if_false, bind,
    Except.bind]

/-- The loop of ingest_technical_reads: the ids of the created events. -/
def ingestLoop (utf8 : Utf8) (device : ReaderDevice) (now : Timestamp) :
    List TechnicalRFIDRead → Database → Except PyException (List Nat × Database)
  | [], db => .ok ([], db)
  | read :: reads, db => do
      let ((event, created), db) ← getOrCreateEvent utf8 device read now db
      let (ids, db) ← ingestLoop utf8 device now reads db
      .ok (if created then event.id :: ids else ids, db)

def ingestTechnicalReads (utf8 : Utf8) (device : ReaderDevice)
    (reads : List TechnicalRFIDRead) (now : Timestamp) (db : Database) :
    Except PyException (IngestionResult × Database) :=
  if ¬ device.enabled then
    raised .valueError "Reader device must be enabled for ingestion."
  else do
    let (ids, db) ← ingestLoop utf8 device now reads db
    .ok (⟨reads.length, ids.length, reads.length - ids.length, ids⟩, db)

/-- `RFIDSession.objects.get(device, status=ACTIVE)`. -/
def getActiveSession (db : Database) (deviceId : Nat) : Except PyException RFIDSession :=
  match db.activeSessions deviceId with
  | [session] => .ok session
  | [] => raised .sessionDoesNotExist "RFIDSession matching query does not exist."
  | _ => raised .multipleObjectsReturned "get() returned more than one RFIDSession."

def requireCompatibleOperation (device : Option ReaderDevice) (session : RFIDSession) :
    Except PyException Unit :=
  match device.bind fun d => (operationByRole d.role).map fun op => (d, op) with
  | none => raised .valueError "Reader device has an unsupported assignment role."
  | some (device, expectedOperation) =>
      if ¬ device.sharedOperations ∧ session.operationType ≠ expectedOperation then
        raised .valueError
          "Active RFID session operation is incompatible with the reader device role."
      else .ok ()

def assignEventToActiveSession (eventId : Nat) (db : Database) :
    Except PyException Database := do
  let event ← db.getEvent eventId
  if event.queueState ≠ .unassigned then
    raised .valueError "Event must be unassigned before session assignment."
  else if event.rfidSessionId ≠ none then
    raised .valueError "Event already has an RFID session assignment."
  else do
    let session ← getActiveSession db event.deviceId
    requireCompatibleOperation (db.deviceOf event.deviceId) session
    validateQueueTransition event.queueState .queued
    .ok { db with events := db.events.update eventId fun e =>
      { e with rfidSessionId := some session.id, queueState := .queued } }

/-- run_active_session_assignment_cycle: a failed assignment is counted and leaves
the database as it was. -/
def runActiveSessionAssignmentCycle : List Nat → Database → AssignmentCycleResult × Database
  | [], db => ({}, db)
  | eventId :: eventIds, db =>
      match assignEventToActiveSession eventId db with
      | .ok db =>
          let (result, db) := runActiveSessionAssignmentCycle eventIds db
          ({ result with
            selectedCount := result.selectedCount + 1
            assignedCount := result.assignedCount + 1 }, db)
      | .error ⟨.sessionDoesNotExist, _⟩ =>
          let (result, db) := runActiveSessionAssignmentCycle eventIds db
          ({ result with
            selectedCount := result.selectedCount + 1
            unassignedCount := result.unassignedCount + 1 }, db)
      | .error _ =>
          let (result, db) := runActiveSessionAssignmentCycle eventIds db
          ({ result with
            selectedCount := result.selectedCount + 1
            failedCount := result.failedCount + 1 }, db)

def normalizedSessionKey (sessionKey : String) : Except PyException String :=
  if strip sessionKey = "" then
    raised .finalTagIngestionError "RFID session key cannot be empty."
  else if (strip sessionKey).toList.length > 128 then
    raised .finalTagIngestionError "RFID session key exceeds 128 characters."
  else
    .ok (strip sessionKey)

def eventKey (sha : Sha256) (sessionKey epc : String) : String :=
  "final:" ++ sha.digest24 sessionKey ++ ":" ++ sha.digest24 epc

def normalizedEpc (epc : String) : Except PyException String :=
  if ascii.upper (strip epc) = "" then
    raised .finalTagIngestionError "Active tag frame does not contain an EPC."
  else if (ascii.upper (strip epc)).toList.any fun c => 127 < c.toNat then
    raised .finalTagIngestionError "EPC must contain ASCII characters only."
  else
    .ok (ascii.upper (strip epc))

def frameToTechnicalRead (sha : Sha256) (device : ReaderDevice) (sessionKey : String)
    (frame : RFIDFrame) : Except PyException TechnicalRFIDRead :=
  if frame.command ≠ commandActiveTag then
    raised .finalTagIngestionError "Final tag ingestion accepts active RFID tag frames only."
  else if frame.address.toNat ≠ device.deviceAddress then
    raised .finalTagIngestionError "Active tag frame reader address mismatch."
  else if frame.status ≠ 0 then
    raised .finalTagIngestionError
      s!"Active tag frame reports reader failure status {frame.status.toNat}."
  else do
    let tag ← parseTagData frame.payload
    let epc ← normalizedEpc tag.epc
    .ok {
      readerEventKey := eventKey sha sessionKey epc
      epc
      rawPayload := .final {
        sessionKey
        readerCode := device.code
        readerAddress := frame.address
        sequence := frame.sequence
        command := frame.command
        status := frame.status
        protocolType := tag.protocolType
        antenna := tag.antenna
        pc := tag.pc
        epc
        tid := tag.tid
        count := tag.count } }

/-- `RFIDSession.objects.get(device, external_session_key, status=ACTIVE)`. A key that the
driver refuses names no row. -/
def getIngestionSession (db : Database) (device : ReaderDevice) (sessionKey : String) :
    Except PyException RFIDSession :=
  match (db.activeSessions device.id).filter fun s => s.externalSessionKey == sessionKey with
  | [session] => .ok session
  | [] => raised .finalTagIngestionError "No matching active local RFID session exists."
  | _ => raised .multipleObjectsReturned "get() returned more than one RFIDSession."

/-- The queue states in which a final event may be seen again. -/
def finalRuntimeStates : List QueueState := [.queued, .inflight, .retry, .sent]

/-- The integrity check of one deterministic event key, duplicates included. -/
def checkRecorded (device : ReaderDevice) (session : RFIDSession) (db : Database)
    (read : TechnicalRFIDRead) : Except PyException Unit :=
  match db.eventByKey device.id read.readerEventKey with
  | none => raised .eventDoesNotExist "RawRFIDEvent matching query does not exist."
  | some event =>
      if event.epc ≠ read.epc then
        raised .finalTagIngestionError
          "Existing RFID event EPC does not match its deterministic event key."
      else if event.rfidSessionId ≠ some session.id then
        raised .finalTagIngestionError "Existing RFID event belongs to a different session."
      else if event.queueState ∉ finalRuntimeStates then
        raised .finalTagIngestionError ("Existing RFID event is in an invalid final-runtime " ++
          s!"queue state: {event.queueState.value}.")
      else .ok ()

def checkAllRecorded (device : ReaderDevice) (session : RFIDSession) (db : Database) :
    List TechnicalRFIDRead → Except PyException Unit
  | [] => .ok ()
  | read :: reads => do
      checkRecorded device session db read
      checkAllRecorded device session db reads

def framesToTechnicalReads (sha : Sha256) (device : ReaderDevice) (sessionKey : String) :
    List RFIDFrame → Except PyException (List TechnicalRFIDRead)
  | [] => .ok []
  | frame :: frames => do
      let read ← frameToTechnicalRead sha device sessionKey frame
      let reads ← framesToTechnicalReads sha device sessionKey frames
      .ok (read :: reads)

/-- The three count checks between assignment and the integrity check. -/
def requireAllAssigned (createdCount : Nat) (assignment : AssignmentCycleResult) :
    Except PyException Unit :=
  if assignment.failedCount ≠ 0 then
    raised .finalTagIngestionError "One or more RFID events failed session assignment."
  else if assignment.unassignedCount ≠ 0 then
    raised .finalTagIngestionError "One or more RFID events remained unassigned."
  else if assignment.assignedCount ≠ createdCount then
    raised .finalTagIngestionError "Persisted and assigned RFID event counts differ."
  else .ok ()

def ingestFinalActiveTagFrames (sha : Sha256) (device : ReaderDevice) (sessionKey : String)
    (frames : List RFIDFrame) (now : Timestamp) (db : Database) :
    Except PyException (FinalTagIngestionResult × Database) := do
  let sessionKey ← normalizedSessionKey sessionKey
  if ¬ device.enabled then
    raised .finalTagIngestionError "RFID reader device must be enabled."
  else do
    let session ← getIngestionSession db device sessionKey
    let reads ← framesToTechnicalReads sha device sessionKey frames
    let (ingestion, db) ← ingestTechnicalReads sha.toUtf8 device reads now db
    let (assignment, db) := runActiveSessionAssignmentCycle ingestion.createdEventIds db
    requireAllAssigned ingestion.createdCount assignment
    checkAllRecorded device session db reads
    .ok ({
        frameCount := frames.length
        technicalReadCount := reads.length
        createdCount := ingestion.createdCount
        duplicateCount := ingestion.duplicateCount
        assignedCount := assignment.assignedCount
        queuedCount := ((db.eventsOf session.id).filter fun e =>
          e.deviceId == device.id && e.queueState == .queued).length },
      db)

end RfidBridge
