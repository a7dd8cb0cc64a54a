import RfidBridge.Delivery.DeliveryService
import RfidBridge.Store.Ingestion

/-!
The database as its clients see it: every transaction and every query of the
worker is one operation, so one operation is one atomic step. A transaction that
raises leaves the database as it was.
-/

namespace RfidBridge

/-- A selected event with the rows that `select_related` loads beside it. -/
structure Candidate where
  event : RawRFIDEvent
  device : Option ReaderDevice
  session : Option RFIDSession
  deriving DecidableEq, Repr

/-- A state from which an event still waits for delivery. -/
abbrev WaitingState := { state : QueueState // state = .queued ∨ state = .retry }

inductive StoreOp
  | synchronizeStartCommand (command : OdooRFIDCommand)
  | closeLocalSession (sessionKey readerCode : String)
  | cancelLocalSession (sessionKey readerCode : String)
  | countActiveSessions (deviceId : Nat)
  | ingestFinalActiveTagFrames (device : ReaderDevice) (sessionKey : String)
      (frames : List RFIDFrame)
  | getOrCreateEvent (device : ReaderDevice) (read : TechnicalRFIDRead)
  | assignEventToActiveSession (eventId : Nat)
  | startDeliveryAttempt (eventId : Nat) (expectedState : QueueState)
      (maxDeliveryAttempts : Int)
  | completeDeliveryAttempt (eventId attemptId : Nat) (outcome : Outcome)
      (responseCode errorKind detail : String) (retryInitialSeconds retryMaxSeconds : Option Int)
  | transitionEventQueueState (eventId : Nat) (expectedState targetState : QueueState)
  | selectCancelled (readerCode : String)
  | selectExhausted (readerCode : String) (maxDeliveryAttempts : Int)
  | selectCandidates (readerCode : String) (batchSize : Nat)
  | finalQueueStates (sessionKey readerCode : String)

abbrev StoreOp.Answer : StoreOp → Type
  | .synchronizeStartCommand _ => SessionSyncResult
  | .closeLocalSession .. | .cancelLocalSession .. => RFIDSession
  | .countActiveSessions _ => Nat
  | .ingestFinalActiveTagFrames .. => FinalTagIngestionResult
  | .getOrCreateEvent .. => RawRFIDEvent × Bool
  | .assignEventToActiveSession _ => Unit
  | .startDeliveryAttempt .. => DeliveryAttemptStartResult
  | .completeDeliveryAttempt .. => DeliveryAttemptCompletionResult
  | .transitionEventQueueState .. => QueueTransitionResult
  | .selectCancelled _ => List (Nat × WaitingState)
  | .selectExhausted .. => List Nat
  | .selectCandidates .. => List Candidate
  | .finalQueueStates .. => List QueueState

namespace Database

def hasReader (db : Database) (readerCode : String) (e : RawRFIDEvent) : Bool :=
  (db.deviceOf e.deviceId).any fun device => device.code == readerCode

def sessionOf (db : Database) (e : RawRFIDEvent) : Option RFIDSession :=
  e.rfidSessionId.bind db.sessions.find?

def isFinalEvent (e : RawRFIDEvent) : Bool := hasPrefix "final:" e.readerEventKey

/-- The queries of the two dead-letter passes. -/
def selectCancelled (db : Database) (readerCode : String) : List (Nat × WaitingState) :=
  db.events.rows.filterMap fun e =>
    if waiting : e.queueState = .queued ∨ e.queueState = .retry then
      if db.hasReader readerCode e && isFinalEvent e &&
          (db.sessionOf e).any (fun s => s.status == .cancelled) then
        some (e.id, ⟨e.queueState, waiting⟩)
      else none
    else none

def selectExhausted (db : Database) (readerCode : String) (maxDeliveryAttempts : Int) :
    List Nat :=
  (db.events.rows.filter fun e =>
      db.hasReader readerCode e && isFinalEvent e && e.rfidSessionId.isSome &&
      e.queueState == .retry &&
      decide (maxDeliveryAttempts ≤ (db.attemptsOf e.id).length)).map
    fun e => e.id

def retryIsDue (db : Database) (now : Timestamp) (e : RawRFIDEvent) : Bool :=
  (db.latestAttempt e.id).any fun a =>
    a.outcome == .retry && a.nextRetryAt.any fun next => next ≤ now

/-- The query of select_final_delivery_candidates, in its order. -/
def selectCandidates (db : Database) (readerCode : String) (batchSize : Nat)
    (now : Timestamp) : List Candidate :=
  let eligible := db.events.rows.filter fun e =>
    db.hasReader readerCode e && isFinalEvent e && e.rfidSessionId.isSome &&
    (e.queueState == .queued || (e.queueState == .retry && db.retryIsDue now e))
  let ordered := eligible.mergeSort fun a b =>
    a.receivedAt < b.receivedAt || (a.receivedAt == b.receivedAt && a.id ≤ b.id)
  (ordered.take batchSize).map fun e => ⟨e, db.deviceOf e.deviceId, db.sessionOf e⟩

/-- The final events that the STOP delivery barrier inspects. -/
def finalEvents (db : Database) (sessionKey readerCode : String) : List RawRFIDEvent :=
  db.events.rows.filter fun e =>
    db.hasReader readerCode e && isFinalEvent e &&
    (db.sessionOf e).any fun s => s.externalSessionKey == sessionKey

end Database

/-- A query with codes and keys that rows hold: it cannot fail and changes nothing. -/
abbrev answered {α : Type} (value : α) (db : Database) : Except PyException (α × Database) :=
  .ok (value, db)

def StoreOp.run (sha : Sha256) (now : Timestamp) (db : Database) :
    (op : StoreOp) → Except PyException (op.Answer × Database)
  | .synchronizeStartCommand command => RfidBridge.synchronizeStartCommand sha.toUtf8 command db
  | .closeLocalSession sessionKey readerCode =>
      RfidBridge.closeLocalSession sha.toUtf8 sessionKey readerCode now db
  | .cancelLocalSession sessionKey readerCode =>
      RfidBridge.cancelLocalSession sha.toUtf8 sessionKey readerCode now db
  | .countActiveSessions deviceId => answered (db.activeSessions deviceId).length db
  | .ingestFinalActiveTagFrames device sessionKey frames =>
      RfidBridge.ingestFinalActiveTagFrames sha device sessionKey frames now db
  | .getOrCreateEvent device read => RfidBridge.getOrCreateEvent sha.toUtf8 device read now db
  | .assignEventToActiveSession eventId =>
      (RfidBridge.assignEventToActiveSession eventId db).map fun db => ((), db)
  | .startDeliveryAttempt eventId expectedState maxDeliveryAttempts =>
      RfidBridge.startDeliveryAttempt eventId expectedState maxDeliveryAttempts now db
  | .completeDeliveryAttempt eventId attemptId outcome responseCode errorKind detail
      retryInitialSeconds retryMaxSeconds =>
      RfidBridge.completeDeliveryAttempt sha.toUtf8 eventId attemptId outcome responseCode
        errorKind detail retryInitialSeconds retryMaxSeconds now db
  | .transitionEventQueueState eventId expectedState targetState =>
      RfidBridge.transitionEventQueueState eventId expectedState targetState db
  | .selectCancelled readerCode => answered (db.selectCancelled readerCode) db
  | .selectExhausted readerCode maxDeliveryAttempts =>
      answered (db.selectExhausted readerCode maxDeliveryAttempts) db
  | .selectCandidates readerCode batchSize =>
      answered (db.selectCandidates readerCode batchSize now) db
  | .finalQueueStates sessionKey readerCode =>
      answered ((db.finalEvents sessionKey readerCode).map (·.queueState)) db

end RfidBridge
