import RfidBridge.Delivery.QueuePolicy
import Mathlib.Data.List.MinMax

/-!
delivery_service.py and queue_service.py: opening a delivery attempt, closing
it, and a bare queue transition. Each function is one database transaction: it
returns the database after the commit, or an exception and so no new database.
-/

namespace RfidBridge

structure DeliveryAttemptStartResult where
  eventId : Nat
  attemptId : Nat
  attemptNumber : Nat
  previousState : QueueState
  currentState : QueueState
  deriving DecidableEq, Repr

structure DeliveryAttemptCompletionResult where
  eventId : Nat
  attemptId : Nat
  attemptNumber : Nat
  outcome : Outcome
  previousState : QueueState
  currentState : QueueState
  completedAt : Timestamp
  nextRetryAt : Option Timestamp
  deriving DecidableEq, Repr

structure QueueTransitionResult where
  eventId : Nat
  previousState : QueueState
  currentState : QueueState
  deriving DecidableEq, Repr

/-- The largest value of a PositiveIntegerField. -/
def maxPositiveInteger : Nat := 2147483647

/-- The largest number of seconds that timedelta represents. -/
def maxTimedeltaSeconds : Int := 86399999999999

namespace Database

def setQueueState (db : Database) (eventId : Nat) (state : QueueState) : Database :=
  { db with events := db.events.update eventId fun e => { e with queueState := state } }

/-- `.order_by("-attempt_number").first()` on the attempts of an event. -/
def latestAttempt (db : Database) (eventId : Nat) : Option DeliveryAttempt :=
  (db.attemptsOf eventId).argmax fun a => a.attemptNumber

def insertAttempt (db : Database) (eventId attemptNumber : Nat) (now : Timestamp) : Database :=
  { db with attempts := db.attempts.insert fun id =>
      { id, eventId, attemptNumber, outcome := .started, attemptedAt := now } }

def getAttempt (db : Database) (attemptId eventId : Nat) : Except PyException DeliveryAttempt :=
  match (db.attempts.find? attemptId).filter fun a => a.eventId == eventId with
  | some attempt => .ok attempt
  | none => raised .attemptDoesNotExist "DeliveryAttempt matching query does not exist."

theorem mem_setQueueState (db : Database) (eventId : Nat) (state : QueueState)
    (e : RawRFIDEvent) : e ∈ (db.setQueueState eventId state).events.rows ↔
      (e ∈ db.events.rows ∧ e.id ≠ eventId) ∨
      ∃ old ∈ db.events.rows, old.id = eventId ∧ e = { old with queueState := state } :=
  Table.mem_update db.events eventId (fun e => { e with queueState := state }) (fun _ => rfl) e

theorem exists_id_setQueueState (db : Database) (eventId : Nat) (state : QueueState) {id : Nat}
    (h : ∃ e ∈ db.events.rows, e.id = id) :
    ∃ e ∈ (db.setQueueState eventId state).events.rows, e.id = id :=
  Table.exists_key_update db.events eventId (fun e => { e with queueState := state })
    (fun _ => rfl) h

theorem mem_insertAttempt (db : Database) (eventId number : Nat) (now : Timestamp)
    (a : DeliveryAttempt) : a ∈ (db.insertAttempt eventId number now).attempts.rows ↔
      a ∈ db.attempts.rows ∨
      a = { id := db.attempts.nextKey, eventId, attemptNumber := number, outcome := .started,
            attemptedAt := now } := by
  simp [insertAttempt]

end Database

def nextAttemptNumber (db : Database) (eventId : Nat) : Nat :=
  match db.latestAttempt eventId with
  | some previousAttempt => previousAttempt.attemptNumber + 1
  | none => 1

def startDeliveryAttempt (eventId : Nat) (expectedState : QueueState)
    (maxDeliveryAttempts : Int) (now : Timestamp) (db : Database) :
    Except PyException (DeliveryAttemptStartResult × Database) :=
  if maxDeliveryAttempts < 1 then
    raised .valueError "Maximum delivery attempts must be at least 1."
  else do
    let event ← db.getEvent eventId
    if event.queueState ≠ expectedState then
      raised .valueError (s!"Stale queue state expectation: expected {expectedState.value}, " ++
        s!"found {event.queueState.value}")
    else if event.queueState ≠ .queued ∧ event.queueState ≠ .retry then
      raised .valueError
        s!"Delivery attempt cannot start from queue state: {event.queueState.value}"
    else if (nextAttemptNumber db eventId : Int) > maxDeliveryAttempts then
      raised .valueError s!"Maximum delivery attempts reached: {maxDeliveryAttempts}"
    else do
      validateQueueTransition event.queueState .inflight
      if nextAttemptNumber db eventId > maxPositiveInteger then
        raised .dataError "integer out of range"
      else
        .ok ({
            eventId
            attemptId := db.attempts.nextKey
            attemptNumber := nextAttemptNumber db eventId
            previousState := event.queueState
            currentState := .inflight },
          (db.setQueueState eventId .inflight).insertAttempt eventId
            (nextAttemptNumber db eventId) now)

def outcomeToQueueState : Outcome → Option QueueState
  | .sent => some .sent
  | .retry => some .retry
  | .rejected => some .rejected
  | .dead => some .dead
  | .started | .other _ => none

/-- No outcome leads back to a state before the first attempt, or to INFLIGHT. -/
theorem target_of_outcome {outcome : Outcome} {state : QueueState}
    (h : outcomeToQueueState outcome = some state) :
    state ≠ .unassigned ∧ state ≠ .queued ∧ state ≠ .inflight := by
  cases outcome <;> cases h <;> decide

/-- `completed_at + timedelta(seconds=retry_delay_seconds)`. -/
def addSeconds (at_ : Timestamp) (seconds : Int) : Except PyException Timestamp :=
  if seconds > maxTimedeltaSeconds then
    raised .overflowError "days out of range"
  else if at_ + seconds.toNat * 1000000 > maxTimestamp then
    raised .overflowError "date value out of range"
  else
    .ok (at_ + seconds.toNat * 1000000)

/-- The next_retry_at of a completion: set for RETRY only. -/
def nextRetryAt (outcome : Outcome) (attemptNumber : Nat) (completedAt : Timestamp)
    (retryInitialSeconds retryMaxSeconds : Option Int) :
    Except PyException (Option Timestamp) :=
  match outcome, retryInitialSeconds, retryMaxSeconds with
  | .retry, some initial, some maximum => do
      let delay ← calculateRetryDelaySeconds attemptNumber initial maximum
      let next ← addSeconds completedAt delay
      .ok (some next)
  | _, _, _ => .ok none

/-- The checks on the retry settings that come before the transaction. -/
def requireRetrySettings (outcome : Outcome) (retryInitialSeconds retryMaxSeconds : Option Int) :
    Except PyException Unit :=
  if outcome = .retry ∧ retryInitialSeconds = none then
    raised .valueError "Retry completion requires retry_initial_seconds."
  else if outcome = .retry ∧ retryMaxSeconds = none then
    raised .valueError "Retry completion requires retry_max_seconds."
  else
    .ok ()

def closeAttempt (outcome : Outcome) (responseCode errorKind detail : String)
    (completedAt : Timestamp) (next : Option Timestamp) (attempt : DeliveryAttempt) :
    DeliveryAttempt :=
  { attempt with
    outcome
    responseCode
    errorKind
    detail
    completedAt := some completedAt
    nextRetryAt := next }

def completeDeliveryAttempt (utf8 : Utf8) (eventId attemptId : Nat) (outcome : Outcome)
    (responseCode errorKind detail : String) (retryInitialSeconds retryMaxSeconds : Option Int)
    (now : Timestamp) (db : Database) :
    Except PyException (DeliveryAttemptCompletionResult × Database) :=
  match outcomeToQueueState outcome with
  | none => raised .valueError s!"Unsupported delivery completion outcome: {outcome.value}"
  | some targetState => do
      requireRetrySettings outcome retryInitialSeconds retryMaxSeconds
      let event ← db.getEvent eventId
      if event.queueState ≠ .inflight then
        raised .valueError ("Delivery attempt can only complete while event is inflight; " ++
          s!"found {event.queueState.value}")
      else do
        let attempt ← db.getAttempt attemptId eventId
        if attempt.outcome ≠ .started then
          raised .valueError
            s!"Delivery attempt is already completed with outcome: {attempt.outcome.value}"
        else do
          validateQueueTransition event.queueState targetState
          let next ← nextRetryAt outcome attempt.attemptNumber now
            retryInitialSeconds retryMaxSeconds
          let responseCode ← columnText utf8 (some 64) responseCode
          let errorKind ← columnText utf8 (some 128) errorKind
          let detail ← columnText utf8 none detail
          let close := closeAttempt outcome responseCode errorKind detail now next
          .ok ({
              eventId
              attemptId
              attemptNumber := attempt.attemptNumber
              outcome
              previousState := event.queueState
              currentState := targetState
              completedAt := now
              nextRetryAt := next },
            { db.setQueueState eventId targetState with
              attempts := db.attempts.update attemptId close })

def transitionEventQueueState (eventId : Nat) (expectedState targetState : QueueState)
    (db : Database) : Except PyException (QueueTransitionResult × Database) := do
  let event ← db.getEvent eventId
  if event.queueState ≠ expectedState then
    raised .valueError (s!"Stale queue state expectation: expected {expectedState.value}, " ++
      s!"found {event.queueState.value}")
  else do
    validateQueueTransition event.queueState targetState
    .ok (⟨eventId, event.queueState, targetState⟩, db.setQueueState eventId targetState)

end RfidBridge
