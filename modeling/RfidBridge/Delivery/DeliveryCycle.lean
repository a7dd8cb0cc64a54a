import RfidBridge.Library.Prog
import RfidBridge.Store.Transactions

/-!
delivery_cycle.py and final_delivery_cycle.py as programs over the store and a
sender. The store's transactions and queries are parameters, so the same program
runs alone, beside other workers, or inside the whole bridge.
-/

namespace RfidBridge

structure DeliverySenderResult where
  outcome : Outcome
  responseCode : String := ""
  errorKind : String := ""
  detail : String := ""
  deriving DecidableEq, Repr

/-- What the columns of an attempt keep of a result. -/
def DeliverySenderResult.kept (result : DeliverySenderResult) : DeliverySenderResult :=
  { result with
    responseCode := keptText (some 64) result.responseCode
    errorKind := keptText (some 128) result.errorKind }

structure SingleEventDeliveryResult where
  eventId : Nat
  attemptId : Nat
  attemptNumber : Nat
  outcome : Outcome
  currentState : QueueState
  nextRetryAt : Option Timestamp
  deriving DecidableEq, Repr

structure FinalDeliveryCycleResult where
  selectedCount : Nat
  processedCount : Nat
  sentCount : Nat
  retryCount : Nat
  rejectedCount : Nat
  deadCount : Nat
  exhaustedDeadCount : Nat
  failedCount : Nat
  deriving DecidableEq, Repr

/-- The settings of one delivery worker. -/
structure DeliverySettings where
  readerCode : String
  batchSize : Int
  maxDeliveryAttempts : Int
  retryInitialSeconds : Int
  retryMaxSeconds : Int
  deriving DecidableEq, Repr

section
variable {ι : Type} {ρ : ι → Type} (store : (op : StoreOp) → Prog ι ρ PyException op.Answer)

def requireReaderCode (readerCode : String) : Prog ι ρ PyException String :=
  if strip readerCode = "" then
    .raise ⟨.finalDeliveryCycleError, "Final RFID reader code cannot be empty."⟩
  else
    .ret (strip readerCode)

def requireMaxDeliveryAttempts (maxDeliveryAttempts : Int) : Prog ι ρ PyException Unit :=
  if maxDeliveryAttempts < 1 then
    .raise ⟨.valueError, "Maximum delivery attempts must be at least 1."⟩
  else
    .ret ()

/-- The loop of both dead-letter passes: how many of the selected events moved to
DEAD. Another worker may have changed a state after the selection. -/
def deadLetterEach (selected : List (Nat × WaitingState)) : Prog ι ρ PyException Nat := do
  let moved ← Prog.forEach selected fun (eventId, queueState) =>
    Prog.tryExcept
      (do
        let _ ← store (.transitionEventQueueState eventId queueState.val .dead)
        pure true)
      fun exc => if exc.isValueError then pure false else .raise exc
  pure (moved.count true)

def deadLetterCancelledSessionFinalEvents (readerCode : String) : Prog ι ρ PyException Nat := do
  let readerCode ← requireReaderCode readerCode
  let cancelled ← store (.selectCancelled readerCode)
  deadLetterEach store cancelled

def deadLetterExhaustedFinalEvents (readerCode : String) (maxDeliveryAttempts : Int) :
    Prog ι ρ PyException Nat := do
  requireMaxDeliveryAttempts maxDeliveryAttempts
  let readerCode ← requireReaderCode readerCode
  let exhausted ← store (.selectExhausted readerCode maxDeliveryAttempts)
  deadLetterEach store (exhausted.map fun eventId => (eventId, ⟨.retry, Or.inr rfl⟩))

def selectFinalDeliveryCandidates (readerCode : String) (batchSize : Int) :
    Prog ι ρ PyException (List Candidate) :=
  if batchSize < 1 then
    .raise ⟨.valueError, "Final delivery batch size must be at least 1."⟩
  else do
    let readerCode ← requireReaderCode readerCode
    store (.selectCandidates readerCode batchSize.toNat)

variable (sendEvent : Nat → Candidate → Prog ι ρ PyException DeliverySenderResult)

/-- process_delivery_candidate. The sender is told the attempt it serves, which it
does not use: the number only labels the request in the history of a run. -/
def processDeliveryCandidate (settings : DeliverySettings) (candidate : Candidate) :
    Prog ι ρ PyException SingleEventDeliveryResult := do
  let started ← store (.startDeliveryAttempt candidate.event.id candidate.event.queueState
    settings.maxDeliveryAttempts)
  let sent ← (sendEvent started.attemptId candidate).tryExcept fun exc =>
    if exc.isException then
      pure { outcome := .retry, errorKind := exc.cls.name, detail := exc.message }
    else .raise exc
  let completed ← store (.completeDeliveryAttempt candidate.event.id started.attemptId
    sent.outcome sent.responseCode sent.errorKind sent.detail
    (some settings.retryInitialSeconds) (some settings.retryMaxSeconds))
  pure {
    eventId := completed.eventId
    attemptId := completed.attemptId
    attemptNumber := completed.attemptNumber
    outcome := completed.outcome
    currentState := completed.currentState
    nextRetryAt := completed.nextRetryAt }

/-- The outcome of one candidate, none where its processing raised. -/
def deliverCandidate (settings : DeliverySettings) (candidate : Candidate) :
    Prog ι ρ PyException (Option Outcome) :=
  Prog.tryExcept
    (do
      let result ← processDeliveryCandidate store sendEvent settings candidate
      pure (some result.outcome))
    fun exc => if exc.isException then pure none else .raise exc

def runFinalDeliveryCycle (settings : DeliverySettings) :
    Prog ι ρ PyException FinalDeliveryCycleResult := do
  requireMaxDeliveryAttempts settings.maxDeliveryAttempts
  let _ ← deadLetterCancelledSessionFinalEvents store settings.readerCode
  let exhausted ← deadLetterExhaustedFinalEvents store settings.readerCode
    settings.maxDeliveryAttempts
  let candidates ← selectFinalDeliveryCandidates store settings.readerCode settings.batchSize
  let outcomes ← Prog.forEach candidates (deliverCandidate store sendEvent settings)
  let counted : List Outcome := [.sent, .retry, .rejected, .dead]
  pure {
    selectedCount := candidates.length
    processedCount := outcomes.countP Option.isSome
    sentCount := outcomes.count (some .sent)
    retryCount := outcomes.count (some .retry)
    rejectedCount := outcomes.count (some .rejected)
    deadCount := outcomes.count (some .dead)
    exhaustedDeadCount := exhausted
    failedCount := outcomes.countP fun outcome => outcome.all fun o => o ∉ counted }

end
end RfidBridge
