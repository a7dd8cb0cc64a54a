/-!
Python exceptions as the bridge raises and catches them. A class is one
constructor; the subclass relation is only asked where an `except` clause of
the source asks it.
-/

namespace RfidBridge

inductive ExceptionClass
  | rfidProtocolError
  | rfidTransportError
  | runtimeStateError
  | finalRuntimeOrchestratorError
  | finalReaderExecutorError
  | finalCaptureServiceError
  | finalWorkerCycleError
  | finalSessionError
  | finalTagIngestionError
  | finalDeliveryCycleError
  | finalDeliveryBarrierError
  | finalDeliveryBarrierPending
  | finalDeliveryBarrierFailed
  | finalOdooEventSenderError
  | odooRfidApiConfigurationError
  | odooRfidApiTransportError
  | odooRfidApiProtocolError
  | commandError
  | readerDoesNotExist
  | sessionDoesNotExist
  | eventDoesNotExist
  | attemptDoesNotExist
  | multipleObjectsReturned
  | dataError
  | integrityError
  | valueError
  | unicodeEncodeError
  | typeError
  | overflowError
  | attributeError
  | runtimeError
  | keyboardInterrupt
  | other (name : String)
  deriving DecidableEq, Repr

/-- `type(exc).__name__`. -/
def ExceptionClass.name : ExceptionClass → String
  | .rfidProtocolError => "RFIDProtocolError"
  | .rfidTransportError => "RFIDTransportError"
  | .runtimeStateError => "RuntimeStateError"
  | .finalRuntimeOrchestratorError => "FinalRuntimeOrchestratorError"
  | .finalReaderExecutorError => "FinalReaderExecutorError"
  | .finalCaptureServiceError => "FinalCaptureServiceError"
  | .finalWorkerCycleError => "FinalWorkerCycleError"
  | .finalSessionError => "FinalSessionError"
  | .finalTagIngestionError => "FinalTagIngestionError"
  | .finalDeliveryCycleError => "FinalDeliveryCycleError"
  | .finalDeliveryBarrierError => "FinalDeliveryBarrierError"
  | .finalDeliveryBarrierPending => "FinalDeliveryBarrierPending"
  | .finalDeliveryBarrierFailed => "FinalDeliveryBarrierFailed"
  | .finalOdooEventSenderError => "FinalOdooEventSenderError"
  | .odooRfidApiConfigurationError => "OdooRFIDApiConfigurationError"
  | .odooRfidApiTransportError => "OdooRFIDApiTransportError"
  | .odooRfidApiProtocolError => "OdooRFIDApiProtocolError"
  | .commandError => "CommandError"
  | .readerDoesNotExist | .sessionDoesNotExist | .eventDoesNotExist
  | .attemptDoesNotExist => "DoesNotExist"
  | .multipleObjectsReturned => "MultipleObjectsReturned"
  | .dataError => "DataError"
  | .integrityError => "IntegrityError"
  | .valueError => "ValueError"
  | .unicodeEncodeError => "UnicodeEncodeError"
  | .typeError => "TypeError"
  | .overflowError => "OverflowError"
  | .attributeError => "AttributeError"
  | .runtimeError => "RuntimeError"
  | .keyboardInterrupt => "KeyboardInterrupt"
  | .other name => name

/-- An exception instance: its class and its text `str(exc)`. -/
structure PyException where
  cls : ExceptionClass
  message : String
  deriving DecidableEq, Repr

namespace PyException

/-- `except Exception` lets only a KeyboardInterrupt through. -/
def isException (exc : PyException) : Bool :=
  exc.cls != .keyboardInterrupt

/-- `except ValueError`; UnicodeEncodeError and RFIDProtocolError are ValueErrors too. -/
def isValueError (exc : PyException) : Bool :=
  exc.cls == .valueError || exc.cls == .unicodeEncodeError || exc.cls == .rfidProtocolError

/-- `except OdooRFIDApiError`, the base of the three API errors. -/
def isOdooRFIDApiError (exc : PyException) : Bool :=
  exc.cls == .odooRfidApiConfigurationError ||
  exc.cls == .odooRfidApiTransportError ||
  exc.cls == .odooRfidApiProtocolError

end PyException

/-- `raise cls(message)` in a pure function. -/
abbrev raised {α : Type} (cls : ExceptionClass) (message : String) : Except PyException α :=
  .error ⟨cls, message⟩

/-- A sequence of fallible steps returns only if every step does. -/
theorem bind_eq_ok {ε α β : Type} {x : Except ε α} {f : α → Except ε β} {b : β} :
    (x >>= f) = .ok b ↔ ∃ a, x = .ok a ∧ f a = .ok b := by
  cases x with
  | error e => simp [bind, Except.bind]
  | ok a => exact ⟨fun h => ⟨a, rfl, h⟩, fun ⟨_, h, hf⟩ => Except.ok.inj h ▸ hf⟩

theorem bind_eq_error {ε α β : Type} {x : Except ε α} {f : α → Except ε β} {e : ε} :
    (x >>= f) = .error e ↔ x = .error e ∨ ∃ a, x = .ok a ∧ f a = .error e := by
  cases x <;> simp [bind, Except.bind]

theorem map_eq_ok {ε α β : Type} {x : Except ε α} {f : α → β} {b : β} :
    x.map f = .ok b ↔ ∃ a, x = .ok a ∧ f a = b := by
  cases x <;> simp [Except.map]

/-- `if failing: raise` in front of the rest of a function. -/
theorem guard_eq_ok {ε α : Type} {p : Prop} [Decidable p] {e : ε} {x : Except ε α} {a : α} :
    (if p then .error e else x) = .ok a ↔ ¬ p ∧ x = .ok a := by
  split <;> simp_all

theorem guard_eq_error {ε α : Type} {p : Prop} [Decidable p] {e e' : ε} {x : Except ε α} :
    (if p then .error e else x) = .error e' ↔ p ∧ e = e' ∨ ¬ p ∧ x = .error e' := by
  split <;> simp_all

end RfidBridge
