import RfidBridge.Python.Json
import RfidBridge.Store.Models

/-!
Commands from Odoo. A command value exists only with the properties that
from_payload checks: stripped non-empty identities and a positive revision.
-/

namespace RfidBridge

inductive RuntimeCommand
  | start
  | stop
  | abort
  deriving DecidableEq, Repr

def RuntimeCommand.value : RuntimeCommand → String
  | .start => "start"
  | .stop => "stop"
  | .abort => "abort"

def RuntimeCommand.ofValue (value : String) : Option RuntimeCommand :=
  if value = "start" then some .start
  else if value = "stop" then some .stop
  else if value = "abort" then some .abort
  else none

/-- A text that `str(...).strip()` leaves alone and that is not empty. -/
def Clean (text : String) : Prop := strip text = text ∧ text ≠ ""

instance (text : String) : Decidable (Clean text) :=
  inferInstanceAs (Decidable (_ ∧ _))

structure OdooRFIDCommand where
  sessionKey : String
  readerCode : String
  command : RuntimeCommand
  revision : Int
  picking : String := ""
  operation : Option OperationType := none
  sessionKey_clean : Clean sessionKey := by decide
  readerCode_clean : Clean readerCode := by decide
  revision_pos : 1 ≤ revision := by decide
  deriving DecidableEq

/-! Facts about the fields of commands in evaluated runs. -/

theorem clean_gate : Clean "GATE-1" := by decide

theorem firstRevision_pos : (1 : Int) ≤ 1 := by decide

theorem secondRevision_pos : (1 : Int) ≤ 2 := by decide

namespace OdooRFIDCommand

def operationOfText (raw : String) : Except PyException (Option OperationType) :=
  if raw = "" then .ok none
  else if raw = "receipt" then .ok (some .receipt)
  else if raw = "dispatch" then .ok (some .dispatch)
  else raised .runtimeStateError "RFID command operation must be 'receipt' or 'dispatch'."

/-- `int(payload.get("revision"))`; an OverflowError is not caught. -/
def revisionOfValue (py : Builtins) (value : Option Json) : Except PyException Int :=
  match Json.toInt py value with
  | .ok revision => .ok revision
  | .error .overflowError =>
      raised .overflowError "cannot convert float infinity to integer"
  | .error _ => raised .runtimeStateError "RFID command revision must be an integer."

def commandOfText (py : Builtins) (raw : String) : Except PyException RuntimeCommand :=
  match RuntimeCommand.ofValue raw with
  | some command => .ok command
  | none => raised .runtimeStateError s!"Unsupported RFID command: {py.reprText raw}"

def fromPayload (py : Builtins) : Json → Except PyException OdooRFIDCommand
  | .dict fields =>
      let textOf (name : String) := strip (Json.textOrEmpty py (Json.lookup fields name))
      do
        let operation ← operationOfText (textOf "operation")
        if hs : textOf "session_key" = "" then
          raised .runtimeStateError "RFID command is missing session_key."
        else if hr : textOf "reader_code" = "" then
          raised .runtimeStateError "RFID command is missing reader_code."
        else do
          let command ← commandOfText py (textOf "command")
          let revision ← revisionOfValue py (Json.lookup fields "revision")
          if hp : revision < 1 then
            raised .runtimeStateError "RFID command revision must be positive."
          else
            .ok {
              sessionKey := textOf "session_key"
              readerCode := textOf "reader_code"
              command
              revision
              picking := textOf "picking"
              operation
              sessionKey_clean := ⟨strip_strip _, hs⟩
              readerCode_clean := ⟨strip_strip _, hr⟩
              revision_pos := Int.not_lt.mp hp }
  | _ => raised .runtimeStateError "RFID command payload must be a dictionary."

@[simp] theorem strip_sessionKey (command : OdooRFIDCommand) :
    strip command.sessionKey = command.sessionKey := command.sessionKey_clean.1

@[simp] theorem strip_readerCode (command : OdooRFIDCommand) :
    strip command.readerCode = command.readerCode := command.readerCode_clean.1

end OdooRFIDCommand
end RfidBridge
