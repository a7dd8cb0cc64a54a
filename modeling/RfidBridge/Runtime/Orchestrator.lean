import RfidBridge.Python.Statements
import RfidBridge.Runtime.State
import RfidBridge.Store.SessionService

/-!
final_runtime_orchestrator.py: the START, STOP and ABORT procedures of one reader
around its runtime record. The orchestrator owns the runtime; the reader, the
sessions, the hooks and the Odoo API are collaborators it is given.
-/

namespace RfidBridge

structure AckRequest where
  sessionKey : String
  readerCode : String
  command : RuntimeCommand
  revision : Int
  success : Bool
  message : String
  deriving DecidableEq, Repr

/-- The result object of an API call, as its decoded fields. -/
abbrev ApiResult := List (String × Json)

/-- `result.get("ok")`, as a condition. -/
def ApiResult.isOk (result : ApiResult) : Bool :=
  (Json.lookup result "ok").any Json.truthy

structure CommandExecutionResult where
  runtime : LocalReaderRuntime
  command : OdooRFIDCommand
  success : Bool
  message : String
  deriving DecidableEq

/-- What the orchestrator calls. A hook that is not set is none. -/
structure Collaborators (ι : Type) (ρ : ι → Type) where
  readRuntime : Program ι ρ LocalReaderRuntime
  writeRuntime : LocalReaderRuntime → Program ι ρ Unit
  heartbeat : LocalReaderRuntime → Program ι ρ Unit
  commands : Program ι ρ (List Json)
  ack : AckRequest → Program ι ρ ApiResult
  synchronizeStartCommand : OdooRFIDCommand → Program ι ρ SessionSyncResult
  closeLocalSession : String → String → Program ι ρ Unit
  cancelLocalSession : String → String → Program ι ρ Unit
  readerStart : String → String → Program ι ρ Unit
  readerStop : String → String → Program ι ρ Unit
  readerVerifyIdle : Program ι ρ Unit
  readerIsActive : Program ι ρ Bool
  afterReaderStart : Option (String → String → Program ι ρ Unit) := none
  beforeReaderStop : Option (String → String → Program ι ρ Unit) := none
  beforeSessionClose : Option (String → String → Program ι ρ Unit) := none
  beforeSuccessAck : Option (String → String → Program ι ρ Unit) := none

def successAckMessage : RuntimeCommand → String
  | .start => "Reader started successfully."
  | .stop => "Reader stopped successfully."
  | .abort => "Reader abort completed."

def ackRequest (command : OdooRFIDCommand) (success : Bool) (message : String) : AckRequest where
  sessionKey := command.sessionKey
  readerCode := command.readerCode
  command := command.command
  revision := command.revision
  success
  message

/-- The runtime of a fresh process. -/
def offlineRuntime (readerCode : String) : LocalReaderRuntime where
  readerCode
  state := .offline
  error := some "Reader state not yet verified after process startup."

namespace FinalRuntimeOrchestrator
variable {ι : Type} {ρ : ι → Type} (self : Collaborators ι ρ)

def runHook (hook : Option (String → String → Program ι ρ Unit)) (command : OdooRFIDCommand) :
    Program ι ρ Unit :=
  match hook with
  | some run => run command.sessionKey command.readerCode
  | none => pure ()

/-- `self.runtime = step(self.runtime)`. -/
def updateRuntime (step : LocalReaderRuntime → Except PyException LocalReaderRuntime) :
    Program ι ρ Unit := do
  let runtime ← self.readRuntime
  let runtime ← Prog.ofExcept (step runtime)
  self.writeRuntime runtime

def resultNow (command : OdooRFIDCommand) (success : Bool) (message : String) :
    Program ι ρ CommandExecutionResult := do
  let runtime ← self.readRuntime
  pure { runtime, command, success, message }

def markReaderVerifiedIdle : Program ι ρ Unit := do
  let runtime ← self.readRuntime
  if runtime.sessionKey ≠ none then
    raising .finalRuntimeOrchestratorError
      "Cannot mark reader idle while a local runtime session exists."
  else
    self.writeRuntime {
      readerCode := runtime.readerCode
      state := .idle
      lastCommandRevision := runtime.lastCommandRevision }

def sendCompletedSuccessAck (command : OdooRFIDCommand) : Program ι ρ Unit := do
  when_ (command.command == .stop) (runHook self.beforeSuccessAck command)
  let ackResult ← self.ack (ackRequest command true (successAckMessage command.command))
  when_ (!ackResult.isOk)
    (raising .finalRuntimeOrchestratorError "Odoo did not accept completed command ACK.")

def sendFailureAck (command : OdooRFIDCommand) (message : String) : Program ι ρ Unit :=
  ignoring (self.ack (ackRequest command false message))

def resendCompletedAck (command : OdooRFIDCommand) : Program ι ρ CommandExecutionResult :=
  tryElse (sendCompletedSuccessAck self command)
    (fun exc => resultNow self command false
      ("Completed command ACK is still pending: " ++ exc.message))
    fun _ => resultNow self command true "Duplicate completed command ACK resent successfully."

/-- The common end of the three procedures: the command is recorded as completed and
its success ACK is attempted. -/
def completeCommand (command : OdooRFIDCommand) (pending accepted : String) :
    Program ι ρ CommandExecutionResult := do
  updateRuntime self fun runtime => runtime.markCommandCompleted command
  tryElse (sendCompletedSuccessAck self command)
    (fun exc => resultNow self command false (pending ++ exc.message))
    fun _ => resultNow self command true accepted

/-- The emergency STOP of a failed START, when the reader is active. -/
def emergencyStop (command : OdooRFIDCommand) : Program ι ρ Unit := do
  runHook self.beforeReaderStop command
  self.readerStop command.sessionKey command.readerCode
  runHook self.beforeSessionClose command

def startErrorMessage (exc : PyException) (stopError cleanupError : Option PyException) :
    String :=
  let message := match stopError with
    | some stopExc => exc.message ++ "; emergency reader STOP also failed: " ++ stopExc.message
    | none => exc.message
  match cleanupError with
  | some cleanupExc => message ++
      "; newly-created local session cleanup also failed: " ++ cleanupExc.message
  | none => message

def startFailed (command : OdooRFIDCommand) (sessionSync : Option SessionSyncResult)
    (exc : PyException) : Program ι ρ CommandExecutionResult := do
  let active ← self.readerIsActive
  let stopError ← (if active then attempt (emergencyStop self command) else pure none)
  let cleanupError ←
    (if sessionSync.any (·.created) then
      attempt (self.cancelLocalSession command.sessionKey command.readerCode)
    else pure none)
  let message := startErrorMessage exc stopError cleanupError
  updateRuntime self fun runtime => runtime.markDegraded message
  sendFailureAck self command message
  resultNow self command false message

/-- What follows the session synchronisation in the try block of START. -/
def startReader (command : OdooRFIDCommand) : Program ι ρ Unit := do
  self.readerStart command.sessionKey command.readerCode
  updateRuntime self LocalReaderRuntime.markReaderStarted
  runHook self.afterReaderStart command

def executeStart (command : OdooRFIDCommand) (plannedRuntime : LocalReaderRuntime) :
    Program ι ρ CommandExecutionResult := do
  self.writeRuntime plannedRuntime
  tryElse (self.synchronizeStartCommand command)
    (fun exc => startFailed self command none exc)
    fun sessionSync =>
      tryElse (startReader self command)
        (fun exc => startFailed self command (some sessionSync) exc)
        fun _ => completeCommand self command
          "Reader started successfully but Odoo ACK is pending: "
          "Reader started and Odoo ACK accepted."

/-- The try block of STOP. -/
def stopReader (command : OdooRFIDCommand) : Program ι ρ Unit := do
  runHook self.beforeReaderStop command
  self.readerStop command.sessionKey command.readerCode
  updateRuntime self LocalReaderRuntime.markReaderStopped
  runHook self.beforeSessionClose command
  self.closeLocalSession command.sessionKey command.readerCode

def executeStop (command : OdooRFIDCommand) (plannedRuntime : LocalReaderRuntime) :
    Program ι ρ CommandExecutionResult := do
  self.writeRuntime plannedRuntime
  tryElse (stopReader self command)
    (fun exc => do
      updateRuntime self fun runtime => runtime.markDegraded exc.message
      sendFailureAck self command exc.message
      resultNow self command false exc.message)
    fun _ => completeCommand self command
      "Reader stopped successfully but Odoo ACK is pending: "
      "Reader stopped and Odoo ACK accepted."

/-- `except FinalSessionError: pass` around the cancellation in ABORT. -/
def cancelIfPresent (command : OdooRFIDCommand) : Program ι ρ Unit :=
  (self.cancelLocalSession command.sessionKey command.readerCode).tryExcept fun exc =>
    if exc.cls = .finalSessionError then pure () else .raise exc

/-- The try block of ABORT. Without an active reader session only a fresh STOP and its
answer prove the hardware idle. -/
def abortReader (command : OdooRFIDCommand) : Program ι ρ Unit := do
  runHook self.beforeReaderStop command
  let active ← self.readerIsActive
  (if active then self.readerStop command.sessionKey command.readerCode
  else self.readerVerifyIdle)
  updateRuntime self LocalReaderRuntime.markReaderStopped
  runHook self.beforeSessionClose command
  cancelIfPresent self command

def executeAbort (command : OdooRFIDCommand) (plannedRuntime : LocalReaderRuntime) :
    Program ι ρ CommandExecutionResult := do
  self.writeRuntime plannedRuntime
  tryElse (abortReader self command)
    (fun exc => do
      updateRuntime self fun runtime => runtime.markDegraded exc.message
      resultNow self command false exc.message)
    fun _ => completeCommand self command
      "Reader abort completed but Odoo ACK is pending: "
      "Abort completed safely."

def rejectCommand (command : OdooRFIDCommand) (message : String) :
    Program ι ρ CommandExecutionResult := do
  sendFailureAck self command message
  resultNow self command false message

def processCommand (command : OdooRFIDCommand) : Program ι ρ CommandExecutionResult := do
  let runtime ← self.readRuntime
  match runtime.planCommand command with
  | .error exc => rejectCommand self command exc.message
  | .ok transition =>
      if transition.duplicate then resendCompletedAck self command
      else match command.command with
        | .start => executeStart self command transition.after
        | .stop => executeStop self command transition.after
        | .abort => executeAbort self command transition.after

def heartbeat : Program ι ρ Unit := do
  let runtime ← self.readRuntime
  self.heartbeat runtime

/-- One round of poll_commands: a command for another reader is skipped. -/
def pollCommand (py : Builtins)
    (process : OdooRFIDCommand → Program ι ρ CommandExecutionResult) (payload : Json) :
    Program ι ρ (Option CommandExecutionResult) := do
  let command ← Prog.ofExcept (OdooRFIDCommand.fromPayload py payload)
  let runtime ← self.readRuntime
  if command.readerCode ≠ runtime.readerCode then pure none
  else do
    let result ← process command
    pure (some result)

/-- poll_commands over a given process_command. -/
def pollCommands (py : Builtins)
    (process : OdooRFIDCommand → Program ι ρ CommandExecutionResult) :
    Program ι ρ (List CommandExecutionResult) := do
  let payloads ← self.commands
  let results ← Prog.forEach payloads (pollCommand self py process)
  pure (results.filterMap id)

end FinalRuntimeOrchestrator
end RfidBridge
