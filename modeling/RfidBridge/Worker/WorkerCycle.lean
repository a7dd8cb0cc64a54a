import RfidBridge.Delivery.DeliveryBarrier
import RfidBridge.Worker.CaptureService

/-!
final_worker_cycle.py with a capture service, and the wiring of run_final_rfid_worker
around it: the hooks of the orchestrator, the startup, the control loop and the
shutdown.
-/

namespace RfidBridge
open PersistentActiveReaderExecutor

def store (op : StoreOp) : Bridge op.Answer := Prog.perform (BridgeOp.store op)

namespace FinalWorkerCycle
variable (device : ReaderDevice)

def startCapture (sessionKey readerCode : String) : Bridge Unit :=
  FinalCaptureService.start device sessionKey readerCode

def stopCapture (sessionKey readerCode : Option String) : Bridge Unit :=
  if readerCode ≠ none ∧ readerCode ≠ some device.code then
    raising .finalWorkerCycleError "Capture-stop reader identity mismatch."
  else do
    let activeCaptureKey ← FinalCaptureService.readSessionKey
    if present sessionKey ∧ present activeCaptureKey ∧ activeCaptureKey ≠ sessionKey then
      raising .finalWorkerCycleError "Capture-stop session identity mismatch."
    else FinalCaptureService.stop

def drainPendingTags (sessionKey readerCode : String) : Bridge Unit :=
  if readerCode ≠ device.code then
    raising .finalWorkerCycleError "Tag-drain reader identity mismatch."
  else do
    let frames ← takePendingTagFrames
    if frames = [] then pure ()
    else FinalCaptureService.ingest device (some sessionKey) frames

def requireStopDeliveryComplete (sessionKey readerCode : String) : Bridge Unit :=
  if readerCode ≠ device.code then
    raising .finalWorkerCycleError "STOP delivery barrier reader identity mismatch."
  else do
    let _ ← requireFinalSessionDeliveryComplete store sessionKey readerCode
    pure ()

/-- The orchestrator's collaborators as run_final_rfid_worker sets them. -/
def collaborators : Collaborators BridgeOp BridgeOp.Answer where
  readRuntime := Prog.perform BridgeOp.readRuntime
  writeRuntime runtime := Prog.perform (BridgeOp.writeRuntime runtime)
  heartbeat runtime := Prog.perform (BridgeOp.heartbeat runtime)
  commands := Prog.perform BridgeOp.commands
  ack request := Prog.perform (BridgeOp.ack request)
  synchronizeStartCommand command := store (.synchronizeStartCommand command)
  closeLocalSession sessionKey readerCode := do
    let _ ← store (.closeLocalSession sessionKey readerCode)
    pure ()
  cancelLocalSession sessionKey readerCode := do
    let _ ← store (.cancelLocalSession sessionKey readerCode)
    pure ()
  readerStart := PersistentActiveReaderExecutor.start device
  readerStop := PersistentActiveReaderExecutor.stop device
  readerVerifyIdle := verifyIdle device
  readerIsActive := isActive
  afterReaderStart := some (startCapture device)
  beforeReaderStop := some fun sessionKey readerCode =>
    stopCapture device (some sessionKey) (some readerCode)
  beforeSessionClose := some (drainPendingTags device)
  beforeSuccessAck := some (requireStopDeliveryComplete device)

/-- process_command between its marks in the history. -/
def processCommand (command : OdooRFIDCommand) : Bridge CommandExecutionResult := do
  Prog.perform (BridgeOp.commandEntered command)
  let result ← FinalRuntimeOrchestrator.processCommand (collaborators device) command
  Prog.perform (BridgeOp.commandReturned command)
  pure result

/-- run_once. Its counters are only printed, so they are left out. -/
def runOnce (py : Builtins) : Bridge Unit := do
  FinalCaptureService.requireHealthy
  FinalRuntimeOrchestrator.heartbeat (collaborators device)
  let _ ← FinalRuntimeOrchestrator.pollCommands (collaborators device) py (processCommand device)
  FinalCaptureService.requireHealthy

end FinalWorkerCycle

/-- The options and settings of the command. -/
structure CommandSettings where
  once : Bool := false
  maxCycles : Option Int := none
  allowPhysicalReaderContact : Bool := false
  allowOdooContact : Bool := false
  senderBackend : String := "disabled"
  readerCode : String
  deriving DecidableEq, Repr

namespace Command

def requireCycleOptions (settings : CommandSettings) : Except PyException (Option Nat) :=
  if settings.once ∧ settings.maxCycles ≠ none then
    raised .commandError "--once and --max-cycles cannot be used together."
  else if settings.once then .ok (some 1)
  else match settings.maxCycles with
    | none => .ok none
    | some cycles =>
        if cycles < 1 then raised .commandError "--max-cycles must be at least 1."
        else .ok (some cycles.toNat)

def requireLiveGates (settings : CommandSettings) : Except PyException Unit :=
  if settings.allowPhysicalReaderContact = false then
    raised .commandError "Final RFID worker requires ALLOW_PHYSICAL_READER_CONTACT=True."
  else if settings.allowOdooContact = false then
    raised .commandError "Final RFID worker requires ALLOW_ODOO_CONTACT=True."
  else if settings.senderBackend ≠ "disabled" then
    raised .commandError "Final RFID worker requires SENDER_BACKEND=disabled."
  else .ok ()

/-- The checks of handle on the reader row that its lookup found. -/
def requireReader (settings : CommandSettings) (found : Option ReaderDevice) :
    Except PyException ReaderDevice :=
  if strip settings.readerCode = "" then
    raised .commandError "Final RFID reader code cannot be empty."
  else match found with
    | none => raised .commandError "Configured final RFID reader does not exist or is disabled."
    | some device =>
        if device.inventoryMode ≠ .active then
          raised .commandError "Final RFID reader must use active inventory mode."
        else do
          validateDevice device
          .ok device

theorem requireReader_eq_ok {settings : CommandSettings} {device device' : ReaderDevice}
    (h : requireReader settings (some device) = .ok device') : device' = device := by
  simp only [requireReader, guard_eq_ok, bind_eq_ok] at h
  obtain ⟨-, -, -, -, same⟩ := h
  exact (Except.ok.inj same).symm

section
variable (py : Builtins) (device : ReaderDevice)

/-- A finite number of control cycles, with a sleep between them. -/
def finiteCycles : Nat → Bridge Unit
  | 0 => pure ()
  | 1 => FinalWorkerCycle.runOnce device py
  | cycles + 2 => do
      FinalWorkerCycle.runOnce device py
      Prog.perform BridgeOp.sleep
      finiteCycles (cycles + 1)

/-- The long-running worker retries transient Odoo transport failures. -/
def retryTransport (exc : PyException) : Bridge Unit :=
  if exc.cls = .odooRfidApiTransportError then pure () else .raise exc

def endlessCycle : Bridge (Option Unit) := do
  (FinalWorkerCycle.runOnce device py).tryExcept retryTransport
  Prog.perform BridgeOp.sleep
  pure none

def controlLoop (maxCycles : Option Nat) : Bridge Unit :=
  match maxCycles with
  | some cycles => finiteCycles py device cycles
  | none => whileTrue (endlessCycle py device)

/-- `except KeyboardInterrupt` around the control loop. -/
def untilInterrupted (loop : Bridge Unit) : Bridge Unit :=
  loop.tryExcept fun exc =>
    if exc.cls = .keyboardInterrupt then pure () else .raise exc

/-- The physical stop of the shutdown. -/
def stopForShutdown (sessionKey : String) : Bridge Unit := do
  FinalWorkerCycle.stopCapture device (some sessionKey) (some device.code)
  PersistentActiveReaderExecutor.stop device sessionKey device.code

def commandErrorFrom (message : String) (exc : PyException) : Bridge Unit :=
  raising .commandError (message ++ exc.message)

/-- The shutdown of an active reader: stop it, then store what is buffered. -/
def shutdownActiveReader (sessionKey : String) : Bridge Bool := do
  tryElse (stopForShutdown device sessionKey)
    (commandErrorFrom "Failed to verify physical RFID STOP during worker shutdown: ") pure
  tryElse (FinalWorkerCycle.drainPendingTags device sessionKey device.code)
    (commandErrorFrom ("RFID reader stopped, but final buffered tag persistence failed " ++
      "during shutdown: ")) pure
  pure true

/-- `_safe_shutdown_reader`: whether an active reader was stopped. -/
def safeShutdownReader : Bridge Bool := do
  let active ← isActive
  if active = false then do
    FinalWorkerCycle.stopCapture device none none
    close
    pure false
  else do
    let activeKey ← readActiveSessionKey
    if strip (activeKey.getD "") = "" then do
      close
      raising .commandError
        "RFID reader shutdown found an active connection without a session key."
    else shutdownActiveReader device (strip (activeKey.getD ""))

/-- handle behind the stale-session check: the control loop and the shutdown. -/
def runWorker (maxCycles : Option Nat) : Bridge Unit := do
  FinalRuntimeOrchestrator.markReaderVerifiedIdle (FinalWorkerCycle.collaborators device)
  Prog.tryFinally (untilInterrupted (controlLoop py device maxCycles)) do
    let _ ← safeShutdownReader device
    pure ()

/-- The startup and the run of the worker on its reader row. -/
def startWorker (maxCycles : Option Nat) : Bridge Unit := do
  verifyIdle device
  let existingActive : Nat ← store (.countActiveSessions device.id)
  if existingActive ≠ 0 then
    raising .commandError ("Final RFID reader was forced to a verified idle state, " ++
      "but a stale active local session remains. " ++
      "Recovery is required before the worker may start.")
  else runWorker py device maxCycles

end

/-- handle, given the reader row that its lookup of an enabled reader found. -/
def handle (py : Builtins) (settings : CommandSettings) (found : Option ReaderDevice) :
    Bridge Unit := do
  let maxCycles ← Prog.ofExcept (requireCycleOptions settings)
  Prog.ofExcept (requireLiveGates settings)
  let device ← Prog.ofExcept (requireReader settings found)
  startWorker py device maxCycles

end Command
end RfidBridge
