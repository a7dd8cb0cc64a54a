import RfidBridge.Worker.ReaderExecutor

/-!
final_capture_service.py: a background thread polls the reader and stores what it
reads. The control thread starts it, joins it, and looks at the error it left.
-/

namespace RfidBridge
namespace FinalCaptureService
variable (device : ReaderDevice)

def readThread : Bridge (Option Nat) := Prog.perform BridgeOp.readCaptureThread

def readSessionKey : Bridge (Option String) := Prog.perform BridgeOp.readCaptureSessionKey

def writeSessionKey (key : Option String) : Bridge Unit :=
  Prog.perform (BridgeOp.writeCaptureSessionKey key)

def writeError (error : Option PyException) : Bridge Unit :=
  Prog.perform (BridgeOp.writeCaptureError error)

def threadIsAlive (thread : Nat) : Bridge Bool := Prog.perform (BridgeOp.threadIsAlive thread)

def closeOldConnections : Bridge Unit := Prog.perform BridgeOp.closeOldConnections

def isRunning : Bridge Bool := do
  let thread ← readThread
  match thread with
  | some thread => threadIsAlive thread
  | none => pure false

/-- A new thread object that targets `_run`, and its start. -/
def spawn (sessionKey : String) : Bridge Unit := do
  Prog.perform BridgeOp.clearStopEvent
  writeError none
  writeSessionKey (some sessionKey)
  let thread ← Prog.perform BridgeOp.newThread
  Prog.perform (BridgeOp.writeCaptureThread (some thread))
  Prog.perform (BridgeOp.startThread thread)

def start (sessionKey readerCode : String) : Bridge Unit :=
  if strip readerCode ≠ device.code then
    raising .finalCaptureServiceError "Capture reader identity mismatch."
  else if strip sessionKey = "" then
    raising .finalCaptureServiceError "Capture requires a session key."
  else do
    let running ← isRunning
    if running then do
      let owned ← readSessionKey
      if owned = some (strip sessionKey) then pure ()
      else raising .finalCaptureServiceError "Capture service already owns a different session."
    else do
      let active ← PersistentActiveReaderExecutor.isActive
      if active = false then
        raising .finalCaptureServiceError "Cannot start capture while reader is inactive."
      else do
        let activeKey ← PersistentActiveReaderExecutor.readActiveSessionKey
        if activeKey ≠ some (strip sessionKey) then
          raising .finalCaptureServiceError
            "Capture session does not match active reader session."
        else spawn (strip sessionKey)

/-- The tag ingestor; a key that is None reads as an empty text. -/
def ingest (sessionKey : Option String) (frames : List RFIDFrame) : Bridge Unit := do
  let _ ← Prog.perform (BridgeOp.store
    (.ingestFinalActiveTagFrames device (sessionKey.getD "") frames))
  pure ()

/-- The loop body of `_run` behind its stop check. -/
def captureOnce : Bridge Unit := do
  let frames ← PersistentActiveReaderExecutor.pollTagFrames device
  if frames ≠ [] then do
    let sessionKey ← readSessionKey
    ingest device sessionKey frames
  else Prog.perform BridgeOp.sleep

def captureRound : Bridge (Option Unit) := do
  let stopped ← Prog.perform BridgeOp.stopEventIsSet
  if stopped then pure (some ())
  else do
    captureOnce device
    pure none

/-- The try statement of `_run`, without its finally clause. -/
def captureLoop : Bridge Unit :=
  tryElse (whileTrue (captureRound device)) (fun exc => writeError (some exc)) pure

def run : Bridge Unit := do
  closeOldConnections
  Prog.tryFinally (captureLoop device) do
    Prog.perform BridgeOp.setStopEvent
    closeOldConnections

/-- The thread around `_run`: it lives until `_run` has returned or raised. -/
def threadMain (thread : Nat) : Bridge Unit := do
  Prog.perform (BridgeOp.threadBegins thread)
  (run device).handle fun _ => Prog.perform (BridgeOp.threadEnds thread)

/-- The part of stop behind the join. -/
def requireJoined (thread : Nat) : Bridge Unit := do
  let alive ← threadIsAlive thread
  if alive then
    raising .finalCaptureServiceError "RFID capture thread did not stop within timeout."
  else do
    Prog.perform (BridgeOp.writeCaptureThread none)
    writeSessionKey none

def stop : Bridge Unit := do
  let thread ← readThread
  match thread with
  | none => writeSessionKey none
  | some thread => do
      Prog.perform BridgeOp.setStopEvent
      Prog.perform (BridgeOp.joinThread thread)
      requireJoined thread

def requireHealthy : Bridge Unit := do
  let error ← Prog.perform BridgeOp.readCaptureError
  match (error : Option PyException) with
  | some error => raising .finalCaptureServiceError ("RFID capture failed: " ++ error.message)
  | none => pure ()

end FinalCaptureService
end RfidBridge
