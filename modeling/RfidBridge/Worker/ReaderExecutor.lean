import RfidBridge.Worker.World

/-!
final_reader_executor.py: START opens a TCP session and leaves the inventory
running, STOP stops it and closes the session, and tag frames are buffered in
between.
-/

namespace RfidBridge

def requirePortAndTimeouts (device : ReaderDevice) : Except PyException Unit :=
  if ¬ (1 ≤ device.port ∧ device.port ≤ 65535) then
    raised .rfidTransportError "Reader TCP port must be between 1 and 65535."
  else if ¬ (0 < device.connectTimeoutSeconds ∧ device.connectTimeoutSeconds ≤ 300) then
    raised .rfidTransportError "Reader connect timeout must be between 0 and 300 seconds."
  else if ¬ (0 < device.readTimeoutSeconds ∧ device.readTimeoutSeconds ≤ 300) then
    raised .rfidTransportError "Reader read timeout must be between 0 and 300 seconds."
  else .ok ()

/-- `_build_transport`, that is validate_connection on the reader's row. -/
def buildTransport (device : ReaderDevice) : Except PyException Unit :=
  if strip device.host = "" then
    raised .rfidTransportError "Reader host cannot be empty."
  else requirePortAndTimeouts device

/-- What one of the three loops that wait for a response expects, and what it says. -/
structure Handshake where
  response : UInt8
  expectedCommands : List UInt8
  acceptedStatuses : List UInt8
  rejected : UInt8 → String
  missing : String

def startHandshake : Handshake where
  response := commandStartInventory
  expectedCommands := [commandStartInventory, commandActiveTag]
  acceptedStatuses := [0, 0x99]
  rejected status :=
    s!"RFID reader rejected active inventory START with status {status.toNat}."
  missing := "No active inventory START response was received."

def stopHandshake : Handshake where
  response := commandStop
  expectedCommands := [commandStop, commandActiveTag]
  acceptedStatuses := [0]
  rejected status := s!"RFID reader rejected STOP with status {status.toNat}."
  missing := "No active inventory STOP response was received."

def verifyHandshake : Handshake where
  response := commandStop
  expectedCommands := [commandStop]
  acceptedStatuses := [0]
  rejected status := s!"RFID startup STOP verification failed with status {status.toNat}."
  missing := "No STOP response received during startup verification."

namespace PersistentActiveReaderExecutor
variable (device : ReaderDevice)

/-- `_validate_device` at construction. -/
def validateDevice : Except PyException Unit :=
  if device.enabled = false then
    raised .finalReaderExecutorError "Final RFID reader must be enabled."
  else if device.inventoryMode ≠ .active then
    raised .finalReaderExecutorError "Final RFID reader must use active inventory mode."
  else if strip device.host = "" then
    raised .finalReaderExecutorError "Final RFID reader host cannot be empty."
  else .ok ()

def readSession : Bridge (Option Nat) := Prog.perform BridgeOp.readSession

def readActiveSessionKey : Bridge (Option String) := Prog.perform BridgeOp.readActiveSessionKey

def writeSession (session : Option Nat) : Bridge Unit :=
  Prog.perform (BridgeOp.writeSession session)

def writeActiveSessionKey (key : Option String) : Bridge Unit :=
  Prog.perform (BridgeOp.writeActiveSessionKey key)

def isActive : Bridge Bool := do
  let session ← readSession
  if session = none then pure false
  else do
    let key ← readActiveSessionKey
    pure key.isSome

/-- A call of a method of `self._session`. -/
def withSession {α : Type} (f : Nat → Bridge α) : Bridge α := do
  let session ← readSession
  match session with
  | some connection => f connection
  | none => raising .attributeError "'NoneType' object has no such attribute"

def send (connection : Nat) (request : Bytes) (label : Option String) : Bridge Unit :=
  Prog.perform (BridgeOp.send connection request label)

def receive (connection : Nat) (expectedCommands : List UInt8) : Bridge (List RFIDFrame) :=
  Prog.perform (BridgeOp.receive connection expectedCommands)

def closeSession (connection : Nat) : Bridge Unit :=
  Prog.perform (BridgeOp.closeSession connection)

def validateFrameAddress (frame : RFIDFrame) : Except PyException Unit :=
  if frame.address.toNat ≠ device.deviceAddress then
    raised .finalReaderExecutorError "RFID response address does not match configured reader."
  else .ok ()

def captureTagFrame (frame : RFIDFrame) : Bridge Unit := do
  Prog.ofExcept (validateFrameAddress device frame)
  if frame.command ≠ commandActiveTag then pure ()
  else if frame.status ≠ 0 then
    raising .finalReaderExecutorError "RFID reader returned a failed active-tag frame."
  else Prog.perform (BridgeOp.appendPendingTagFrame frame)

/-- One batch of frames: tag frames are captured where they are expected, and the first
response ends the wait, whatever is behind it. -/
def scanBatch (wait : Handshake) : List RFIDFrame → Bridge (Option RFIDFrame)
  | [] => pure none
  | frame :: frames => do
      Prog.ofExcept (validateFrameAddress device frame)
      if commandActiveTag ∈ wait.expectedCommands ∧ frame.command = commandActiveTag then do
        captureTagFrame device frame
        scanBatch wait frames
      else if frame.command ≠ wait.response then scanBatch wait frames
      else if frame.status ∉ wait.acceptedStatuses then
        raising .finalReaderExecutorError (wait.rejected frame.status)
      else pure (some frame)

/-- `for _ in range(attempts)`: receive a batch and look for the response in it. -/
def awaitResponse (wait : Handshake) (receiveBatch : Bridge (List RFIDFrame)) :
    Nat → Bridge RFIDFrame
  | 0 => raising .finalReaderExecutorError wait.missing
  | attempts + 1 => do
      let frames ← receiveBatch
      let found ← scanBatch device wait frames
      match found with
      | some frame => pure frame
      | none => awaitResponse wait receiveBatch attempts

def waitForStartResponse : Bridge RFIDFrame :=
  awaitResponse device startHandshake
    (withSession fun connection => receive connection startHandshake.expectedCommands) 32

def waitForStopResponse : Bridge RFIDFrame :=
  awaitResponse device stopHandshake
    (withSession fun connection => receive connection stopHandshake.expectedCommands) 32

def startRequest : Except PyException Bytes :=
  buildFrame device.deviceAddress 10 commandStartInventory.toNat (BigEndian.encode 4 0x50) 0

def stopRequest : Except PyException Bytes :=
  buildFrame device.deviceAddress 11 commandStop.toNat [] 0

/-- The try block of verify_idle on its fresh connection. -/
def verifyStopped (connection : Nat) : Bridge Unit := do
  let request ← Prog.ofExcept (stopRequest device)
  send connection request none
  let _ ← awaitResponse device verifyHandshake
    (receive connection verifyHandshake.expectedCommands) 32
  pure ()

def verifyIdle : Bridge Unit := do
  let active ← isActive
  if active then
    raising .finalReaderExecutorError
      "Cannot perform startup verification while reader is active."
  else do
    Prog.ofExcept (buildTransport device)
    let connection ← Prog.perform BridgeOp.connect
    Prog.tryFinally (verifyStopped device connection) (closeSession connection)

/-- `self._session = None` and `self._active_session_key = None`. -/
def forgetSession : Bridge Unit := do
  writeSession none
  writeActiveSessionKey none

/-- The try block of start behind the connection. -/
def startInventory (connection : Nat) (sessionKey : String) : Bridge Unit := do
  writeSession (some connection)
  let request ← Prog.ofExcept (startRequest device)
  withSession fun connection => send connection request (some sessionKey)
  let _ ← waitForStartResponse device
  writeActiveSessionKey (some sessionKey)

/-- The connection of start and its try block. A connection that was not opened needs
no closing. -/
def openAndStart (sessionKey : String) : Bridge Unit := do
  Prog.ofExcept (buildTransport device)
  tryElse (Prog.perform BridgeOp.connect)
    (fun exc => do
      forgetSession
      .raise exc)
    fun connection =>
      tryElse (startInventory device connection sessionKey)
        (fun exc => do
          Prog.tryFinally (closeSession connection) forgetSession
          .raise exc)
        pure

def start (sessionKey readerCode : String) : Bridge Unit :=
  if strip readerCode ≠ device.code then
    raising .finalReaderExecutorError "START reader identity mismatch."
  else if strip sessionKey = "" then
    raising .finalReaderExecutorError "START requires a session key."
  else do
    let active ← isActive
    if active then do
      let activeKey ← readActiveSessionKey
      if activeKey = some (strip sessionKey) then pure ()
      else raising .finalReaderExecutorError "Reader already has a different active session."
    else openAndStart device (strip sessionKey)

def closeOpenSession : Bridge Unit := do
  let session ← readSession
  if session = none then pure () else withSession closeSession

def close : Bridge Unit := do
  closeOpenSession
  forgetSession

/-- The try block of stop. -/
def stopInventory (sessionKey : String) : Bridge Unit := do
  let request ← Prog.ofExcept (stopRequest device)
  withSession fun connection => send connection request (some sessionKey)
  let _ ← waitForStopResponse device
  pure ()

def stop (sessionKey readerCode : String) : Bridge Unit :=
  if strip readerCode ≠ device.code then
    raising .finalReaderExecutorError "STOP reader identity mismatch."
  else do
    let active ← isActive
    if active = false then
      raising .finalReaderExecutorError "Reader has no active persistent session."
    else do
      let activeKey ← readActiveSessionKey
      if some (strip sessionKey) ≠ activeKey then
        raising .finalReaderExecutorError
          "STOP session key does not match active reader session."
      else Prog.tryFinally (stopInventory device (strip sessionKey)) close

def takePendingTagFrames : Bridge (List RFIDFrame) := do
  let frames ← Prog.perform BridgeOp.readPendingTagFrames
  Prog.perform BridgeOp.clearPendingTagFrames
  pure frames

/-- The receiving part of poll_tag_frames. -/
def receiveTagFrames : Bridge (List RFIDFrame) := do
  let frames ← withSession fun connection => receive connection [commandActiveTag]
  let _ ← Prog.forEach frames (captureTagFrame device)
  takePendingTagFrames

def pollTagFrames : Bridge (List RFIDFrame) := do
  let pending ← takePendingTagFrames
  if pending ≠ [] then pure pending
  else do
    let active ← isActive
    if active = false then pure [] else receiveTagFrames device

end PersistentActiveReaderExecutor
end RfidBridge
