import RfidBridge.Library.Actor
import RfidBridge.Library.Dict
import RfidBridge.Protocol.TagData
import RfidBridge.Python.Statements

/-!
reader_client.py, the timed active scan: an inventory is started, its tag frames are
collected until a deadline, and it is stopped on every way out. Times are whatever the clock
measures in; only a sum and a comparison are taken of them.
-/

namespace RfidBridge

/-- What the scan asks its session and its clock for. -/
inductive ScanOp (τ : Type)
  | send (request : Bytes)
  | receive (expectedCommands : List UInt8) (maximumReads : Nat) (timeoutReturnsEmpty : Bool)
  | time
  /-- How many rounds the loop makes at most. Beyond them nothing is answered. -/
  | rounds
  | beyond

abbrev ScanOp.Answer {τ : Type} : ScanOp τ → Type
  | .send _ => Unit
  | .receive .. => List RFIDFrame
  | .time => τ
  | .rounds => Nat
  | .beyond => Empty

abbrev Scan (τ α : Type) := Program (ScanOp τ) ScanOp.Answer α

/-- A call of the session, with its answer. -/
inductive ReaderCall
  | sent (request : Bytes) (answer : Except PyException Unit)
  | received (expectedCommands : List UInt8) (maximumReads : Nat) (timeoutReturnsEmpty : Bool)
      (answer : Except PyException (List RFIDFrame))
  deriving DecidableEq

/-- A session may answer or raise anything, and a clock may show any time. -/
inductive ScanExec {τ : Type} : (op : ScanOp τ) → List ReaderCall →
    Except PyException op.Answer → List ReaderCall → Prop
  | sent {request calls answer} :
      ScanExec (.send request) calls answer (calls ++ [.sent request answer])
  | received {expectedCommands maximumReads timeoutReturnsEmpty calls answer} :
      ScanExec (.receive expectedCommands maximumReads timeoutReturnsEmpty) calls answer
        (calls ++ [.received expectedCommands maximumReads timeoutReturnsEmpty answer])
  | time {calls value} : ScanExec .time calls (.ok value) calls
  | rounds {calls count} : ScanExec .rounds calls (.ok count) calls

def readerClientError {α : Type} (message : String) : Except PyException α :=
  raised (.other "RFIDReaderClientError") message

def requireSuccess (frame : RFIDFrame) (expectedAddress : Nat) (expectedCommand : UInt8) :
    Except PyException Unit :=
  if frame.address.toNat ≠ expectedAddress then
    readerClientError "RFID response address does not match the configured reader."
  else if frame.command ≠ expectedCommand then
    readerClientError "RFID response command does not match the request."
  else if frame.status ≠ 0 then
    readerClientError s!"RFID reader returned failure status {frame.status.toNat}."
  else .ok ()

structure ActiveInventoryResult where
  startFrame : RFIDFrame
  stopFrame : RFIDFrame
  tagFrames : List RFIDFrame
  tags : List RFIDTagData
  totalTagFrames : Nat
  deriving DecidableEq, Repr

structure ActiveInventoryReaderClient (τ : Type) where
  address : Nat
  address_le : address ≤ 255
  scanSeconds : τ

/-- The locals of run that _process_frames updates. -/
structure ScanState where
  startFrame : Option RFIDFrame := none
  tagFrames : List RFIDFrame := []
  tagsByEpc : List (String × RFIDTagData) := []
  deriving DecidableEq, Repr

namespace ActiveInventoryReaderClient
variable {τ : Type} [Add τ] [LT τ] [DecidableLT τ]

def acceptedStartStatuses : List UInt8 := [0, 0x99]

/-- `__init__`. -/
def create [LE τ] [DecidableLE τ] [OfNat τ 0] [OfNat τ 600] (address : Int) (scanSeconds : τ) :
    Except PyException (ActiveInventoryReaderClient τ) :=
  if inside : 0 ≤ address ∧ address ≤ 255 then
    if 0 < scanSeconds ∧ scanSeconds ≤ 600 then
      .ok ⟨address.toNat, by omega, scanSeconds⟩
    else
      readerClientError "Active scan duration must be greater than 0 and no more than 600 seconds."
  else readerClientError "Reader address must be between 0 and 255."

variable (self : ActiveInventoryReaderClient τ)

def validateFrameAddress (frame : RFIDFrame) : Except PyException Unit :=
  if frame.address.toNat ≠ self.address then
    readerClientError "RFID response address does not match the configured reader."
  else .ok ()

/-- One round of the loop of _process_frames. -/
def processFrame (state : ScanState) (frame : RFIDFrame) : Except PyException ScanState := do
  self.validateFrameAddress frame
  if frame.command = commandStartInventory then
    if frame.status ∉ acceptedStartStatuses then
      readerClientError ("RFID reader returned unsupported active inventory start status " ++
        toString frame.status.toNat ++ ".")
    else .ok { state with startFrame := state.startFrame.or (some frame) }
  else if frame.command ≠ commandActiveTag then .ok state
  else if frame.status ≠ 0 then
    readerClientError ("RFID reader returned failure status " ++ toString frame.status.toNat ++
      " for an active tag frame.")
  else do
    let tag ← parseTagData frame.payload
    if tag.epc = "" then readerClientError "Active RFID tag frame did not contain an EPC."
    else .ok { state with
      tagFrames := state.tagFrames ++ [frame]
      tagsByEpc := Dict.setDefault state.tagsByEpc tag.epc tag }

def processFrames (frames : List RFIDFrame) (state : ScanState) : Except PyException ScanState :=
  frames.foldlM self.processFrame state

def startRequest : Except PyException Bytes :=
  buildFrame self.address 10 commandStartInventory.toNat (BigEndian.encode 4 0x50) 0

def stopRequest : Except PyException Bytes :=
  buildFrame self.address 11 commandStop.toNat [] 0

def send (request : Bytes) : Scan τ Unit := Prog.perform (ScanOp.send request)

def receive (expectedCommands : List UInt8) (timeoutReturnsEmpty : Bool) :
    Scan τ (List RFIDFrame) :=
  Prog.perform (ScanOp.receive expectedCommands 32 timeoutReturnsEmpty)

def time : Scan τ τ := Prog.perform ScanOp.time

/-- What the scan window receives. -/
def scanCommands : List UInt8 := [commandStartInventory, commandActiveTag]

/-- `while self._time() < deadline`. -/
def scanUntil (deadline : τ) : Nat → ScanState → Scan τ ScanState
  | 0, _ => do
      let never : Empty ← Prog.perform ScanOp.beyond
      nomatch never
  | rounds + 1, state => do
      let now ← time
      if now < deadline then do
        let frames ← receive scanCommands true
        let state ← Prog.ofExcept (self.processFrames frames state)
        scanUntil deadline rounds state
      else pure state

/-- The finally block of run. -/
def stopInventory (stopRequest : Bytes) : Scan τ RFIDFrame := do
  send stopRequest
  let stopFrames ← receive [commandStop] false
  match stopFrames with
  | [stopFrame] => do
      Prog.ofExcept (requireSuccess stopFrame self.address commandStop)
      pure stopFrame
  | _ => Prog.ofExcept (readerClientError "Expected exactly one active inventory stop response.")

def scanResult (state : ScanState) (stopFrame : RFIDFrame) :
    Except PyException ActiveInventoryResult :=
  match state.startFrame with
  | none => readerClientError "No active inventory start response was received."
  | some startFrame => .ok {
      startFrame
      stopFrame
      tagFrames := state.tagFrames
      tags := state.tagsByEpc.map Prod.snd
      totalTagFrames := state.tagFrames.length }

def run : Scan τ ActiveInventoryResult := do
  let startRequest ← Prog.ofExcept self.startRequest
  let stopRequest ← Prog.ofExcept self.stopRequest
  send startRequest
  let started ← time
  let rounds ← Prog.perform ScanOp.rounds
  let deadline := started + self.scanSeconds
  -- an exception of the finally block replaces the one of the loop
  (self.scanUntil deadline rounds {}).handle fun scanned => do
    let stopFrame ← self.stopInventory stopRequest
    let state ← Prog.ofExcept scanned
    Prog.ofExcept (scanResult state stopFrame)

end ActiveInventoryReaderClient

end RfidBridge
