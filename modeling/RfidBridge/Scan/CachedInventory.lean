import RfidBridge.Protocol.ReaderTransport
import RfidBridge.Scan.ActiveInventory

/-!
reader_client.py, the cached inventory: the reader collects tags on its own while the bridge
waits, and is then asked for its statistics and for every row of its cache.
-/

namespace RfidBridge
open BigEndian

structure InventoryStatistics where
  durationMs : Int
  readCount : Int
  tagCount : Int
  deriving DecidableEq, Repr

def parseInventoryStatistics (payload : Bytes) : Except PyException InventoryStatistics :=
  if payload.length < 12 then
    raised .rfidProtocolError "Inventory statistics payload is shorter than 12 bytes."
  else
    .ok ⟨decodeSigned (payload.take 4), decodeSigned ((payload.drop 4).take 4),
      decodeSigned ((payload.drop 8).take 4)⟩

/-- What the scan asks of its session, and of the clock. -/
inductive CacheOp (τ : Type)
  | send (request : Bytes)
  | receive (expectedCommands : List UInt8)
  | sleep (seconds : τ)

abbrev CacheOp.Answer {τ : Type} : CacheOp τ → Type
  | .send _ => Unit
  | .receive _ => List RFIDFrame
  | .sleep _ => Unit

abbrev CacheScan (τ α : Type) := Program (CacheOp τ) CacheOp.Answer α

/-- A call of the session or of the clock, with its answer. -/
inductive CacheCall
  | sent (request : Bytes) (answer : Except PyException Unit)
  | received (expectedCommands : List UInt8) (answer : Except PyException (List RFIDFrame))
  | slept (answer : Except PyException Unit)
  deriving DecidableEq

/-- A session may answer or raise anything, and a wait may be interrupted. -/
inductive CacheExec {τ : Type} : (op : CacheOp τ) → List CacheCall →
    Except PyException op.Answer → List CacheCall → Prop
  | sent {request calls answer} :
      CacheExec (.send request) calls answer (calls ++ [.sent request answer])
  | received {expectedCommands calls answer} :
      CacheExec (.receive expectedCommands) calls answer
        (calls ++ [.received expectedCommands answer])
  | slept {seconds calls answer} :
      CacheExec (.sleep seconds) calls answer (calls ++ [.slept answer])

structure CachedInventoryResult where
  statisticsFrame : RFIDFrame
  durationMs : Int
  readCount : Int
  expectedTagCount : Int
  tags : List RFIDTagData
  deriving DecidableEq, Repr

structure CachedInventoryReaderClient (τ : Type) where
  address : Nat
  address_le : address ≤ 255
  scanSeconds : τ

theorem toNat_le_of_inside {value : Int} (inside : 0 ≤ value ∧ value ≤ 255) :
    value.toNat ≤ 255 := by
  omega

namespace CachedInventoryReaderClient
variable {τ : Type}

/-- `__init__`. -/
def create [LE τ] [DecidableLE τ] [OfNat τ 0] [OfNat τ 300] (address : Int) (scanSeconds : τ) :
    Except PyException (CachedInventoryReaderClient τ) :=
  if inside : 0 ≤ address ∧ address ≤ 255 then
    if 0 ≤ scanSeconds ∧ scanSeconds ≤ 300 then
      .ok ⟨address.toNat, toNat_le_of_inside inside, scanSeconds⟩
    else readerClientError "Scan duration must be between 0 and 300 seconds."
  else readerClientError "Reader address must be between 0 and 255."

def sequence (value : Nat) : Nat := value % 256

def send (request : Bytes) : CacheScan τ Unit := Prog.perform (CacheOp.send request)

def receive (expectedCommands : List UInt8) : CacheScan τ (List RFIDFrame) :=
  Prog.perform (CacheOp.receive expectedCommands)

def sleep (seconds : τ) : CacheScan τ Unit := Prog.perform (CacheOp.sleep seconds)

/-- `session.exchange`. -/
def exchange (outboundFrame : Bytes) (expectedCommands : List UInt8) :
    CacheScan τ (List RFIDFrame) := do
  send outboundFrame
  receive expectedCommands

variable (self : CachedInventoryReaderClient τ)

/-- `build_frame` with the reader's address. -/
def request (sequence : Nat) (command : UInt8) (payload : Bytes) : Except PyException Bytes :=
  buildFrame self.address sequence command.toNat payload 0

/-- The one frame that an answer has to consist of. -/
def soleResponse (frames : List RFIDFrame) (expectedCommand : UInt8) (otherwise : String) :
    Except PyException RFIDFrame :=
  match frames with
  | [frame] => do
      requireSuccess frame self.address expectedCommand
      .ok frame
  | _ => readerClientError otherwise

/-- One round of the loop of run. The rows of a count that fits `>i` have indices that do. -/
def readRow (index : Nat) : CacheScan τ RFIDTagData := do
  let request ← Prog.ofExcept
    (self.request (sequence (20 + index)) commandCacheTag (encodeSigned 4 index))
  let cacheFrames ← exchange request [commandCacheTag]
  let cacheFrame ← Prog.ofExcept (self.soleResponse cacheFrames commandCacheTag
    "Expected exactly one cache-row response.")
  let tag ← Prog.ofExcept (parseTagData cacheFrame.payload)
  if tag.epc = "" then
    Prog.ofExcept (readerClientError s!"Cache row {index} did not contain an EPC.")
  else pure tag

def run : CacheScan τ CachedInventoryResult := do
  let handshake ← Prog.ofExcept (self.request 1 commandHandshake (encode 4 1))
  let handshakeFrames ← exchange handshake [commandHandshake]
  let _ ← Prog.ofExcept (self.soleResponse handshakeFrames commandHandshake
    "Expected exactly one handshake response.")
  let startRequest ← Prog.ofExcept (self.request 10 commandStartInventory (encode 4 1))
  send startRequest
  sleep self.scanSeconds
  let stopRequest ← Prog.ofExcept (self.request 11 commandStop [])
  send stopRequest
  let statisticsFrames ← receive [commandInventoryStatistics]
  let statisticsFrame ← Prog.ofExcept (self.soleResponse statisticsFrames
    commandInventoryStatistics "Expected exactly one inventory statistics response.")
  let statistics ← Prog.ofExcept (parseInventoryStatistics statisticsFrame.payload)
  let tags ← Prog.forEach (List.range statistics.tagCount.toNat) self.readRow
  pure {
    statisticsFrame
    durationMs := statistics.durationMs
    readCount := statistics.readCount
    expectedTagCount := statistics.tagCount
    tags }

end CachedInventoryReaderClient

end RfidBridge
