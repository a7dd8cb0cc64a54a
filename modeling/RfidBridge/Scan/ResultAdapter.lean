import RfidBridge.Python.Json
import RfidBridge.Scan.ActiveInventory
import RfidBridge.Store.Ingestion

/-!
The active half of physical_reader_backend.py and reader_result_adapter.py: one timed scan of
an active reader, turned into technical reads with an event key for each scan and EPC.
-/

namespace RfidBridge

def resultAdapterError {α : Type} (message : String) : Except PyException α :=
  raised (.other "RFIDResultAdapterError") message

def normalizeScanId (scanId : String) : Except PyException String :=
  if strip scanId = "" then resultAdapterError "Scan ID cannot be empty."
  else if 128 < (strip scanId).toList.length then
    resultAdapterError "Scan ID cannot exceed 128 characters."
  else .ok (strip scanId)

/-- The key of _active_event_key, for texts that it can encode. -/
def activeEventKey (sha : Sha256) (scanId epc : String) : String :=
  "active:" ++ sha.digest24 scanId ++ ":" ++ sha.digest24 epc

/-- `epc.encode("ascii")` does not raise. -/
def requireAscii (text : String) : Except PyException Unit :=
  if text.toList.any (127 < ·.toNat) then
    raised .unicodeEncodeError "'ascii' codec can't encode: ordinal not in range(128)"
  else .ok ()

def activeRawPayload (result : ActiveInventoryResult) (scanId epc : String) (tag : RFIDTagData) :
    String :=
  jsonObject [
    ("active_inventory", jsonObject [
      ("start_status", toString result.startFrame.status.toNat),
      ("stop_status", toString result.stopFrame.status.toNat),
      ("total_tag_frames", toString result.totalTagFrames),
      ("unique_tag_count", toString result.tags.length)]),
    ("scan_id", jsonText scanId),
    ("source", jsonText "active_inventory"),
    ("tag", jsonObject [
      ("antenna", jsonOptional (tag.antenna.map UInt8.toNat)),
      ("count", jsonOptional tag.count),
      ("epc", jsonText epc),
      ("pc", jsonOptional tag.pc),
      ("protocol_type", toString tag.protocolType.toNat),
      ("tid", jsonText tag.tid)])]

section
variable (sha : Sha256) (unicode : UpperCase)

/-- One round of the loop of active_inventory_to_technical_reads. -/
def tagToTechnicalRead (result : ActiveInventoryResult) (scanId : String) (tag : RFIDTagData) :
    Except PyException TechnicalRFIDRead := do
  let epc := unicode.upper (strip tag.epc)
  if epc = "" then resultAdapterError "Active inventory tag does not contain an EPC."
  else do
    requireUtf8 sha.toUtf8 scanId
    requireAscii epc
    .ok {
      readerEventKey := activeEventKey sha scanId epc
      epc
      rawPayload := .text (activeRawPayload result scanId epc tag) }

def tagsToTechnicalReads (result : ActiveInventoryResult) (scanId : String) :
    List RFIDTagData → Except PyException (List TechnicalRFIDRead)
  | [] => .ok []
  | tag :: tags => do
      let read ← tagToTechnicalRead sha unicode result scanId tag
      let reads ← tagsToTechnicalReads result scanId tags
      .ok (read :: reads)

def activeInventoryToTechnicalReads (result : ActiveInventoryResult) (scanId : String) :
    Except PyException (List TechnicalRFIDRead) := do
  let normalizedScanId ← normalizeScanId scanId
  tagsToTechnicalReads sha unicode result normalizedScanId result.tags

def physicalReaderBackendError {α : Type} (message : String) : Except PyException α :=
  raised (.other "PhysicalReaderBackendError") message

/-- `scan_id` of read_events, for a token as generate_scan_token hands it out. -/
def scanIdOf (device : ReaderDevice) (scanToken : String) : String :=
  device.code ++ ":" ++ strip scanToken

/-- ActiveTCPPhysicalReaderBackend with its read_events. What the run of the client over its
session came to is given, the failures of the session included. -/
def readEvents {τ : Type} [LT τ] [DecidableLT τ] [LE τ] [DecidableLE τ] [OfNat τ 0] [OfNat τ 600]
    (device : ReaderDevice) (scanSeconds : τ) (scanToken : String)
    (contact : ActiveInventoryReaderClient τ → Except PyException ActiveInventoryResult) :
    Except PyException (List TechnicalRFIDRead) :=
  if ¬ (0 < scanSeconds ∧ scanSeconds ≤ 600) then
    physicalReaderBackendError
      "Active scan duration must be greater than 0 and no more than 600 seconds."
  else if ¬ device.enabled then
    physicalReaderBackendError "Physical reader device must be enabled."
  else if device.inventoryMode ≠ .active then
    physicalReaderBackendError "Active physical reader backend requires active reporting mode."
  else if strip device.host = "" then
    physicalReaderBackendError "Physical reader host cannot be empty."
  else if strip scanToken = "" then
    physicalReaderBackendError "Generated scan token cannot be empty."
  else do
    let client ← ActiveInventoryReaderClient.create device.deviceAddress scanSeconds
    let result ← contact client
    activeInventoryToTechnicalReads sha unicode result (scanIdOf device scanToken)

end

end RfidBridge
