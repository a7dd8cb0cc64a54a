import RfidBridge.Scan.ResultAdapter

/-!
run_active_rfid_session_scan: one scan of a reader, whose new EPCs become events of the
reader's active session.
-/

namespace RfidBridge

def confirmationPhrase : String := "SCAN_AND_STORE_ACTIVE_SESSION"

structure ScanOptions (τ : Type) where
  deviceCode : String
  scanSeconds : τ
  confirmation : String := ""
  apply : Bool := false

/-- What the command reads of the operational configuration. -/
structure OperationalConfiguration where
  odooIntegrationEnabled : Bool := false
  pocAllowPhysicalReaderContact : Bool := false
  pocAllowOdooContact : Bool := false

/-- What it reads of the Django settings. -/
structure ScanSettings where
  allowPhysicalReaderContact : Bool := false
  allowOdooContact : Bool := false
  senderBackend : String := "disabled"

/-- The counts that the command prints. -/
structure SessionScanReport where
  technicalReads : Nat
  existingSessionEpcs : Nat
  alreadyInSession : Nat
  newTechnicalReads : Nat
  createdEvents : Nat
  duplicateEvents : Nat
  assignment : AssignmentCycleResult
  databaseEventCountBefore : Nat
  databaseEventCountAfter : Nat
  deriving DecidableEq, Repr

def commandError {α : Type} (message : String) : Except PyException α :=
  raised .commandError message

def validateSessionCompatibility (reader : ReaderDevice) (session : RFIDSession) :
    Except PyException Unit :=
  match operationByRole reader.role with
  | none => commandError "Reader has an unsupported operational role."
  | some expectedOperation =>
      if session.operationType ≠ expectedOperation then
        commandError "The active session operation is incompatible with the reader role."
      else .ok ()

def validateContactSafety (settings : ScanSettings) (configuration : OperationalConfiguration) :
    Except PyException Unit :=
  if ¬ (configuration.pocAllowPhysicalReaderContact || settings.allowPhysicalReaderContact) then
    commandError "Physical-reader contact is disabled."
  else if configuration.pocAllowOdooContact || settings.allowOdooContact then
    commandError "Odoo contact must remain disabled during the active session scan."
  else if configuration.odooIntegrationEnabled then
    commandError "Odoo integration must remain disabled during the active session scan."
  else if settings.senderBackend ≠ "disabled" then
    commandError "The sender backend must remain disabled."
  else .ok ()

/-- `RFIDSession.objects.get(device, status=ACTIVE)` with the error of the command. -/
def activeSessionForScan (db : Database) (reader : ReaderDevice) :
    Except PyException RFIDSession :=
  match getActiveSession db reader.id with
  | .error ⟨.sessionDoesNotExist, _⟩ => commandError
      "No active RFID session exists for this reader. The reader was not contacted."
  | outcome => outcome

/-- The three checks behind the printed counts. -/
def requireAllAttached (createdCount : Nat) (assignment : AssignmentCycleResult) :
    Except PyException Unit :=
  if assignment.failedCount ≠ 0 then
    commandError "One or more created events failed session assignment."
  else if assignment.unassignedCount ≠ 0 then
    commandError "One or more created events remained unassigned."
  else if assignment.assignedCount ≠ createdCount then
    commandError "Created and assigned event counts do not match."
  else .ok ()

section
variable (sha : Sha256) (unicode : UpperCase)

def comparedEpc (epc : String) : String := unicode.upper (strip epc)

/-- The set existing_session_epcs. -/
def existingSessionEpcs (db : Database) (session : RFIDSession) : List String :=
  (((db.eventsOf session.id).map (·.epc)).filter (strip · ≠ "")).map (comparedEpc unicode)

/-- The part of the command that stores what the reader reported. -/
def storeReads (reader : ReaderDevice) (session : RFIDSession)
    (technicalReads : List TechnicalRFIDRead) (now : Timestamp) (db : Database) :
    Except PyException (SessionScanReport × Database) := do
  let existing := existingSessionEpcs unicode db session
  let newReads := technicalReads.filter fun read => comparedEpc unicode read.epc ∉ existing
  let (ingestion, stored) ← ingestTechnicalReads sha.toUtf8 reader newReads now db
  let (assignment, assigned) := runActiveSessionAssignmentCycle ingestion.createdEventIds stored
  requireAllAttached ingestion.createdCount assignment
  .ok ({
      technicalReads := technicalReads.length
      existingSessionEpcs := existing.eraseDups.length
      alreadyInSession := technicalReads.length - newReads.length
      newTechnicalReads := newReads.length
      createdEvents := ingestion.createdCount
      duplicateEvents := ingestion.duplicateCount
      assignment
      databaseEventCountBefore := db.events.rows.length
      databaseEventCountAfter := assigned.events.rows.length }, assigned)

variable {τ : Type} [LT τ] [DecidableLT τ] [LE τ] [DecidableLE τ] [OfNat τ 0] [OfNat τ 600]

/-- `Command.handle`: what a run that passes reports and leaves in the store. A dry run
reports nothing. -/
def runActiveRfidSessionScan (settings : ScanSettings)
    (configuration : Option OperationalConfiguration) (options : ScanOptions τ)
    (scanToken : String)
    (contact : ActiveInventoryReaderClient τ → Except PyException ActiveInventoryResult)
    (now : Timestamp) (db : Database) : Except PyException (Option SessionScanReport × Database) :=
  if strip options.deviceCode = "" then commandError "--device-code cannot be empty."
  else if ¬ (0 < options.scanSeconds ∧ options.scanSeconds ≤ 600) then
    commandError "--scan-seconds must be greater than 0 and no more than 600."
  else match configuration with
  | none => commandError "Default operational configuration does not exist."
  | some configuration => do
      sendText sha.toUtf8 (strip options.deviceCode)
      match db.enabledReader (strip options.deviceCode) with
      | none => commandError ("Enabled reader device not found: " ++ strip options.deviceCode)
      | some reader => do
          let session ← activeSessionForScan db reader
          validateSessionCompatibility reader session
          if ¬ options.apply then .ok (none, db)
          else if strip options.confirmation ≠ confirmationPhrase then
            commandError "Enter the exact confirmation phrase SCAN_AND_STORE_ACTIVE_SESSION."
          else do
            validateContactSafety settings configuration
            let activeDevice := { reader with inventoryMode := .active }
            let reads ← readEvents sha unicode activeDevice options.scanSeconds scanToken contact
            let (report, db) ← storeReads sha unicode reader session reads now db
            .ok (some report, db)

end

end RfidBridge
