import RfidBridge.Library.Table
import RfidBridge.Python.Exceptions
import RfidBridge.Python.Text

/-!
The database tables of models.py. A row's integer key also stands for its UUID;
updated_at, notes and display texts are read by no modelled function and left
out. Reader rows are data of the database that no operation here edits.
-/

namespace RfidBridge

/-- Microseconds since datetime.min. -/
abbrev Timestamp := Nat

/-- datetime.max. -/
def maxTimestamp : Timestamp := 315537897599999999

inductive Role
  | receiving
  | dispatch
  | other (value : String)
  deriving DecidableEq, Repr

inductive InventoryMode
  | cached
  | active
  deriving DecidableEq, Repr

structure ReaderDevice where
  id : Nat
  code : String
  role : Role := .receiving
  host : String := ""
  port : Nat := 8090
  deviceAddress : Nat := 1
  inventoryMode : InventoryMode := .cached
  connectTimeoutSeconds : Nat := 5
  readTimeoutSeconds : Nat := 5
  enabled : Bool := false
  sharedOperations : Bool := false
  deriving DecidableEq, Repr

inductive OperationType
  | receipt
  | dispatch
  deriving DecidableEq, Repr

inductive SessionStatus
  | active
  | closed
  | cancelled
  deriving DecidableEq, Repr

structure RFIDSession where
  id : Nat
  externalSessionKey : String
  deviceId : Nat
  operationType : OperationType
  odooModel : String := "stock.picking"
  odooRecordId : Int
  odooReference : String := ""
  status : SessionStatus := .active
  closedAt : Option Timestamp := none
  deriving DecidableEq, Repr

inductive QueueState
  | unassigned
  | queued
  | inflight
  | retry
  | sent
  | rejected
  | dead
  deriving DecidableEq, Repr

/-- The JSON object that final ingestion stores, before it is written as text. -/
structure FinalRawPayload where
  sessionKey : String
  readerCode : String
  readerAddress : UInt8
  sequence : UInt8
  command : UInt8
  status : UInt8
  protocolType : UInt8
  antenna : Option UInt8
  pc : Option Int
  epc : String
  tid : String
  count : Option Int
  deriving DecidableEq, Repr

inductive RawPayload
  | text (value : String)
  | final (value : FinalRawPayload)
  deriving DecidableEq, Repr

structure RawRFIDEvent where
  id : Nat
  deviceId : Nat
  rfidSessionId : Option Nat := none
  readerEventKey : String
  epc : String := ""
  rawPayload : RawPayload
  queueState : QueueState := .unassigned
  receivedAt : Timestamp
  deriving DecidableEq, Repr

/-- DeliveryAttempt.Outcome; `other` is a text outside its choices, which only a
sender can supply. -/
inductive Outcome
  | started
  | sent
  | retry
  | rejected
  | dead
  | other (value : String)
  deriving DecidableEq, Repr

structure DeliveryAttempt where
  id : Nat
  eventId : Nat
  attemptNumber : Nat
  outcome : Outcome := .started
  responseCode : String := ""
  errorKind : String := ""
  detail : String := ""
  attemptedAt : Timestamp
  completedAt : Option Timestamp := none
  nextRetryAt : Option Timestamp := none
  deriving DecidableEq, Repr

instance : Keyed RFIDSession := ⟨RFIDSession.id⟩
instance : Keyed RawRFIDEvent := ⟨RawRFIDEvent.id⟩
instance : Keyed DeliveryAttempt := ⟨DeliveryAttempt.id⟩

@[simp] theorem key_session (s : RFIDSession) : Keyed.key s = s.id := rfl
@[simp] theorem key_event (e : RawRFIDEvent) : Keyed.key e = e.id := rfl
@[simp] theorem key_attempt (a : DeliveryAttempt) : Keyed.key a = a.id := rfl

structure Database where
  devices : List ReaderDevice
  sessions : Table RFIDSession := .empty
  events : Table RawRFIDEvent := .empty
  attempts : Table DeliveryAttempt := .empty

def QueueState.value : QueueState → String
  | .unassigned => "unassigned"
  | .queued => "queued"
  | .inflight => "inflight"
  | .retry => "retry"
  | .sent => "sent"
  | .rejected => "rejected"
  | .dead => "dead"

def Outcome.value : Outcome → String
  | .started => "started"
  | .sent => "sent"
  | .retry => "retry"
  | .rejected => "rejected"
  | .dead => "dead"
  | .other value => value

def SessionStatus.value : SessionStatus → String
  | .active => "active"
  | .closed => "closed"
  | .cancelled => "cancelled"

def OperationType.value : OperationType → String
  | .receipt => "receipt"
  | .dispatch => "dispatch"

def Role.value : Role → String
  | .receiving => "receiving"
  | .dispatch => "dispatch"
  | .other value => value

/-- `text.encode("utf-8")` does not raise. -/
def requireUtf8 (utf8 : Utf8) (text : String) : Except PyException Unit :=
  if utf8.encodes text = false then
    raised .unicodeEncodeError "'utf-8' codec can't encode characters: surrogates not allowed"
  else .ok ()

/-- The database driver sends a text as UTF-8 and refuses a NUL character. -/
def sendText (utf8 : Utf8) (text : String) : Except PyException Unit := do
  requireUtf8 utf8 text
  if text.toList.contains (Char.ofNat 0) then
    raised .dataError "PostgreSQL text fields cannot contain NUL (0x00) bytes"
  else .ok ()

/-- What a column of this length keeps of a text: blanks in excess are cut off. -/
def keptText : Option Nat → String → String
  | none, text => text
  | some limit, text =>
      if text.toList.length ≤ limit then text else String.ofList (text.toList.take limit)

/-- Whatever else exceeds the length of a column is refused. -/
def exceeds : Option Nat → String → Bool
  | none, _ => false
  | some limit, text => (text.toList.drop limit).any (· != ' ')

/-- What a text column accepts. -/
def fitsColumn (utf8 : Utf8) (limit : Option Nat) (text : String) : Bool :=
  !text.toList.contains (Char.ofNat 0) && utf8.encodes text && !exceeds limit text

/-- The text that is stored; one that the column does not accept raises and rolls back. -/
def columnText (utf8 : Utf8) (limit : Option Nat) (text : String) :
    Except PyException String := do
  sendText utf8 text
  if exceeds limit text then
    raised .dataError s!"value too long for type character varying({limit.getD 0})"
  else .ok (keptText limit text)

theorem sendText_eq_ok {utf8 : Utf8} {text : String} {u : Unit} :
    sendText utf8 text = .ok u ↔ Char.ofNat 0 ∉ text.toList ∧ utf8.encodes text = true := by
  simp only [sendText, requireUtf8, raised, bind_eq_ok, guard_eq_ok]
  simp [and_comm]

/-- How the driver refuses a text. -/
theorem cls_of_sendText {utf8 : Utf8} {text : String} {exc : PyException}
    (h : sendText utf8 text = .error exc) :
    exc.cls = .unicodeEncodeError ∨ exc.cls = .dataError := by
  simp only [sendText, requireUtf8, raised, bind_eq_error, guard_eq_error] at h
  obtain (⟨-, rfl⟩ | ⟨-, h⟩) | ⟨_, -, ⟨-, rfl⟩ | ⟨-, h⟩⟩ := h
  · exact .inl rfl
  · cases h
  · exact .inr rfl
  · cases h

theorem columnText_eq_ok {utf8 : Utf8} {limit : Option Nat} {text kept : String} :
    columnText utf8 limit text = .ok kept ↔
      fitsColumn utf8 limit text = true ∧ kept = keptText limit text := by
  simp only [columnText, bind_eq_ok, sendText_eq_ok, raised, guard_eq_ok, fitsColumn,
    Bool.and_eq_true, Bool.not_eq_true', List.contains_eq_mem, decide_eq_false_iff_not,
    Bool.not_eq_true, Except.ok.injEq]
  constructor
  · rintro ⟨_, ⟨noNul, encodes⟩, within, rfl⟩
    exact ⟨⟨⟨noNul, encodes⟩, within⟩, rfl⟩
  · rintro ⟨⟨⟨noNul, encodes⟩, within⟩, rfl⟩
    exact ⟨(), ⟨noNul, encodes⟩, within, rfl⟩

example : columnText plainUtf8 (some 2) "ok  " = .ok "ok" := rfl

/-- A column refuses a text with an exception that `except Exception` catches. -/
theorem isException_of_columnText {utf8 : Utf8} {limit : Option Nat} {text : String}
    {exc : PyException} (h : columnText utf8 limit text = .error exc) :
    exc.isException = true := by
  simp only [columnText, raised, bind_eq_error, guard_eq_error] at h
  obtain unsent | ⟨_, -, ⟨-, rfl⟩ | ⟨-, h⟩⟩ := h
  · obtain cls | cls := cls_of_sendText unsent <;> simp [PyException.isException, cls]
  · rfl
  · cases h

/-- Nothing is cut off a text that is short enough. -/
theorem keptText_of_short {limit : Nat} {text : String} (short : text.toList.length ≤ limit) :
    keptText (some limit) text = text := by
  rw [keptText, if_pos short]

theorem exceeds_of_short {limit : Nat} {text : String} (short : text.toList.length ≤ limit) :
    exceeds (some limit) text = false := by
  rw [exceeds, List.drop_of_length_le short, List.any_nil]

theorem hasPrefix_keptText {s text : String} {limit : Nat} (short : s.toList.length ≤ limit) :
    hasPrefix s (keptText (some limit) text) = hasPrefix s text := by
  simp only [keptText]
  split
  · rfl
  · rw [hasPrefix, hasPrefix, Bool.eq_iff_iff, String.toList_ofList, List.isPrefixOf_iff_prefix,
      List.isPrefixOf_iff_prefix, List.prefix_take_iff]
    exact and_iff_left short

/-- A text that `str.strip` leaves alone ends in no blank, so that nothing is cut off it. -/
theorem short_of_stripped {utf8 : Utf8} {limit : Nat} {text : String} (stripped : strip text = text)
    (fits : fitsColumn utf8 (some limit) text = true) : text.toList.length ≤ limit := by
  by_contra long
  have rest : text.toList.drop limit ≠ [] := by
    rw [ne_eq, List.drop_eq_nil_iff]
    exact long
  have blank : (text.toList.drop limit).getLast rest = ' ' := by
    simp only [fitsColumn, Bool.and_eq_true, Bool.not_eq_true', exceeds, List.any_eq_false] at fits
    simpa using fits.2 _ (List.getLast_mem rest)
  have trimmed : text.toList = (text.toList.dropWhile isSpace).rdropWhile isSpace := by
    conv_lhs => rw [← stripped, strip, String.toList_ofList]
  have nonempty : (text.toList.dropWhile isSpace).rdropWhile isSpace ≠ [] := by
    rw [← trimmed]
    exact fun empty => rest (by rw [empty, List.drop_nil])
  apply List.rdropWhile_last_not isSpace _ nonempty
  have last : ((text.toList.dropWhile isSpace).rdropWhile isSpace).getLast nonempty = ' ' := by
    simp only [← trimmed]
    rw [← blank, List.getLast_drop]
  rw [last]
  decide

theorem columnText_of_plain (utf8 : Utf8) {limit : Nat} {text : String} (plain : Plain text)
    (short : text.toList.length ≤ limit) : columnText utf8 (some limit) text = .ok text := by
  rw [columnText_eq_ok, keptText_of_short short]
  simp [fitsColumn, plain.noNul, plain.encodes, exceeds_of_short short]

namespace Database

def eventsOf (db : Database) (sessionId : Nat) : List RawRFIDEvent :=
  db.events.rows.filter fun e => e.rfidSessionId == some sessionId

/-- The attempts of an event in the order of their creation. -/
def attemptsOf (db : Database) (eventId : Nat) : List DeliveryAttempt :=
  db.attempts.rows.filter fun a => a.eventId == eventId

def getEvent (db : Database) (eventId : Nat) : Except PyException RawRFIDEvent :=
  match db.events.find? eventId with
  | some event => .ok event
  | none => raised .eventDoesNotExist "RawRFIDEvent matching query does not exist."

theorem getEvent_eq_ok {db : Database} {eventId : Nat} {event : RawRFIDEvent} :
    db.getEvent eventId = .ok event ↔ event ∈ db.events.rows ∧ event.id = eventId := by
  rw [← key_event, ← Table.find?_eq_some]
  unfold getEvent
  split <;> simp_all [raised]

theorem mem_attemptsOf {db : Database} {eventId : Nat} {a : DeliveryAttempt} :
    a ∈ db.attemptsOf eventId ↔ a ∈ db.attempts.rows ∧ a.eventId = eventId := by
  simp [attemptsOf]

end Database
end RfidBridge
