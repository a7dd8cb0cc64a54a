import RfidBridge.Library.Separator
import RfidBridge.Scan.CachedReader
import RfidBridge.Scan.ResultAdapter
import RfidBridge.Scan.SessionScans

/-!
The cached half of reader_result_adapter.py and physical_reader_backend.py, and what becomes
of a cache: one technical read for each row, under a key of its own, and one event for each
read.
-/

namespace RfidBridge

/-- `sha256(text).hexdigest()[:16]`. -/
def Sha256.digest16 (sha : Sha256) (text : String) : String :=
  String.ofList ((sha.digest24 text).toList.take 16)

section
variable (sha : Sha256) (unicode : UpperCase)

/-- The key of _event_key, for texts that it can encode. -/
def cachedEventKey (scanId : String) (rowIndex : Nat) (epc : String) : String :=
  "cached:" ++ sha.digest24 scanId ++ ":" ++ (toString rowIndex ++ ":" ++ sha.digest16 epc)

def cachedRawPayload (result : CachedInventoryResult) (scanId : String) (rowIndex : Nat)
    (epc : String) (tag : RFIDTagData) : String :=
  jsonObject [
    ("row_index", toString rowIndex),
    ("scan_id", jsonText scanId),
    ("source", jsonText "cached_inventory"),
    ("statistics", jsonObject [
      ("duration_ms", toString result.durationMs),
      ("expected_tag_count", toString result.expectedTagCount),
      ("read_count", toString result.readCount)]),
    ("tag", jsonObject [
      ("antenna", jsonOptional (tag.antenna.map UInt8.toNat)),
      ("count", jsonOptional tag.count),
      ("epc", jsonText epc),
      ("pc", jsonOptional tag.pc),
      ("protocol_type", toString tag.protocolType.toNat),
      ("tid", jsonText tag.tid)])]

/-- One round of the loop of cached_inventory_to_technical_reads. -/
def rowToTechnicalRead (result : CachedInventoryResult) (scanId : String) (rowIndex : Nat)
    (tag : RFIDTagData) : Except PyException TechnicalRFIDRead := do
  let epc := unicode.upper (strip tag.epc)
  if epc = "" then resultAdapterError s!"Cache row {rowIndex} does not contain an EPC."
  else do
    requireUtf8 sha.toUtf8 scanId
    requireAscii epc
    .ok {
      readerEventKey := cachedEventKey sha scanId rowIndex epc
      epc
      rawPayload := .text (cachedRawPayload result scanId rowIndex epc tag) }

/-- The loop from one row on. -/
def rowsToTechnicalReads (result : CachedInventoryResult) (scanId : String) :
    Nat → List RFIDTagData → Except PyException (List TechnicalRFIDRead)
  | _, [] => .ok []
  | rowIndex, tag :: tags => do
      let read ← rowToTechnicalRead sha unicode result scanId rowIndex tag
      let reads ← rowsToTechnicalReads result scanId (rowIndex + 1) tags
      .ok (read :: reads)

def cachedInventoryToTechnicalReads (result : CachedInventoryResult) (scanId : String) :
    Except PyException (List TechnicalRFIDRead) := do
  let normalizedScanId ← normalizeScanId scanId
  if result.expectedTagCount ≠ result.tags.length then
    resultAdapterError "Cached inventory tag count does not match the expected tag count."
  else rowsToTechnicalReads sha unicode result normalizedScanId 0 result.tags

/-- CachedTCPPhysicalReaderBackend with its read_events. What the run of the client over its
session came to is given, the failures of the session included. -/
def readCachedEvents {τ : Type} [LE τ] [DecidableLE τ] [OfNat τ 0] [OfNat τ 300]
    (device : ReaderDevice) (scanSeconds : τ) (scanToken : String)
    (contact : CachedInventoryReaderClient τ → Except PyException CachedInventoryResult) :
    Except PyException (List TechnicalRFIDRead) :=
  if ¬ (0 ≤ scanSeconds ∧ scanSeconds ≤ 300) then
    physicalReaderBackendError "Scan duration must be between 0 and 300 seconds."
  else if ¬ device.enabled then
    physicalReaderBackendError "Physical reader device must be enabled."
  else if device.inventoryMode ≠ .cached then
    physicalReaderBackendError
      "Physical reader backend currently supports cached inventory mode only."
  else if strip device.host = "" then
    physicalReaderBackendError "Physical reader host cannot be empty."
  else if strip scanToken = "" then
    physicalReaderBackendError "Generated scan token cannot be empty."
  else do
    let client ← CachedInventoryReaderClient.create device.deviceAddress scanSeconds
    let result ← contact client
    cachedInventoryToTechnicalReads sha unicode result (scanIdOf device scanToken)

end

section
variable {sha : Sha256} {unicode : UpperCase}

/-- A digit is no colon. -/
theorem colon_notMem_toString (n : Nat) : ':' ∉ (toString n).toList := by
  intro member
  rw [Nat.toString_eq_repr, Nat.toList_repr] at member
  simpa using Nat.isDigit_of_mem_toDigits (by decide) (by decide) member

theorem toString_nat_inj {m n : Nat} (same : (toString m).toList = (toString n).toList) :
    m = n := by
  simp only [Nat.toString_eq_repr, Nat.toList_repr] at same
  rw [← Nat.ofDigitChars_ten_toDigits (n := m), same, Nat.ofDigitChars_ten_toDigits]

theorem cachedEventKey_toList (scanId : String) (rowIndex : Nat) (epc : String) :
    (cachedEventKey sha scanId rowIndex epc).toList =
      "cached:".toList ++ (sha.digest24 scanId).toList ++ ":".toList ++
        ((toString rowIndex).toList ++ ':' :: (sha.digest16 epc).toList) := by
  simp [cachedEventKey]

/-- Two rows never share a key, whatever the digests collide in. -/
theorem cachedEventKey_inj {scanId scanId' : String} {rowIndex rowIndex' : Nat}
    {epc epc' : String}
    (same : cachedEventKey sha scanId rowIndex epc = cachedEventKey sha scanId' rowIndex' epc') :
    sha.digest24 scanId = sha.digest24 scanId' ∧ rowIndex = rowIndex' ∧
      sha.digest16 epc = sha.digest16 epc' := by
  have lists := congrArg String.toList same
  rw [cachedEventKey_toList, cachedEventKey_toList] at lists
  obtain ⟨front, back⟩ := List.append_inj lists (by simp [sha.length_digest24])
  obtain ⟨front, -⟩ := List.append_inj front (by simp [sha.length_digest24])
  obtain ⟨-, front⟩ := List.append_inj front rfl
  obtain ⟨index, digest⟩ := Separator.append_inj (colon_notMem_toString rowIndex)
    (colon_notMem_toString rowIndex') back
  exact ⟨String.toList_inj.mp front, toString_nat_inj index, String.toList_inj.mp digest⟩

/-- The keys of the two kinds of scans never meet. -/
theorem cachedEventKey_ne_activeEventKey (scanId scanId' : String) (rowIndex : Nat)
    (epc epc' : String) :
    cachedEventKey sha scanId rowIndex epc ≠ activeEventKey sha scanId' epc' := by
  intro same
  have lists := congrArg (fun text => text.toList.head?) same
  simp [cachedEventKey, activeEventKey] at lists

theorem plain_toString (n : Nat) : Plain (toString n) := by
  intro c member
  rw [Nat.toString_eq_repr, Nat.toList_repr] at member
  have digit := Nat.isDigit_of_mem_toDigits (by decide) (by decide) member
  simp only [Char.isDigit, Bool.and_eq_true, decide_eq_true_eq, ge_iff_le, UInt32.le_iff_toNat_le]
    at digit
  have low : 48 ≤ c.toNat := digit.1
  have high : c.toNat ≤ 57 := digit.2
  omega

theorem plain_digest16 (text : String) : Plain (sha.digest16 text) := by
  intro c member
  rw [Sha256.digest16, String.toList_ofList] at member
  exact sha.plain_digest24 text c (List.mem_of_mem_take member)

theorem plain_cachedEventKey (scanId : String) (rowIndex : Nat) (epc : String) :
    Plain (cachedEventKey sha scanId rowIndex epc) := by
  have front : Plain "cached:" ∧ Plain ":" := by decide
  intro c member
  rw [cachedEventKey_toList] at member
  rcases List.mem_append.mp member with member | member
  · exact ((front.1.append (sha.plain_digest24 scanId)).append front.2) c (by simpa using member)
  · rcases List.mem_append.mp member with member | member
    · exact plain_toString rowIndex c member
    · rcases List.mem_cons.mp member with rfl | member
      · decide
      · exact plain_digest16 epc c member

theorem length_cachedEventKey (scanId epc : String) {rowIndex : Nat}
    (small : rowIndex < 10 ^ 10) :
    (cachedEventKey sha scanId rowIndex epc).toList.length ≤ 128 := by
  have digits : (toString rowIndex).toList.length ≤ 10 := by
    rw [Nat.toString_eq_repr, String.length_toList]
    exact (Nat.length_repr_le_iff (by decide)).mpr small
  have digest : (sha.digest16 epc).toList.length = 16 := by
    simp [Sha256.digest16, sha.length_digest24]
  have front : "cached:".toList.length = 7 ∧ ":".toList.length = 1 := by decide
  simp only [cachedEventKey_toList, List.length_append, List.length_cons, sha.length_digest24,
    digest, front]
  omega

theorem upperHex_tagData (fields : TagFields) :
    ∀ c ∈ fields.tagData.epc.toList, isUpperHex c = true := by
  cases present : fields.epc with
  | none => simp [TagFields.tagData, present]
  | some bytes => simpa [TagFields.tagData, present] using isUpperHex_upperHex bytes.1

variable (sha unicode) in
/-- The reads of some rows, from an index on. -/
theorem rowsToTechnicalReads_of_hex (result : CachedInventoryResult) {scanId : String}
    (encodes : sha.toUtf8.encodes scanId = true) {tags : List RFIDTagData}
    (valid : ∀ tag ∈ tags, tag.epc ≠ "" ∧ ∀ c ∈ tag.epc.toList, isUpperHex c = true)
    (start : Nat) :
    ∃ reads, rowsToTechnicalReads sha unicode result scanId start tags = .ok reads ∧
      reads.map (·.epc) = tags.map (·.epc) ∧
      reads.map (·.readerEventKey) =
        (tags.zipIdx start).map fun row => cachedEventKey sha scanId row.2 row.1.epc := by
  induction tags generalizing start with
  | nil => exact ⟨[], rfl, rfl, rfl⟩
  | cons tag tags ih =>
      obtain ⟨⟨nonempty, hex⟩, others⟩ := List.forall_mem_cons.mp valid
      obtain ⟨reads, made, epcs, keys⟩ := ih others (start + 1)
      have same : unicode.upper (strip tag.epc) = tag.epc := comparedEpc_of_upperHex unicode hex
      have ascii : requireAscii tag.epc = .ok () := by
        have low : tag.epc.toList.any (127 < ·.toNat) = false := by
          simp only [List.any_eq_false, decide_eq_true_eq]
          exact fun c member => (upperHex_facts (hex c member)).2.2.1
        simp [requireAscii, low]
      obtain ⟨read, one, epc, key⟩ : ∃ read,
          rowToTechnicalRead sha unicode result scanId start tag = .ok read ∧
            read.epc = tag.epc ∧
            read.readerEventKey = cachedEventKey sha scanId start tag.epc := by
        simp [rowToTechnicalRead, same, nonempty, requireUtf8, encodes, ascii, bind, Except.bind]
      refine ⟨read :: reads, ?_, by simp [epc, epcs], by simp [key, keys]⟩
      rw [rowsToTechnicalReads, one, made]
      rfl

/-- The keys of the rows are pairwise different. -/
theorem nodup_cachedEventKeys (scanId : String) (tags : List RFIDTagData) (start : Nat) :
    ((tags.zipIdx start).map fun row => cachedEventKey sha scanId row.2 row.1.epc).Nodup := by
  induction tags generalizing start with
  | nil => simp
  | cons tag tags ih =>
      rw [List.zipIdx_cons, List.map_cons, List.nodup_cons]
      refine ⟨?_, ih (start + 1)⟩
      intro member
      obtain ⟨row, later, same⟩ := List.mem_map.mp member
      have index := (cachedEventKey_inj same).2.1
      have bound := List.le_snd_of_mem_zipIdx later
      omega

end

section
variable {device : ReaderDevice}

/-- Reads under new keys of their own all become events, in their order. -/
theorem ingestLoop_of_fresh (utf8 : Utf8) (now : Timestamp) {reads : List TechnicalRFIDRead}
    (db : Database) (plain : ∀ read ∈ reads, read.IsPlain)
    (short : ∀ read ∈ reads, read.IsShort)
    (distinct : (reads.map (·.readerEventKey)).Nodup)
    (fresh : ∀ read ∈ reads, db.eventByKey device.id read.readerEventKey = none) :
    ∃ created db', ingestLoop utf8 device now reads db = .ok (created.map (·.id), db') ∧
      db' = { db with events := db'.events } ∧
      db'.events.rows = db.events.rows ++ created ∧
      created.map (·.readerEventKey) = reads.map (·.readerEventKey) ∧
      created.map (·.epc) = reads.map (·.epc) ∧
      ∀ e ∈ created, e.deviceId = device.id ∧ e.queueState = .unassigned ∧
        e.rfidSessionId = none := by
  induction reads generalizing db with
  | nil => exact ⟨[], db, rfl, rfl, by simp⟩
  | cons read reads ih =>
      obtain ⟨plainRead, plainRest⟩ := List.forall_mem_cons.mp plain
      obtain ⟨shortRead, shortRest⟩ := List.forall_mem_cons.mp short
      obtain ⟨new, free⟩ := List.forall_mem_cons.mp fresh
      rw [List.map_cons, List.nodup_cons] at distinct
      let row := newEvent device read now
      obtain ⟨sameKey, sameEpc⟩ := shortRead.newEvent_eq device now db.events.nextKey
      have stillFree : ∀ r ∈ reads,
          { db with events := db.events.insert row }.eventByKey device.id r.readerEventKey =
            none := by
        intro r member
        have before := Database.eventByKey_eq_none.mp (free r member)
        refine Database.eventByKey_eq_none.mpr fun e inside sameDevice => ?_
        rcases (Table.mem_insert _ _ (fun _ => rfl) _).mp inside with old | rfl
        · exact before e old sameDevice
        · intro same
          exact distinct.1 (List.mem_map.mpr ⟨r, member, same.symm.trans sameKey⟩)
      obtain ⟨created, db', loop, others, rows, keys, epcs, each⟩ :=
        ih { db with events := db.events.insert row } plainRest shortRest distinct.2 stillFree
      refine ⟨row db.events.nextKey :: created, db', ?_, others, ?_, ?_, ?_,
        List.forall_mem_cons.mpr ⟨⟨rfl, rfl, rfl⟩, each⟩⟩
      · rw [ingestLoop, getOrCreateEvent_of_plain utf8 now plainRead shortRead new]
        simp only [bind, Except.bind, loop, row]
        rfl
      · rw [rows]
        simp [Table.insert]
      · rw [List.map_cons, List.map_cons, keys, sameKey]
      · rw [List.map_cons, List.map_cons, epcs, sameEpc]

/-- Reads whose keys are all known create nothing. -/
theorem ingestLoop_of_known (utf8 : Utf8) (now : Timestamp) {reads : List TechnicalRFIDRead}
    {db : Database}
    (known : ∀ read ∈ reads, db.eventByKey device.id read.readerEventKey ≠ none) :
    ingestLoop utf8 device now reads db = .ok ([], db) := by
  induction reads with
  | nil => rfl
  | cons read reads ih =>
      obtain ⟨here, others⟩ := List.forall_mem_cons.mp known
      obtain ⟨event, found⟩ := Option.ne_none_iff_exists'.mp here
      have got : getOrCreateEvent utf8 device read now db = .ok ((event, false), db) := by
        simp [getOrCreateEvent, found]
      rw [ingestLoop, got]
      simp [bind, Except.bind, ih others]

end

section
variable {τ : Type} [LE τ] [OfNat τ 0] [OfNat τ 300]

/-- What the backend asks of a device and a scan before it contacts the reader. -/
structure CanScan (utf8 : Utf8) (device : ReaderDevice) (scanSeconds : τ) (scanToken : String) :
    Prop where
  duration : 0 ≤ scanSeconds ∧ scanSeconds ≤ 300
  enabled : device.enabled = true
  mode : device.inventoryMode = .cached
  host : strip device.host ≠ ""
  token : strip scanToken ≠ ""
  scanId : (strip (scanIdOf device scanToken)).toList.length ≤ 128
  encodes : utf8.encodes (strip (scanIdOf device scanToken)) = true
  address : device.deviceAddress ≤ 255

variable {utf8 : Utf8} {device : ReaderDevice} {scanSeconds : τ} {scanToken : String}

/-- The colon behind the device code keeps a scan id from being blank. -/
theorem normalizeScanId_of_canScan (can : CanScan utf8 device scanSeconds scanToken) :
    normalizeScanId (scanIdOf device scanToken) = .ok (strip (scanIdOf device scanToken)) := by
  have solid : strip (scanIdOf device scanToken) ≠ "" := by
    intro blank
    have colon := strip_eq_empty_iff.mp blank ':' (by simp [scanIdOf])
    revert colon
    decide
  have short := can.scanId
  rw [normalizeScanId, if_neg solid, if_neg (by omega)]

variable [DecidableLE τ] (sha : Sha256) (unicode : UpperCase)

/-- The reads of a scan that goes through: one for each row of the cache, with keys of its own. -/
theorem readCachedEvents_of_cache (can : CanScan sha.toUtf8 device scanSeconds scanToken)
    {socket : Socket} {replies : CacheReplies device.deviceAddress} {durationMs readCount : Int}
    {cache : List TagFields} (reports : replies.Reports durationMs readCount cache)
    (brings : Brings socket 0 replies.chunks) :
    ∃ reads, readCachedEvents sha unicode device scanSeconds scanToken
        (fun client => (client.run.eval (sessionAnswer socket) {}).1) = .ok reads ∧
      reads.map (·.epc) = cache.map (·.tagData.epc) ∧
      reads.map (·.readerEventKey) = ((cache.map TagFields.tagData).zipIdx).map fun row =>
        cachedEventKey sha (strip (scanIdOf device scanToken)) row.2 row.1.epc := by
  have made : CachedInventoryReaderClient.create (device.deviceAddress : Int) scanSeconds =
      .ok ⟨device.deviceAddress, can.address, scanSeconds⟩ := by
    have inside := can.address
    simp [CachedInventoryReaderClient.create, can.duration, inside]
  obtain ⟨session, scanned, -⟩ :=
    CachedInventoryReaderClient.cachedInventory_reads_cache
      ⟨device.deviceAddress, can.address, scanSeconds⟩ reports brings
  have valid : ∀ tag ∈ cache.map TagFields.tagData,
      tag.epc ≠ "" ∧ ∀ c ∈ tag.epc.toList, isUpperHex c = true := by
    intro tag member
    obtain ⟨fields, inside, rfl⟩ := List.mem_map.mp member
    obtain ⟨i, bound, rfl⟩ := List.getElem_of_mem inside
    exact ⟨(reports.rows.get (reports.rows.length_eq ▸ bound) bound).2, upperHex_tagData _⟩
  obtain ⟨reads, converted, epcs, keys⟩ := rowsToTechnicalReads_of_hex sha unicode
    (replies.result durationMs readCount cache) can.encodes valid 0
  refine ⟨reads, ?_, by rw [epcs, List.map_map]; rfl, keys⟩
  have adapted : cachedInventoryToTechnicalReads sha unicode
      (replies.result durationMs readCount cache) (scanIdOf device scanToken) = .ok reads := by
    rw [cachedInventoryToTechnicalReads, normalizeScanId_of_canScan can]
    simp only [bind, Except.bind]
    rw [if_neg (by simp [CacheReplies.result])]
    exact converted
  rw [readCachedEvents, if_neg (not_not.mpr can.duration), if_neg (by simp [can.enabled]),
    if_neg (by simp [can.mode]), if_neg can.host, if_neg can.token, made]
  simp only [bind, Except.bind, scanned]
  exact adapted

/-- A scan of a cache over a connection that works stores one event for each row, in the order
of the rows and with the row's EPC, even where EPCs repeat or digests collide; storing the same
reads again creates nothing. -/
theorem cachedScan_recorded (can : CanScan sha.toUtf8 device scanSeconds scanToken)
    {socket : Socket} {replies : CacheReplies device.deviceAddress} {durationMs readCount : Int}
    {cache : List TagFields} (reports : replies.Reports durationMs readCount cache)
    (brings : Brings socket 0 replies.chunks)
    (short : ∀ fields ∈ cache, fields.tagData.epc.toList.length ≤ 128) (db : Database)
    (newScan : ∀ e ∈ db.events.rows, e.deviceId = device.id → ∀ rowIndex epc,
      e.readerEventKey ≠ cachedEventKey sha (strip (scanIdOf device scanToken)) rowIndex epc)
    (now : Timestamp) :
    ∃ reads created db', readCachedEvents sha unicode device scanSeconds scanToken
        (fun client => (client.run.eval (sessionAnswer socket) {}).1) = .ok reads ∧
      ingestTechnicalReads sha.toUtf8 device reads now db =
        .ok (⟨cache.length, cache.length, 0, created.map (·.id)⟩, db') ∧
      db' = { db with events := db'.events } ∧
      db'.events.rows = db.events.rows ++ created ∧
      created.map (·.epc) = cache.map (·.tagData.epc) ∧
      (∀ e ∈ created, e.deviceId = device.id ∧ e.queueState = .unassigned ∧
        e.rfidSessionId = none) ∧
      ∀ later, ingestTechnicalReads sha.toUtf8 device reads later db' =
        .ok (⟨cache.length, 0, cache.length, []⟩, db') := by
  obtain ⟨reads, made, epcs, keys⟩ := readCachedEvents_of_cache sha unicode can reports brings
  have size : reads.length = cache.length := by
    have lengths := congrArg List.length epcs
    rwa [List.length_map, List.length_map] at lengths
  have keyed : ∀ read ∈ reads, ∃ rowIndex < cache.length, ∃ epc,
      read.readerEventKey =
        cachedEventKey sha (strip (scanIdOf device scanToken)) rowIndex epc := by
    intro read member
    have listed := List.mem_map_of_mem (f := (·.readerEventKey)) member
    rw [keys] at listed
    obtain ⟨row, inside, same⟩ := List.mem_map.mp listed
    have bound := List.snd_lt_of_mem_zipIdx inside
    rw [List.length_map] at bound
    exact ⟨row.2, bound, row.1.epc, same.symm⟩
  have epcOf : ∀ read ∈ reads, ∃ fields ∈ cache, read.epc = fields.tagData.epc := by
    intro read member
    have listed := List.mem_map_of_mem (f := (·.epc)) member
    rw [epcs] at listed
    obtain ⟨fields, inside, same⟩ := List.mem_map.mp listed
    exact ⟨fields, inside, same.symm⟩
  have plain : ∀ read ∈ reads, read.IsPlain := by
    intro read member
    obtain ⟨rowIndex, -, epc, key⟩ := keyed read member
    obtain ⟨fields, -, same⟩ := epcOf read member
    exact ⟨key ▸ plain_cachedEventKey _ _ _, same ▸ plain_of_upperHex (upperHex_tagData fields)⟩
  have shorts : ∀ read ∈ reads, read.IsShort := by
    intro read member
    obtain ⟨rowIndex, bound, epc, key⟩ := keyed read member
    obtain ⟨fields, inside, same⟩ := epcOf read member
    have few := reports.few
    simp only [BigEndian.SignedRange] at few
    exact ⟨key ▸ length_cachedEventKey _ _ (by omega), same ▸ short fields inside⟩
  obtain ⟨created, db', loop, others, rows, createdKeys, createdEpcs, each⟩ :=
    ingestLoop_of_fresh sha.toUtf8 now db plain shorts
      (keys ▸ nodup_cachedEventKeys _ _ 0) (by
        intro read member
        obtain ⟨rowIndex, -, epc, same⟩ := keyed read member
        refine Database.eventByKey_eq_none.mpr fun e inside sameDevice => ?_
        rw [same]
        exact newScan e inside sameDevice rowIndex epc)
  have known : ∀ read ∈ reads, db'.eventByKey device.id read.readerEventKey ≠ none := by
    intro read member absent
    have listed := List.mem_map_of_mem (f := (·.readerEventKey)) member
    rw [← createdKeys] at listed
    obtain ⟨e, inside, same⟩ := List.mem_map.mp listed
    refine Database.eventByKey_eq_none.mp absent e ?_ (each e inside).1 same
    rw [rows]
    exact List.mem_append_right _ inside
  have counted : created.length = cache.length := by
    have lengths := congrArg List.length createdEpcs
    rw [List.length_map, List.length_map] at lengths
    omega
  refine ⟨reads, created, db', made, ?_, others, rows, createdEpcs.trans epcs, each,
    fun later => ?_⟩
  · simp [ingestTechnicalReads, can.enabled, loop, bind, Except.bind, size, counted]
  · simp [ingestTechnicalReads, can.enabled, ingestLoop_of_known sha.toUtf8 later known, bind,
      Except.bind, size]

end

/-! The reader with one row, at a gateway whose store is empty. -/

namespace OneRow

def device : ReaderDevice where
  id := 1
  code := "door"
  host := "192.168.1.2"
  deviceAddress := 2
  enabled := true

theorem canScan : CanScan plainUtf8 device (3 : Nat) "token" where
  duration := by decide
  enabled := rfl
  mode := rfl
  host := by decide +kernel
  token := by decide +kernel
  scanId := by decide +kernel
  encodes := by decide +kernel
  address := by decide

end OneRow

open OneRow TwoScans in
theorem cachedScan_recorded_row :
    ∃ reads created db', readCachedEvents TwoScans.sha ascii device (3 : Nat) "token"
        (fun client => (client.run.eval (sessionAnswer socket) {}).1) = .ok reads ∧
      ingestTechnicalReads plainUtf8 device reads 5 { devices := [device] } =
        .ok (⟨1, 1, 0, created.map (·.id)⟩, db') ∧
      db' = { devices := [device], events := db'.events } ∧
      db'.events.rows = created ∧
      created.map (·.epc) = [fields].map (·.tagData.epc) ∧
      (∀ e ∈ created, e.deviceId = 1 ∧ e.queueState = .unassigned ∧ e.rfidSessionId = none) ∧
      ∀ later, ingestTechnicalReads plainUtf8 device reads later db' = .ok (⟨1, 0, 1, []⟩, db') :=
  cachedScan_recorded TwoScans.sha ascii canScan reports brings (by decide +kernel)
    { devices := [device] } (by simp) 5

end RfidBridge
