import RfidBridge.Scan.SessionScan
import RfidBridge.Scan.TimedScan
import RfidBridge.Store.FinalIngestion

/-!
Repeated scans of one session: what a run of the command adds, and that any number of runs
keeps one event for each EPC.
-/

namespace RfidBridge
open Relation

section
variable (unicode : UpperCase)

/-- White space has no upper case, so it stays where it is. -/
theorem mem_upper_of_space {text : String} {c : Char} (member : c ∈ text.toList)
    (space : isSpace c = true) : c ∈ (unicode.upper text).toList := by
  rw [UpperCase.upper, String.toList_ofList]
  exact List.mem_flatMap.mpr ⟨c, member, by simp [unicode.space c space]⟩

/-- A text whose upper case is an EPC of a tag has no white space to strip. -/
theorem comparedEpc_of_upper {text epc : String} (hex : ∀ c ∈ epc.toList, isUpperHex c = true)
    (upper : unicode.upper text = epc) : comparedEpc unicode text = epc := by
  have solid : ∀ c ∈ text.toList, isSpace c = false := by
    intro c member
    cases space : isSpace c with
    | false => rfl
    | true =>
        have kept := mem_upper_of_space unicode member space
        rw [upper] at kept
        rw [← space]
        exact (upperHex_facts (hex c kept)).1
  rw [comparedEpc, strip_eq_self solid, upper]

theorem comparedEpc_of_upperHex {text : String} (hex : ∀ c ∈ text.toList, isUpperHex c = true) :
    comparedEpc unicode text = text :=
  comparedEpc_of_upper unicode hex (upper_of_upperHex unicode hex)

end

section
variable {sha : Sha256} {unicode : UpperCase}

theorem digest_of_activeEventKey {scanId epc epc' : String}
    (same : activeEventKey sha scanId epc = activeEventKey sha scanId epc') :
    sha.digest24 epc = sha.digest24 epc' := by
  have lists := congrArg String.toList same
  simp only [activeEventKey, String.toList_append] at lists
  exact String.toList_inj.mp (List.append_cancel_left lists)

theorem plain_activeEventKey (scanId epc : String) : Plain (activeEventKey sha scanId epc) := by
  have front : Plain "active:" ∧ Plain ":" := by decide
  exact ((front.1.append (sha.plain_digest24 _)).append front.2).append (sha.plain_digest24 _)

theorem tagToTechnicalRead_eq_ok {result : ActiveInventoryResult} {scanId : String}
    {tag : RFIDTagData} {read : TechnicalRFIDRead}
    (hex : ∀ c ∈ tag.epc.toList, isUpperHex c = true)
    (made : tagToTechnicalRead sha unicode result scanId tag = .ok read) :
    read.epc = tag.epc ∧ read.epc ≠ "" ∧
      read.readerEventKey = activeEventKey sha scanId read.epc := by
  have same : unicode.upper (strip tag.epc) = tag.epc := comparedEpc_of_upperHex unicode hex
  simp only [tagToTechnicalRead, same, resultAdapterError, raised, guard_eq_ok, bind_eq_ok,
    Except.ok.injEq] at made
  obtain ⟨nonempty, _, -, _, -, rfl⟩ := made
  exact ⟨rfl, nonempty, rfl⟩

/-- The reads of a scan have the EPCs of its tags, each under the key of the scan. -/
theorem tagsToTechnicalReads_eq_ok {result : ActiveInventoryResult} {scanId : String}
    {tags : List RFIDTagData} {reads : List TechnicalRFIDRead}
    (hex : ∀ tag ∈ tags, ∀ c ∈ tag.epc.toList, isUpperHex c = true)
    (made : tagsToTechnicalReads sha unicode result scanId tags = .ok reads) :
    reads.map (·.epc) = tags.map (·.epc) ∧
      ∀ read ∈ reads, read.epc ≠ "" ∧
        read.readerEventKey = activeEventKey sha scanId read.epc := by
  induction tags generalizing reads with
  | nil =>
      cases made
      exact ⟨rfl, nofun⟩
  | cons tag tags ih =>
      obtain ⟨first, rest⟩ := List.forall_mem_cons.mp hex
      simp only [tagsToTechnicalReads, bind_eq_ok, Except.ok.injEq] at made
      obtain ⟨read, one, reads, others, rfl⟩ := made
      obtain ⟨epc, facts⟩ := tagToTechnicalRead_eq_ok first one
      obtain ⟨epcs, all⟩ := ih rest others
      exact ⟨by rw [List.map_cons, List.map_cons, epc, epcs],
        List.forall_mem_cons.mpr ⟨facts, all⟩⟩

/-- Tags of a scan have EPCs in upper-case hexadecimal. -/
theorem upperHex_of_scan {τ : Type} [Add τ] [LT τ] [DecidableLT τ]
    {client : ActiveInventoryReaderClient τ} {result : ActiveInventoryResult}
    {calls : List ReaderCall} (run : client.run.Runs ScanExec [] (.ok result) calls) :
    ∀ tag ∈ result.tags, ∀ c ∈ tag.epc.toList, isUpperHex c = true := by
  obtain ⟨window, closing, -, report⟩ := run.post client.sat_run
  obtain ⟨parsed, parses, -, first⟩ := report.tags
  intro tag member
  have inside := List.mem_of_find?_eq_some (first tag member)
  obtain ⟨i, bound, rfl⟩ := List.getElem_of_mem inside
  exact isUpperHex_of_parseTagData (parses.get (parses.length_eq ▸ bound) bound)

/-- What the store holds after the reads of a run were stored and assigned. -/
theorem storeReads_eq_ok {since : Nat} {reader : ReaderDevice} {session : RFIDSession}
    {reads : List TechnicalRFIDRead} {now : Timestamp} {db db' : Database}
    {report : SessionScanReport} (inv : StoreKeys since db)
    (plain : ∀ read ∈ reads, read.IsPlain)
    (active : session ∈ db.activeSessions reader.id)
    (stored : storeReads sha unicode reader session reads now db = .ok (report, db')) :
    StoreKeys since db' ∧ ∃ created, FinalIngested db db' reader session
      (reads.filter fun read => comparedEpc unicode read.epc ∉
        existingSessionEpcs unicode db session) created := by
  simp only [storeReads, ingestTechnicalReads, bind_eq_ok, guard_eq_ok, Except.ok.injEq,
    Prod.mk.injEq] at stored
  obtain ⟨⟨ingestion, mid⟩, ⟨-, ⟨ids, last⟩, loop, rfl, rfl⟩, _, counts, -, rfl⟩ := stored
  have edits : Edits { adds := fun _ => True } db (runActiveSessionAssignmentCycle ids last).2 :=
    (Edit.edits_of_ingestLoop (fun _ => trivial) loop).trans
      (Edit.edits_of_assignmentCycle ids last)
  have keys := StoreKeys.edits edits inv
  obtain ⟨created, rfl, ingested⟩ :=
    ingestLoop_eq_ok (fun read inside => plain read (List.mem_filter.mp inside).1) loop
  simp only [requireAllAttached, commandError, raised, guard_eq_ok, not_not] at counts
  exact ⟨keys, _, finalIngested_of_loop inv active ingested ⟨counts.1, counts.2.1⟩⟩

end

section
variable {τ : Type} [LT τ] [DecidableLT τ] [LE τ] [DecidableLE τ] [OfNat τ 0] [OfNat τ 600]

/-- One call of the command, with what the reader reported to it. -/
structure ScanCall (τ : Type) where
  settings : ScanSettings
  configuration : Option OperationalConfiguration
  options : ScanOptions τ
  scanToken : String
  result : ActiveInventoryResult
  now : Timestamp

def ScanCall.run (sha : Sha256) (unicode : UpperCase) (call : ScanCall τ) (db : Database) :
    Except PyException (Option SessionScanReport × Database) :=
  runActiveRfidSessionScan sha unicode call.settings call.configuration call.options
    call.scanToken (fun _ => .ok call.result) call.now db

variable {sha : Sha256} {unicode : UpperCase} {call : ScanCall τ} {db db' : Database}

theorem activeSessionForScan_eq_ok {reader : ReaderDevice} {session : RFIDSession}
    (found : activeSessionForScan db reader = .ok session) :
    session ∈ db.activeSessions reader.id := by
  unfold activeSessionForScan at found
  split at found
  · cases found
  · simp only [getActiveSession] at found
    split at found
    · rename_i only
      cases found
      rw [only]
      exact List.mem_singleton_self _
    · cases found
    · cases found

theorem readEvents_eq_ok {device : ReaderDevice} {scanSeconds : τ} {scanToken : String}
    {result : ActiveInventoryResult} {reads : List TechnicalRFIDRead}
    (read : readEvents sha unicode device scanSeconds scanToken (fun _ => .ok result) =
      .ok reads) :
    tagsToTechnicalReads sha unicode result (strip (scanIdOf device scanToken)) result.tags =
      .ok reads := by
  simp only [readEvents, physicalReaderBackendError, raised, guard_eq_ok, bind_eq_ok,
    activeInventoryToTechnicalReads, normalizeScanId, resultAdapterError, Except.ok.injEq] at read
  obtain ⟨-, -, -, -, -, _, -, _, rfl, _, ⟨-, -, rfl⟩, made⟩ := read
  exact made

theorem scanCall_eq_ok {report : SessionScanReport}
    (passed : call.run sha unicode db = .ok (some report, db')) :
    ∃ reader session reads,
      db.enabledReader (strip call.options.deviceCode) = some reader ∧
      session ∈ db.activeSessions reader.id ∧
      tagsToTechnicalReads sha unicode call.result (strip (scanIdOf reader call.scanToken))
        call.result.tags = .ok reads ∧
      storeReads sha unicode reader session reads call.now db = .ok (report, db') := by
  simp only [ScanCall.run, runActiveRfidSessionScan, commandError, raised, guard_eq_ok] at passed
  obtain ⟨-, -, passed⟩ := passed
  split at passed
  · cases passed
  simp only [bind_eq_ok] at passed
  obtain ⟨_, -, passed⟩ := passed
  split at passed
  · cases passed
  rename_i reader located
  simp only [bind_eq_ok] at passed
  obtain ⟨session, found, _, -, passed⟩ := passed
  split at passed
  · cases passed
  simp only [guard_eq_ok, bind_eq_ok, Except.ok.injEq, Prod.mk.injEq, Option.some.injEq] at passed
  obtain ⟨-, _, -, reads, read, ⟨report', last⟩, stored, rfl, rfl⟩ := passed
  refine ⟨reader, session, reads, located, ?_, ?_, stored⟩
  · exact activeSessionForScan_eq_ok found
  · have made := readEvents_eq_ok read
    exact made

/-- At most one event of the session for each EPC, compared in upper case. -/
def OneEventPerEpc (unicode : UpperCase) (session : RFIDSession) (db : Database) : Prop :=
  ((db.eventsOf session.id).map fun e => unicode.upper e.epc).Nodup

instance (unicode : UpperCase) (session : RFIDSession) (db : Database) :
    Decidable (OneEventPerEpc unicode session db) :=
  inferInstanceAs (Decidable (List.Nodup _))

/-- The token of a scan is new: no event of the reader has a key made with it. -/
def FreshToken (sha : Sha256) (reader : ReaderDevice) (scanToken : String) (db : Database) : Prop :=
  ∀ e ∈ db.events.rows, e.deviceId = reader.id →
    ∀ epc, e.readerEventKey ≠ activeEventKey sha (strip (scanIdOf reader scanToken)) epc

theorem freshToken_of_prefix {reader : ReaderDevice} {scanToken : String}
    (unused : ∀ e ∈ db.events.rows, hasPrefix
      ("active:" ++ sha.digest24 (strip (scanIdOf reader scanToken))) e.readerEventKey = false) :
    FreshToken sha reader scanToken db := by
  intro e stored _ epc same
  have used := unused e stored
  rw [same, hasPrefix, List.isPrefixOf_iff_prefix.mpr
    ⟨(":" ++ sha.digest24 epc).toList, by simp [activeEventKey]⟩] at used
  cases used

/-- A passed run of the command on a session, with what a reader reported to it. -/
structure PassedScan [Add τ] (sha : Sha256) (unicode : UpperCase) (session : RFIDSession)
    (call : ScanCall τ) (db db' : Database) : Prop where
  passed : ∃ report, call.run sha unicode db = .ok (some report, db')
  reader : ∃ reader, db.enabledReader (strip call.options.deviceCode) = some reader ∧
    reader.id = session.deviceId ∧ FreshToken sha reader call.scanToken db
  scanned : ∃ (client : ActiveInventoryReaderClient τ) (calls : List ReaderCall),
    client.run.Runs ScanExec [] (.ok call.result) calls
  digests : ∀ tag ∈ call.result.tags, ∀ tag' ∈ call.result.tags,
    sha.digest24 tag.epc = sha.digest24 tag'.epc → tag.epc = tag'.epc

/-- What a passed run leaves in the store. Blanks around an EPC that the session already held
do not count, as the command strips them. -/
structure ScanStored (unicode : UpperCase) (session : RFIDSession) (result : ActiveInventoryResult)
    (db db' : Database) : Prop where
  oneEach : OneEventPerEpc unicode session db'
  present : ∀ tag ∈ result.tags, ∃ e ∈ db'.eventsOf session.id,
    unicode.upper (strip e.epc) = unicode.upper tag.epc
  created : ∀ e ∈ db'.events.rows, e ∉ db.events.rows →
    e.queueState = .queued ∧ e.rfidSessionId = some session.id
  unchanged : ∀ e ∈ db.events.rows, e ∈ db'.events.rows

/-- The events that a run added, by the tags of its result. -/
structure AddedTags (sha : Sha256) (unicode : UpperCase) (session : RFIDSession)
    (result : ActiveInventoryResult) (scanId : String) (db db' : Database)
    (created : List RawRFIDEvent) : Prop where
  rows : db'.events.rows = db.events.rows ++ created
  queued : ∀ e ∈ created, e.queueState = .queued ∧ e.rfidSessionId = some session.id
  tagged : ∀ e ∈ created, ∃ tag ∈ result.tags, e.epc = tag.epc ∧
    e.readerEventKey = activeEventKey sha scanId tag.epc
  unseen : ∀ e ∈ created, e.epc ≠ "" ∧ e.epc ∉ existingSessionEpcs unicode db session
  distinct : ∀ e ∈ created, ∀ e' ∈ created, e.epc = e'.epc → e = e'
  covered : ∀ tag ∈ result.tags, tag.epc ∈ existingSessionEpcs unicode db session ∨
    ∃ e ∈ created, e.epc = tag.epc

variable {session : RFIDSession} {since : Nat}

theorem addedTags_of_passed [Add τ] (inv : StoreKeys since db) (row : session ∈ db.sessions.rows)
    (active : session.status = .active) (scan : PassedScan sha unicode session call db db') :
    StoreKeys since db' ∧ db'.sessions = db.sessions ∧
      ∃ scanId created, AddedTags sha unicode session call.result scanId db db' created := by
  obtain ⟨report, passed⟩ := scan.passed
  obtain ⟨reader, located, onReader, fresh⟩ := scan.reader
  obtain ⟨client, calls, run⟩ := scan.scanned
  obtain ⟨found, chosen, reads, located', isActive, made, stored⟩ := scanCall_eq_ok passed
  obtain rfl : found = reader := Option.some.inj (located'.symm.trans located)
  have only : chosen = session := by
    rw [onReader, inv.activeSessions_eq row active] at isActive
    exact List.mem_singleton.mp isActive
  subst only
  have hex := upperHex_of_scan run
  obtain ⟨epcs, facts⟩ := tagsToTechnicalReads_eq_ok hex made
  have plain : ∀ read ∈ reads, read.IsPlain := by
    intro read inside
    have shown : read.epc ∈ call.result.tags.map (·.epc) := epcs ▸ List.mem_map_of_mem inside
    obtain ⟨tag, tagged, same⟩ := List.mem_map.mp shown
    exact ⟨(facts read inside).2 ▸ plain_activeEventKey _ _,
      same ▸ plain_of_upperHex (hex tag tagged)⟩
  obtain ⟨inv', created, ingested⟩ := storeReads_eq_ok inv plain isActive stored
  refine ⟨inv', by rw [ingested.others], strip (scanIdOf found call.scanToken), created, ?_⟩
  -- an event of a tag, with the read it was made of
  have origin : ∀ e ∈ created, ∃ tag ∈ call.result.tags, e.epc = tag.epc ∧
      e.readerEventKey = activeEventKey sha (strip (scanIdOf found call.scanToken)) tag.epc ∧
      e.epc ≠ "" ∧ e.epc ∉ existingSessionEpcs unicode db chosen := by
    intro e new
    obtain ⟨read, member, key, epc⟩ := (ingested.each e new).read
    obtain ⟨inside, unseen⟩ := List.mem_filter.mp member
    have shown : read.epc ∈ call.result.tags.map (·.epc) := epcs ▸ List.mem_map_of_mem inside
    obtain ⟨tag, tagged, same⟩ := List.mem_map.mp shown
    obtain ⟨nonempty, made⟩ := facts read inside
    refine ⟨tag, tagged, by rw [← epc, same], by rw [← key, made, same], epc ▸ nonempty, ?_⟩
    rw [← same, comparedEpc_of_upperHex unicode (hex tag tagged), same, epc] at unseen
    simpa using unseen
  exact {
    rows := ingested.rows
    queued := fun e new => ⟨(ingested.each e new).queued, (ingested.each e new).inSession⟩
    tagged := by
      intro e new
      obtain ⟨tag, member, epc, key, -⟩ := origin e new
      exact ⟨tag, member, epc, key⟩
    unseen := by
      intro e new
      obtain ⟨-, -, -, -, unseen⟩ := origin e new
      exact unseen
    distinct := by
      intro e new e' new' same
      obtain ⟨tag, -, epc, key, -⟩ := origin e new
      obtain ⟨tag', -, epc', key', -⟩ := origin e' new'
      have stored : ∀ e ∈ created, e ∈ db'.events.rows :=
        fun e new => ingested.rows ▸ List.mem_append_right _ new
      refine inv'.eventKeys e (stored e new) e' (stored e' new') ?_ ?_
      · rw [(ingested.each e new).onReader, (ingested.each e' new').onReader]
      · rw [key, key', ← epc, ← epc', same]
    covered := by
      intro tag member
      by_cases seen : tag.epc ∈ existingSessionEpcs unicode db chosen
      · exact .inl seen
      right
      have shown : tag.epc ∈ reads.map (·.epc) := epcs ▸ List.mem_map_of_mem member
      obtain ⟨read, inside, same⟩ := List.mem_map.mp shown
      have new : read ∈ reads.filter fun read => comparedEpc unicode read.epc ∉
          existingSessionEpcs unicode db chosen := by
        refine List.mem_filter.mpr ⟨inside, ?_⟩
        rw [same, comparedEpc_of_upperHex unicode (hex tag member)]
        simpa using seen
      cases event : db'.eventByKey found.id read.readerEventKey with
      | none => exact absurd event (ingested.covered read new)
      | some e =>
          obtain ⟨stored, device, key⟩ := Database.mem_of_eventByKey event
          rw [ingested.rows] at stored
          rcases List.mem_append.mp stored with old | added
          · exact absurd (key.trans (facts read inside).2) (fresh e old device read.epc)
          · obtain ⟨tag', member', epc', key', -⟩ := origin e added
            refine ⟨e, added, ?_⟩
            rw [epc']
            apply scan.digests tag' member' tag member
            apply digest_of_activeEventKey
            rw [← key', key, (facts read inside).2, same] }

/-- An EPC that the session holds is found apart from blanks and case. -/
theorem mem_existingSessionEpcs {epc : String} :
    epc ∈ existingSessionEpcs unicode db session ↔
      ∃ e ∈ db.eventsOf session.id, strip e.epc ≠ "" ∧ comparedEpc unicode e.epc = epc := by
  simp [existingSessionEpcs, and_assoc]

theorem scanStored_of_addedTags {result : ActiveInventoryResult} {scanId : String}
    {created : List RawRFIDEvent}
    (hex : ∀ tag ∈ result.tags, ∀ c ∈ tag.epc.toList, isUpperHex c = true)
    (added : AddedTags sha unicode session result scanId db db' created)
    (oneEach : OneEventPerEpc unicode session db) :
    ScanStored unicode session result db db' := by
  have hexNew : ∀ e ∈ created, ∀ c ∈ e.epc.toList, isUpperHex c = true := by
    intro e new
    obtain ⟨tag, member, epc, -⟩ := added.tagged e new
    exact epc ▸ hex tag member
  have inSession : db'.eventsOf session.id = db.eventsOf session.id ++ created := by
    rw [Database.eventsOf, added.rows, List.filter_append]
    congr 1
    exact List.filter_eq_self.mpr fun e new => by simp [(added.queued e new).2]
  refine ⟨?_, ?_, ?_, fun e old => added.rows ▸ List.mem_append_left _ old⟩
  · rw [OneEventPerEpc, inSession, List.map_append, List.nodup_append]
    refine ⟨oneEach, ?_, ?_⟩
    · have rows := List.Nodup.of_map _ db'.events.distinct
      rw [added.rows, List.nodup_append] at rows
      apply rows.2.1.map_on
      intro e new e' new' same
      rw [upper_of_upperHex unicode (hexNew e new), upper_of_upperHex unicode (hexNew e' new')]
        at same
      exact added.distinct e new e' new' same
    · intro epc before epc' after same
      obtain ⟨old, held, rfl⟩ := List.mem_map.mp before
      obtain ⟨e, new, rfl⟩ := List.mem_map.mp after
      rw [upper_of_upperHex unicode (hexNew e new)] at same
      obtain ⟨nonempty, unseen⟩ := added.unseen e new
      have compared := comparedEpc_of_upper unicode (hexNew e new) same
      refine unseen (mem_existingSessionEpcs.mpr ⟨old, held, fun blank => nonempty ?_, compared⟩)
      rw [← compared, comparedEpc, blank]
      rfl
  · intro tag member
    rw [upper_of_upperHex unicode (hex tag member)]
    rcases added.covered tag member with seen | ⟨e, new, epc⟩
    · obtain ⟨e, held, -, compared⟩ := mem_existingSessionEpcs.mp seen
      exact ⟨e, inSession ▸ List.mem_append_left _ held, compared⟩
    · refine ⟨e, inSession ▸ List.mem_append_right _ new, ?_⟩
      rw [← epc]
      exact comparedEpc_of_upperHex unicode (hexNew e new)
  · intro e stored fresh
    rw [added.rows] at stored
    rcases List.mem_append.mp stored with old | new
    · exact absurd old fresh
    · exact added.queued e new

/-- What other processes may do between two runs: anything that keeps the constraints, the
session and the EPCs of its events. -/
structure Meanwhile (since : Nat) (session : RFIDSession) (db db' : Database) : Prop where
  keys : StoreKeys since db'
  sessions : session ∈ db'.sessions.rows
  epcs : (db'.eventsOf session.id).map (·.epc) = (db.eventsOf session.id).map (·.epc)

/-- Any number of passed runs on a session, and what happens between them. -/
abbrev SessionScans (τ : Type) [Add τ] [LT τ] [DecidableLT τ] [LE τ] [DecidableLE τ] [OfNat τ 0]
    [OfNat τ 600] (sha : Sha256) (unicode : UpperCase) (since : Nat) (session : RFIDSession) :
    Database → Database → Prop :=
  ReflTransGen fun db db' => (∃ call : ScanCall τ, PassedScan sha unicode session call db db') ∨
    Meanwhile since session db db'

/-- What every run finds. -/
structure ScanReady (since : Nat) (unicode : UpperCase) (session : RFIDSession) (db : Database) :
    Prop where
  keys : StoreKeys since db
  row : session ∈ db.sessions.rows
  oneEach : OneEventPerEpc unicode session db

theorem ScanReady.scan [Add τ] (ready : ScanReady since unicode session db)
    (active : session.status = .active) (scan : PassedScan sha unicode session call db db') :
    ScanReady since unicode session db' ∧ ScanStored unicode session call.result db db' := by
  obtain ⟨keys, sessions, scanId, created, added⟩ :=
    addedTags_of_passed ready.keys ready.row active scan
  obtain ⟨client, calls, run⟩ := scan.scanned
  have stored := scanStored_of_addedTags (upperHex_of_scan run) added ready.oneEach
  exact ⟨⟨keys, sessions ▸ ready.row, stored.oneEach⟩, stored⟩

theorem ScanReady.meanwhile (ready : ScanReady since unicode session db)
    (others : Meanwhile since session db db') : ScanReady since unicode session db' := by
  refine ⟨others.keys, others.sessions, ?_⟩
  have same := congrArg (List.map unicode.upper) others.epcs
  rw [List.map_map, List.map_map] at same
  rw [OneEventPerEpc]
  exact same ▸ ready.oneEach

theorem ScanReady.scans [Add τ] (ready : ScanReady since unicode session db)
    (active : session.status = .active)
    (scans : SessionScans τ sha unicode since session db db') :
    ScanReady since unicode session db' := by
  induction scans with
  | refl => exact ready
  | tail _ step ih =>
      rcases step with ⟨call, scan⟩ | others
      · exact (ih.scan active scan).1
      · exact ih.meanwhile others

/-- After any number of runs on an active session it has one event for each EPC, and every run
adds the tags that were not there, and nothing else. -/
theorem sessionScans_store_each_epc_once [Add τ] {db₀ : Database} (inv : StoreKeys since db₀)
    (row : session ∈ db₀.sessions.rows) (active : session.status = .active)
    (oneEach : OneEventPerEpc unicode session db₀)
    (scans : SessionScans τ sha unicode since session db₀ db) :
    OneEventPerEpc unicode session db ∧
    ∀ (call : ScanCall τ) (db' : Database), PassedScan sha unicode session call db db' →
      ScanStored unicode session call.result db db' := by
  have ready := ScanReady.scans ⟨inv, row, oneEach⟩ active scans
  exact ⟨ready.oneEach, fun call db' scan => (ready.scan active scan).2⟩

end

/-! Two scans of a session that already holds one of the tags. -/

namespace TwoScans

/-- The digests of the texts below. -/
def digests : List (String × String) :=
  [("GATE-1:9b1d", "35566905c4de053cfd7c6f11"), ("GATE-1:4f07", "1bb2f9ed0d73c30ca7b5df71"),
    ("E280", "56a92503f874ad9d72f3f06a"), ("E233", "e03eded015a5f70d2399497a")]

def digest (text : String) : String :=
  ((digests.find? (·.1 == text)).map Prod.snd).getD "000000000000000000000000"

theorem digest_cases (text : String) :
    digest text ∈ "000000000000000000000000" :: digests.map Prod.snd := by
  unfold digest
  cases found : digests.find? (·.1 == text) with
  | none => exact List.mem_cons_self ..
  | some entry =>
      exact List.mem_cons_of_mem _ (List.mem_map_of_mem (List.mem_of_find?_eq_some found))

def sha : Sha256 where
  toUtf8 := plainUtf8
  digest24 := digest
  length_digest24 text := by
    have all : ∀ d ∈ "000000000000000000000000" :: digests.map Prod.snd, d.toList.length = 24 := by
      decide
    exact all _ (digest_cases text)
  hex_digest24 text := by
    have all : ("000000000000000000000000" :: digests.map Prod.snd).all
        (fun d => d.toList.all (· ∈ "0123456789abcdef".toList)) = true := by
      decide
    intro c member
    have digits := List.all_eq_true.mp all _ (digest_cases text)
    exact of_decide_eq_true (List.all_eq_true.mp digits c member)

def session : RFIDSession where
  id := 1
  externalSessionKey := "S1"
  deviceId := 1
  operationType := .receipt
  odooRecordId := 7

def reader : ReaderDevice where
  id := 1
  code := "GATE-1"
  host := "10.0.0.5"
  deviceAddress := 2
  enabled := true

/-- A store with one session, which holds a tag with this EPC. -/
def holding (epc : String) : Database where
  devices := [reader]
  sessions := (Table.empty : Table RFIDSession).insert fun id => { session with id }
  events := (Table.empty : Table RawRFIDEvent).insert fun id => {
    id
    deviceId := 1
    rfidSessionId := some 1
    readerEventKey := "active:previous-scan:existing-tag"
    epc
    rawPayload := .text ""
    queueState := .queued
    receivedAt := 0 }

def call (scanToken : String) : ScanCall Nat where
  settings := { allowPhysicalReaderContact := true }
  configuration := some {}
  options := {
    deviceCode := "GATE-1"
    scanSeconds := 10
    confirmation := "SCAN_AND_STORE_ACTIVE_SESSION"
    apply := true }
  scanToken
  result := DuplicateScan.result
  now := 3

/-- The store after a call. -/
def after (scanToken : String) (db : Database) : Database :=
  match (call scanToken).run sha ascii db with
  | .ok (_, db') => db'
  | .error _ => db

/-- A call on a store with these readers passes if it reports. -/
theorem passedScan (scanToken : String) {db : Database} (devices : db.devices = [reader])
    (unused : ∀ e ∈ db.events.rows, hasPrefix
      ("active:" ++ sha.digest24 (strip (scanIdOf reader scanToken))) e.readerEventKey = false)
    (reports : (((call scanToken).run sha ascii db).toOption.bind Prod.fst).isSome = true) :
    PassedScan sha ascii session (call scanToken) db (after scanToken db) := by
  have digests : ∀ tag ∈ DuplicateScan.result.tags, ∀ tag' ∈ DuplicateScan.result.tags,
      sha.digest24 tag.epc = sha.digest24 tag'.epc → tag.epc = tag'.epc := by decide +kernel
  refine ⟨?_, ?_, ⟨DuplicateScan.client, DuplicateScan.calls, DuplicateScan.scanned⟩, digests⟩
  · cases ran : (call scanToken).run sha ascii db with
    | error exc =>
        rw [ran] at reports
        cases reports
    | ok answer =>
        obtain ⟨report, db'⟩ := answer
        rw [ran] at reports
        obtain ⟨report, rfl⟩ := Option.isSome_iff_exists.mp reports
        exact ⟨report, by rw [after, ran]⟩
  · refine ⟨reader, ?_, rfl, freshToken_of_prefix unused⟩
    have code : strip "GATE-1" = "GATE-1" := by decide +kernel
    rw [Database.enabledReader, devices, call, code]
    rfl

theorem storeKeys_holding (epc : String) : StoreKeys 2 (holding epc) where
  devices := by simp [holding]
  eventKeys e he e' he' _ _ := by
    simp only [holding, Table.mem_insert, Table.mem_rows_empty, false_or] at he he'
    rw [he, he']
  sessionKeys s hs s' hs' _ := by
    simp only [holding, Table.mem_insert, Table.mem_rows_empty, false_or] at hs hs'
    rw [hs, hs']
  oneActive s hs s' hs' _ _ _ := by
    simp only [holding, Table.mem_insert, Table.mem_rows_empty, false_or] at hs hs'
    rw [hs, hs']
  created s hs late := by
    simp only [holding, Table.mem_insert, Table.mem_rows_empty, false_or] at hs
    rw [hs] at late
    exact absurd late (by decide)

end TwoScans

open TwoScans in
/-- A blank behind a stored EPC hides the tag from the command: it is neither created nor
present in upper case. -/
theorem paddedEpc_hides_tag : OneEventPerEpc ascii session (holding "e280 ") ∧
    PassedScan sha ascii session (call "9b1d") (holding "e280 ") (after "9b1d" (holding "e280 ")) ∧
    ¬ ∀ tag ∈ (call "9b1d").result.tags,
      ∃ e ∈ (after "9b1d" (holding "e280 ")).eventsOf session.id,
        ascii.upper e.epc = ascii.upper tag.epc := by
  refine ⟨by decide +kernel, ?_, by decide +kernel⟩
  exact passedScan "9b1d" rfl (by decide +kernel) (by decide +kernel)

open TwoScans in
theorem sessionScans_store_each_epc_once_twice :
    OneEventPerEpc ascii session (after "9b1d" (holding "e280")) ∧
    ScanStored ascii session DuplicateScan.result (after "9b1d" (holding "e280"))
      (after "4f07" (after "9b1d" (holding "e280"))) := by
  have first : PassedScan sha ascii session (call "9b1d") (holding "e280")
      (after "9b1d" (holding "e280")) :=
    passedScan "9b1d" rfl (by decide +kernel) (by decide +kernel)
  have second : PassedScan sha ascii session (call "4f07") (after "9b1d" (holding "e280"))
      (after "4f07" (after "9b1d" (holding "e280"))) :=
    passedScan "4f07" (by decide +kernel) (by decide +kernel) (by decide +kernel)
  have kept := sessionScans_store_each_epc_once (storeKeys_holding "e280")
    (by decide) rfl (by decide) (.single (.inl ⟨call "9b1d", first⟩))
  exact ⟨kept.1, kept.2 (call "4f07") _ second⟩

end RfidBridge
