import RfidBridge.Store.Constraints

/-!
What one call of final ingestion does: which frames it accepts, which events it
adds, and when its integrity check refuses. The loop, the assignment cycle and the
check have a lemma each, and the call is their composition.
-/

namespace RfidBridge
open Database

def epcOf (frame : RFIDFrame) : String :=
  match parseTagData frame.payload with
  | .ok tag => tag.epc
  | .error _ => ""

/-- An active-tag frame of this reader with a storable EPC. -/
structure ValidTagFrame (device : ReaderDevice) (frame : RFIDFrame) : Prop where
  command : frame.command = commandActiveTag
  status : frame.status = 0
  address : frame.address.toNat = device.deviceAddress
  parses : ∃ tag, parseTagData frame.payload = .ok tag
  nonempty : epcOf frame ≠ ""
  short : (epcOf frame).toList.length ≤ 128

theorem upperHex_facts {c : Char} (h : isUpperHex c = true) :
    isSpace c = false ∧ c.toUpper = c ∧ ¬ 127 < c.toNat ∧ c ≠ Char.ofNat 0 := by
  have all : "0123456789ABCDEF".toList.all (fun c =>
      isSpace c = false ∧ c.toUpper = c ∧ ¬ 127 < c.toNat ∧ c ≠ Char.ofNat 0) = true := by decide
  exact of_decide_eq_true (List.all_eq_true.mp all c (by simpa [isUpperHex] using h))

theorem upper_of_upperHex (unicode : UpperCase) {text : String}
    (hex : ∀ c ∈ text.toList, isUpperHex c = true) : unicode.upper text = text := by
  have same : text.toList.flatMap unicode.char = text.toList.flatMap fun c => [c] := by
    apply List.flatMap_congr
    intro c member
    obtain ⟨-, kept, ascii, -⟩ := upperHex_facts (hex c member)
    rw [unicode.ascii c (by omega), kept]
  rw [UpperCase.upper, same, List.flatMap_singleton', String.ofList_toList]

theorem normalizedEpc_eq_self {epc : String} (hex : ∀ c ∈ epc.toList, isUpperHex c = true)
    (nonempty : epc ≠ "") : normalizedEpc epc = .ok epc := by
  have same : ascii.upper (strip epc) = epc := by
    rw [strip_eq_self fun c hc => (upperHex_facts (hex c hc)).1, upper_of_upperHex ascii hex]
  have low : epc.toList.any (fun c => 127 < c.toNat) = false := by
    simp only [List.any_eq_false, decide_eq_true_eq]
    exact fun c hc => (upperHex_facts (hex c hc)).2.2.1
  simp [normalizedEpc, same, nonempty, low]

theorem plain_of_upperHex {text : String} (hex : ∀ c ∈ text.toList, isUpperHex c = true) :
    Plain text := by
  intro c member
  have digits : Plain "0123456789ABCDEF" := by decide
  exact digits c (by simpa [isUpperHex] using hex c member)

section
variable {sha : Sha256} {device : ReaderDevice} {sessionKey : String}

/-- The shape of a final event key. -/
theorem eventKey_toList (epc : String) : (eventKey sha sessionKey epc).toList =
    "final:".toList ++ (sha.digest24 sessionKey).toList ++ ":".toList ++
      (sha.digest24 epc).toList := by
  simp [eventKey]

theorem eventKey_inj {key key' epc epc' : String}
    (h : eventKey sha key epc = eventKey sha key' epc') :
    sha.digest24 key = sha.digest24 key' ∧ sha.digest24 epc = sha.digest24 epc' := by
  have lists := congrArg String.toList h
  rw [eventKey_toList, eventKey_toList] at lists
  have lengths := fun text => sha.length_digest24 text
  obtain ⟨front, back⟩ := List.append_inj lists (by simp [lengths])
  obtain ⟨front, -⟩ := List.append_inj front (by simp [lengths])
  obtain ⟨-, front⟩ := List.append_inj front rfl
  exact ⟨String.toList_inj.mp front, String.toList_inj.mp back⟩

theorem isFinalKey_eventKey (epc : String) :
    hasPrefix "final:" (eventKey sha sessionKey epc) = true := by
  rw [hasPrefix, eventKey_toList, List.append_assoc, List.append_assoc, List.isPrefixOf_iff_prefix]
  exact List.prefix_append _ _

theorem plain_eventKey (epc : String) : Plain (eventKey sha sessionKey epc) := by
  have front : Plain "final:" ∧ Plain ":" := by decide
  exact ((front.1.append (sha.plain_digest24 _)).append front.2).append (sha.plain_digest24 _)

theorem length_eventKey (epc : String) : (eventKey sha sessionKey epc).toList.length = 55 := by
  simp [eventKey_toList, sha.length_digest24]

variable (sha sessionKey) in
theorem frameToTechnicalRead_of_valid {frame : RFIDFrame} (valid : ValidTagFrame device frame) :
    ∃ read, frameToTechnicalRead sha device sessionKey frame = .ok read ∧
      read.epc = epcOf frame ∧ read.IsShort := by
  obtain ⟨tag, parsed⟩ := valid.parses
  have epc : epcOf frame = tag.epc := by rw [epcOf, parsed]
  have hex := isUpperHex_of_parseTagData parsed
  have normal := normalizedEpc_eq_self hex (epc ▸ valid.nonempty)
  have short := valid.short
  rw [epc] at short
  have key : (eventKey sha sessionKey tag.epc).toList.length ≤ 128 := by
    rw [length_eventKey]
    decide
  simp only [frameToTechnicalRead, valid.command, valid.address, valid.status, parsed, normal,
    ne_eq, not_true_eq_false, if_false, bind, Except.bind]
  exact ⟨_, rfl, epc.symm, key, short⟩

/-- A converted frame is made of digits. -/
theorem plain_of_frameToTechnicalRead {frame : RFIDFrame} {read : TechnicalRFIDRead}
    (h : frameToTechnicalRead sha device sessionKey frame = .ok read) : read.IsPlain := by
  simp only [frameToTechnicalRead, guard_eq_ok, bind_eq_ok, Except.ok.injEq] at h
  obtain ⟨-, -, -, tag, parsed, epc, normal, rfl⟩ := h
  refine ⟨plain_eventKey _, ?_⟩
  have hex := isUpperHex_of_parseTagData parsed
  have nonempty : tag.epc ≠ "" := by
    rintro blank
    rw [blank] at normal
    cases normal
  rw [normalizedEpc_eq_self hex nonempty] at normal
  cases normal
  exact plain_of_upperHex hex

/-- A converted frame carries the key of its session and EPC. -/
theorem key_of_frameToTechnicalRead {frame : RFIDFrame} {read : TechnicalRFIDRead}
    (h : frameToTechnicalRead sha device sessionKey frame = .ok read) :
    read.readerEventKey = eventKey sha sessionKey read.epc := by
  simp only [frameToTechnicalRead, guard_eq_ok, bind_eq_ok, Except.ok.injEq] at h
  obtain ⟨-, -, -, tag, -, epc, -, rfl⟩ := h
  rfl

theorem key_of_framesToTechnicalReads {frames : List RFIDFrame} {reads : List TechnicalRFIDRead}
    (h : framesToTechnicalReads sha device sessionKey frames = .ok reads) :
    ∀ read ∈ reads, read.readerEventKey = eventKey sha sessionKey read.epc := by
  induction frames generalizing reads with
  | nil =>
      cases h
      nofun
  | cons frame frames ih =>
      simp only [framesToTechnicalReads, bind_eq_ok, Except.ok.injEq] at h
      obtain ⟨first, hf, rest, hr, rfl⟩ := h
      intro read member
      rcases List.mem_cons.mp member with rfl | later
      · exact key_of_frameToTechnicalRead hf
      · exact ih hr read later

theorem plain_of_framesToTechnicalReads {frames : List RFIDFrame} {reads : List TechnicalRFIDRead}
    (h : framesToTechnicalReads sha device sessionKey frames = .ok reads) :
    ∀ read ∈ reads, read.IsPlain := by
  induction frames generalizing reads with
  | nil =>
      cases h
      nofun
  | cons frame frames ih =>
      simp only [framesToTechnicalReads, bind_eq_ok, Except.ok.injEq] at h
      obtain ⟨first, hf, rest, hr, rfl⟩ := h
      exact List.forall_mem_cons.mpr ⟨plain_of_frameToTechnicalRead hf, ih hr⟩

variable (sha sessionKey) in
theorem framesToTechnicalReads_of_valid {frames : List RFIDFrame}
    (valid : ∀ frame ∈ frames, ValidTagFrame device frame) :
    ∃ reads, framesToTechnicalReads sha device sessionKey frames = .ok reads ∧
      reads.map (·.epc) = frames.map epcOf ∧
      ∀ read ∈ reads, read.IsShort := by
  induction frames with
  | nil => exact ⟨[], rfl, rfl, nofun⟩
  | cons frame frames ih =>
      obtain ⟨read, hread, epc, fits⟩ := frameToTechnicalRead_of_valid sha sessionKey
        (valid frame (List.mem_cons_self ..))
      obtain ⟨reads, hreads, epcs, fit⟩ := ih fun f hf => valid f (List.mem_cons_of_mem _ hf)
      refine ⟨read :: reads, ?_, ?_, ?_⟩
      · simp only [framesToTechnicalReads, hread, hreads, bind, Except.bind]
      · rw [List.map_cons, List.map_cons, epc, epcs]
      · exact List.forall_mem_cons.mpr ⟨fits, fit⟩

/-- What the get_or_create loop leaves behind: the old rows, then the created ones. -/
structure Ingested (device : ReaderDevice) (reads : List TechnicalRFIDRead) (db db' : Database)
    (created : List RawRFIDEvent) : Prop where
  rows : db'.events.rows = db.events.rows ++ created
  others : db' = { db with events := db'.events }
  each : ∀ e ∈ created, e.deviceId = device.id ∧ e.queueState = .unassigned ∧
    e.rfidSessionId = none ∧ db.eventByKey device.id e.readerEventKey = none ∧
    ∃ read ∈ reads, read.readerEventKey = e.readerEventKey ∧ read.epc = e.epc
  covered : ∀ read ∈ reads, db'.eventByKey device.id read.readerEventKey ≠ none

theorem eventByKey_append {db db' : Database} {created : List RawRFIDEvent} {key : String}
    (rows : db'.events.rows = db.events.rows ++ created)
    (h : db'.eventByKey device.id key = none) : db.eventByKey device.id key = none := by
  rw [eventByKey_eq_none] at h ⊢
  exact fun e he => h e (rows ▸ List.mem_append_left _ he)

theorem ingested_of_getOrCreateEvent {utf8 : Utf8} {read : TechnicalRFIDRead} {now : Timestamp}
    {db db' : Database} {event : RawRFIDEvent} {created : Bool} (plain : read.IsPlain)
    (h : getOrCreateEvent utf8 device read now db = .ok ((event, created), db')) :
    Ingested device [read] db db' (if created then [event] else []) := by
  obtain ⟨found, rfl, rfl⟩ | ⟨fresh, key, epc, rfl, rfl, rfl⟩ := getOrCreateEvent_eq_ok h
  · refine ⟨by simp, rfl, by simp, ?_⟩
    simp [found]
  · have short := plain.isShort key epc
    rw [keptText_of_short short.readerEventKey] at fresh
    obtain ⟨sameKey, sameEpc⟩ := short.newEvent_eq device now db.events.nextKey
    refine ⟨rfl, rfl, ?_, ?_⟩
    · intro e he
      rw [if_pos rfl] at he
      rw [List.mem_singleton.mp he]
      exact ⟨rfl, rfl, rfl, sameKey ▸ fresh, read, List.mem_singleton_self _, sameKey.symm,
        sameEpc.symm⟩
    · intro r hr absent
      rw [List.mem_singleton.mp hr, eventByKey_eq_none] at absent
      exact absent _ ((Table.mem_insert _ _ (fun _ => rfl) _).mpr (.inr rfl)) rfl sameKey

theorem ingestLoop_eq_ok {utf8 : Utf8} {now : Timestamp} {reads : List TechnicalRFIDRead}
    {db db' : Database} {ids : List Nat} (plain : ∀ read ∈ reads, read.IsPlain)
    (h : ingestLoop utf8 device now reads db = .ok (ids, db')) :
    ∃ created, ids = created.map (·.id) ∧ Ingested device reads db db' created := by
  induction reads generalizing db ids with
  | nil =>
      cases h
      exact ⟨[], rfl, by simp, rfl, nofun, nofun⟩
  | cons read reads ih =>
      obtain ⟨plainRead, plainRest⟩ := List.forall_mem_cons.mp plain
      simp only [ingestLoop, bind_eq_ok, Except.ok.injEq, Prod.mk.injEq] at h
      obtain ⟨⟨⟨event, created⟩, mid⟩, step, ⟨rest, last⟩, loop, rfl, rfl⟩ := h
      have first := ingested_of_getOrCreateEvent plainRead step
      obtain ⟨later, rfl, second⟩ := ih plainRest loop
      refine ⟨(if created then [event] else []) ++ later, ?_, ?_, ?_, ?_, ?_⟩
      · cases created <;> rfl
      · rw [second.rows, first.rows, List.append_assoc]
      · rw [second.others, first.others]
      · intro e he
        rcases List.mem_append.mp he with early | late
        · obtain ⟨device, state, session, fresh, r, hr, key⟩ := first.each e early
          exact ⟨device, state, session, fresh, r, List.mem_singleton.mp hr ▸ List.mem_cons_self ..,
            key⟩
        · obtain ⟨device, state, session, fresh, r, hr, key⟩ := second.each e late
          exact ⟨device, state, session, eventByKey_append first.rows fresh, r,
            List.mem_cons_of_mem _ hr, key⟩
      · intro r hr absent
        rcases List.mem_cons.mp hr with rfl | later
        · exact first.covered r (List.mem_singleton_self _)
            (eventByKey_append second.rows absent)
        · exact second.covered r later absent

variable (device) in
theorem ingestLoop_of_short (utf8 : Utf8) (now : Timestamp) {reads : List TechnicalRFIDRead}
    (db : Database) (plain : ∀ read ∈ reads, read.IsPlain)
    (short : ∀ read ∈ reads, read.IsShort) :
    ∃ ids db', ingestLoop utf8 device now reads db = .ok (ids, db') := by
  induction reads generalizing db with
  | nil => exact ⟨[], db, rfl⟩
  | cons read reads ih =>
      obtain ⟨plainRead, plainRest⟩ := List.forall_mem_cons.mp plain
      obtain ⟨shortRead, shortRest⟩ := List.forall_mem_cons.mp short
      have got : ∃ answer, getOrCreateEvent utf8 device read now db = .ok answer := by
        cases known : db.eventByKey device.id read.readerEventKey with
        | some event => exact ⟨_, by rw [getOrCreateEvent, known]⟩
        | none => exact ⟨_, getOrCreateEvent_of_plain utf8 now plainRead shortRead known⟩
      obtain ⟨⟨⟨event, created⟩, mid⟩, got⟩ := got
      obtain ⟨ids, db', loop⟩ := ih mid plainRest shortRest
      simp only [ingestLoop, got, loop, bind, Except.bind]
      exact ⟨_, db', rfl⟩

/-- An event after its assignment to a session, if it is one of those assigned. -/
def assignIn (ids : List Nat) (sessionId : Nat) (e : RawRFIDEvent) : RawRFIDEvent :=
  if e.id ∈ ids then { e with rfidSessionId := some sessionId, queueState := .queued } else e

/-- An assignment changes neither the identity of an event nor its key. -/
theorem identity_assignIn (ids : List Nat) (sessionId : Nat) (e : RawRFIDEvent) :
    (assignIn ids sessionId e).id = e.id ∧ (assignIn ids sessionId e).deviceId = e.deviceId ∧
      (assignIn ids sessionId e).readerEventKey = e.readerEventKey := by
  unfold assignIn
  split <;> exact ⟨rfl, rfl, rfl⟩

theorem assignIn_of_notMem {ids : List Nat} {e : RawRFIDEvent} (sessionId : Nat)
    (h : e.id ∉ ids) : assignIn ids sessionId e = e := if_neg h

theorem assignEvent_eq_ok {db db' : Database} {eventId deviceId : Nat} {session : RFIDSession}
    (active : db.activeSessions deviceId = [session])
    (mine : ∀ e ∈ db.events.rows, e.id = eventId → e.deviceId = deviceId)
    (h : assignEventToActiveSession eventId db = .ok db') :
    db' = { db with events := db'.events } ∧
      db'.events.rows = db.events.rows.map (assignIn [eventId] session.id) := by
  simp only [assignEventToActiveSession, bind_eq_ok, guard_eq_ok, Except.ok.injEq] at h
  obtain ⟨event, found, -, -, chosen, getsActive, _, -, _, -, rfl⟩ := h
  obtain ⟨member, same⟩ := getEvent_eq_ok.mp found
  rw [getActiveSession, mine event member same, active] at getsActive
  cases getsActive
  refine ⟨rfl, ?_⟩
  apply List.map_congr_left
  intro e _
  simp [assignIn]

theorem assignIn_assignIn (eventId : Nat) (ids : List Nat) (sessionId : Nat) (e : RawRFIDEvent) :
    assignIn ids sessionId (assignIn [eventId] sessionId e) =
      assignIn (eventId :: ids) sessionId e := by
  by_cases first : e.id = eventId <;> by_cases later : e.id ∈ ids <;>
    simp_all [assignIn]

/-- A cycle without failures assigned every event that it was given. -/
theorem assignmentCycle_rows {ids : List Nat} {db : Database} {deviceId : Nat}
    {session : RFIDSession} (active : db.activeSessions deviceId = [session])
    (mine : ∀ e ∈ db.events.rows, e.id ∈ ids → e.deviceId = deviceId)
    (clean : (runActiveSessionAssignmentCycle ids db).1.failedCount = 0 ∧
      (runActiveSessionAssignmentCycle ids db).1.unassignedCount = 0) :
    (runActiveSessionAssignmentCycle ids db).2 =
        { db with events := (runActiveSessionAssignmentCycle ids db).2.events } ∧
      (runActiveSessionAssignmentCycle ids db).2.events.rows =
        db.events.rows.map (assignIn ids session.id) := by
  induction ids generalizing db with
  | nil =>
      refine ⟨rfl, ?_⟩
      have same : assignIn [] session.id = id := by
        funext e
        simp [assignIn]
      rw [same, List.map_id]
      rfl
  | cons eventId ids ih =>
      simp only [runActiveSessionAssignmentCycle] at clean ⊢
      cases assigned : assignEventToActiveSession eventId db with
      | error exc =>
          rw [assigned] at clean
          obtain ⟨cls, message⟩ := exc
          cases cls <;> simp at clean
      | ok mid =>
          simp only [assigned] at clean ⊢
          obtain ⟨others, rows⟩ := assignEvent_eq_ok active
            (fun e he same => mine e he (same ▸ List.mem_cons_self ..)) assigned
          have active' : mid.activeSessions deviceId = [session] := by rw [others]; exact active
          have mine' : ∀ e ∈ mid.events.rows, e.id ∈ ids → e.deviceId = deviceId := by
            intro e he hid
            rw [rows] at he
            obtain ⟨old, hold, rfl⟩ := List.mem_map.mp he
            obtain ⟨id, device, -⟩ := identity_assignIn [eventId] session.id old
            rw [id] at hid
            rw [device]
            exact mine old hold (List.mem_cons_of_mem _ hid)
          obtain ⟨others', rows'⟩ := ih active' mine' clean
          refine ⟨by rw [others', others], ?_⟩
          rw [rows', rows, List.map_map]
          exact List.map_congr_left fun e _ => assignIn_assignIn eventId ids session.id e

/-- The database after the assignment of one event. -/
def Database.assignTo (db : Database) (eventId sessionId : Nat) : Database :=
  { db with events := db.events.update eventId fun e =>
    { e with rfidSessionId := some sessionId, queueState := .queued } }

theorem mem_assignTo_of_ne {db : Database} {eventId sessionId : Nat} {e : RawRFIDEvent}
    (he : e ∈ db.events.rows) (other : e.id ≠ eventId) :
    e ∈ (db.assignTo eventId sessionId).events.rows :=
  (Table.mem_update db.events eventId (fun e =>
    { e with rfidSessionId := some sessionId, queueState := .queued }) (fun _ => rfl) e).mpr
    (.inl ⟨he, other⟩)

/-- A cycle over fresh events of a reader with a compatible active session. -/
theorem assignmentCycle_of_fresh {ids : List Nat} {db : Database} {deviceId : Nat}
    {session : RFIDSession} (active : db.activeSessions deviceId = [session])
    (compatible : requireCompatibleOperation (db.deviceOf deviceId) session = .ok ())
    (nodup : ids.Nodup)
    (fresh : ∀ id ∈ ids, ∃ e ∈ db.events.rows, e.id = id ∧ e.deviceId = deviceId ∧
      e.queueState = .unassigned ∧ e.rfidSessionId = none) :
    (runActiveSessionAssignmentCycle ids db).1 =
      ⟨ids.length, ids.length, 0, 0⟩ := by
  induction ids generalizing db with
  | nil => rfl
  | cons eventId ids ih =>
      obtain ⟨event, member, rfl, device, unassigned, noSession⟩ :=
        fresh eventId (List.mem_cons_self ..)
      have found := getEvent_eq_ok.mpr ⟨member, rfl⟩
      have legal : validateQueueTransition .unassigned .queued = .ok () := by decide
      have assigned : assignEventToActiveSession event.id db =
          .ok (db.assignTo event.id session.id) := by
        simp only [assignEventToActiveSession, found, bind, Except.bind, unassigned, noSession,
          ne_eq, not_true_eq_false, if_false, getActiveSession, device, active, compatible, legal,
          assignTo]
      simp only [runActiveSessionAssignmentCycle, assigned]
      obtain ⟨absent, rest⟩ := List.nodup_cons.mp nodup
      have tail : (runActiveSessionAssignmentCycle ids (db.assignTo event.id session.id)).1 =
          ⟨ids.length, ids.length, 0, 0⟩ := by
        refine ih active compatible rest ?_
        intro id hid
        obtain ⟨e, he, same, facts⟩ := fresh id (List.mem_cons_of_mem _ hid)
        refine ⟨e, mem_assignTo_of_ne he ?_, same, facts⟩
        intro clash
        exact absent (clash ▸ same ▸ hid)
      rw [tail]
      simp

theorem normalizedSessionKey_eq_ok {key : String}
    (h : normalizedSessionKey sessionKey = .ok key) : key = strip sessionKey := by
  simp only [normalizedSessionKey, guard_eq_ok, Except.ok.injEq] at h
  exact h.2.2.symm

theorem getIngestionSession_eq_ok {db : Database} {key : String} {session : RFIDSession}
    (h : getIngestionSession db device key = .ok session) :
    session ∈ db.activeSessions device.id ∧ session.externalSessionKey = key := by
  simp only [getIngestionSession] at h
  split at h
  · rename_i only
    cases h
    have member : session ∈ [session] := List.mem_singleton_self _
    rw [← only] at member
    simpa using List.mem_filter.mp member
  · cases h
  · cases h

theorem checkAllRecorded_eq_ok {session : RFIDSession} {db : Database}
    {reads : List TechnicalRFIDRead} :
    checkAllRecorded device session db reads = .ok () ↔
      ∀ read ∈ reads, checkRecorded device session db read = .ok () := by
  induction reads with
  | nil => simp [checkAllRecorded]
  | cons read reads ih =>
      simp only [checkAllRecorded, bind_eq_ok, List.forall_mem_cons, ih]
      exact ⟨fun ⟨_, first, rest⟩ => ⟨first, rest⟩, fun ⟨first, rest⟩ => ⟨(), first, rest⟩⟩

/-- An event that one call of final ingestion added to a session. -/
structure AddedEvent (db : Database) (device : ReaderDevice) (session : RFIDSession)
    (reads : List TechnicalRFIDRead) (e : RawRFIDEvent) : Prop where
  onReader : e.deviceId = device.id
  inSession : e.rfidSessionId = some session.id
  queued : e.queueState = .queued
  fresh : db.eventByKey device.id e.readerEventKey = none
  read : ∃ read ∈ reads, read.readerEventKey = e.readerEventKey ∧ read.epc = e.epc

/-- What one successful call of final ingestion did. -/
structure FinalIngested (db db' : Database) (device : ReaderDevice) (session : RFIDSession)
    (reads : List TechnicalRFIDRead) (created : List RawRFIDEvent) : Prop where
  others : db' = { db with events := db'.events }
  rows : db'.events.rows = db.events.rows ++ created
  each : ∀ e ∈ created, AddedEvent db device session reads e
  covered : ∀ read ∈ reads, db'.eventByKey device.id read.readerEventKey ≠ none

/-- The insertion and the assignment of one call, before its checks. -/
theorem finalIngested_of_loop {since : Nat} {db mid : Database} {session : RFIDSession}
    {reads : List TechnicalRFIDRead} {created : List RawRFIDEvent} (inv : StoreKeys since db)
    (active : session ∈ db.activeSessions device.id) (loop : Ingested device reads db mid created)
    (clean : (runActiveSessionAssignmentCycle (created.map (·.id)) mid).1.failedCount = 0 ∧
      (runActiveSessionAssignmentCycle (created.map (·.id)) mid).1.unassignedCount = 0) :
    FinalIngested db (runActiveSessionAssignmentCycle (created.map (·.id)) mid).2 device session
      reads (created.map (assignIn (created.map (·.id)) session.id)) := by
  obtain ⟨row, sameDevice, isActive⟩ := mem_activeSessions.mp active
  have only : mid.activeSessions device.id = [session] := by
    rw [loop.others]
    exact sameDevice ▸ inv.activeSessions_eq row isActive
  have distinct := mid.events.distinct
  rw [loop.rows, List.map_append, List.nodup_append] at distinct
  have oldIds : ∀ e ∈ db.events.rows, e.id ∉ created.map (·.id) :=
    fun e he clash => distinct.2.2 _ (List.mem_map_of_mem he) _ clash rfl
  have mine : ∀ e ∈ mid.events.rows, e.id ∈ created.map (·.id) → e.deviceId = device.id := by
    intro e he hid
    rw [loop.rows] at he
    rcases List.mem_append.mp he with old | new
    · exact absurd hid (oldIds e old)
    · exact (loop.each e new).1
  obtain ⟨others, rows⟩ := assignmentCycle_rows only mine clean
  have assignedRows : (runActiveSessionAssignmentCycle (created.map (·.id)) mid).2.events.rows =
      db.events.rows ++ created.map (assignIn (created.map (·.id)) session.id) := by
    rw [rows, loop.rows, List.map_append]
    congr 1
    rw [List.map_congr_left fun e he => assignIn_of_notMem session.id (oldIds e he),
      List.map_id']
  refine ⟨by rw [others, loop.others], assignedRows, ?_, ?_⟩
  · intro e he
    obtain ⟨e₀, he₀, rfl⟩ := List.mem_map.mp he
    obtain ⟨dev, -, -, fresh, read⟩ := loop.each e₀ he₀
    rw [assignIn, if_pos (List.mem_map_of_mem he₀)]
    exact ⟨dev, rfl, rfl, fresh, read⟩
  · intro read hr absent
    apply loop.covered read hr
    rw [eventByKey_eq_none] at absent ⊢
    intro e he dev key
    rw [loop.rows] at he
    rcases List.mem_append.mp he with old | new
    · exact absent e (assignedRows ▸ List.mem_append_left _ old) dev key
    · have assigned := List.mem_map_of_mem (f := assignIn (created.map (·.id)) session.id) new
      obtain ⟨-, dev', key'⟩ := identity_assignIn (created.map (·.id)) session.id e
      exact absent _ (assignedRows ▸ List.mem_append_right _ assigned) (dev'.trans dev)
        (key'.trans key)

theorem ingestFinal_eq_ok {since : Nat} {db db' : Database} {frames : List RFIDFrame}
    {now : Timestamp} {result : FinalTagIngestionResult} (inv : StoreKeys since db)
    (h : ingestFinalActiveTagFrames sha device sessionKey frames now db = .ok (result, db')) :
    ∃ session ∈ db.activeSessions device.id, session.externalSessionKey = strip sessionKey ∧
      ∃ reads created,
        framesToTechnicalReads sha device session.externalSessionKey frames = .ok reads ∧
        FinalIngested db db' device session reads created ∧
        ∀ read ∈ reads, checkRecorded device session db' read = .ok () := by
  simp only [ingestFinalActiveTagFrames, ingestTechnicalReads, bind_eq_ok, guard_eq_ok,
    Except.ok.injEq, Prod.mk.injEq] at h
  obtain ⟨key, normal, -, session, found, reads, converted, ⟨ingestion, mid⟩,
    ⟨-, ⟨ids, last⟩, loop, rfl, rfl⟩, _, counts, _, checked, -, rfl⟩ := h
  obtain ⟨active, hkey⟩ := getIngestionSession_eq_ok found
  obtain rfl := normalizedSessionKey_eq_ok normal
  obtain ⟨created, rfl, ingested⟩ :=
    ingestLoop_eq_ok (plain_of_framesToTechnicalReads converted) loop
  simp only [requireAllAssigned, guard_eq_ok, not_not] at counts
  exact ⟨session, active, hkey, reads, _, hkey ▸ converted,
    finalIngested_of_loop inv active ingested ⟨counts.1, counts.2.1⟩,
    checkAllRecorded_eq_ok.mp checked⟩

/-- A call gets as far as its integrity check when its frames are valid. -/
theorem ingestFinal_of_valid {since : Nat} {db : Database} {frames : List RFIDFrame}
    (now : Timestamp) {session : RFIDSession} (inv : StoreKeys since db)
    (row : session ∈ db.sessions.rows) (active : session.status = .active)
    (fits : CreatedSession db.devices session)
    (reader : db.deviceOf session.deviceId = some device)
    (key : strip sessionKey = session.externalSessionKey)
    (valid : ∀ frame ∈ frames, ValidTagFrame device frame) :
    ∃ reads created db', reads.map (·.epc) = frames.map epcOf ∧
      (∀ read ∈ reads, read.readerEventKey = eventKey sha session.externalSessionKey read.epc) ∧
      FinalIngested db db' device session reads created ∧
      ((∀ read ∈ reads, checkRecorded device session db' read = .ok ()) →
        ∃ result, ingestFinalActiveTagFrames sha device sessionKey frames now db =
          .ok (result, db')) := by
  obtain ⟨reads, converted, epcs, short⟩ :=
    framesToTechnicalReads_of_valid sha session.externalSessionKey valid
  have keys := key_of_framesToTechnicalReads converted
  have plain := plain_of_framesToTechnicalReads converted
  obtain ⟨ids, mid, loop⟩ := ingestLoop_of_short device sha.toUtf8 now db plain short
  obtain ⟨created, rfl, ingested⟩ := ingestLoop_eq_ok plain loop
  have sameDevice : device.id = session.deviceId := by simpa using List.find?_some reader
  have member : session ∈ db.activeSessions device.id :=
    mem_activeSessions.mpr ⟨row, sameDevice.symm, active⟩
  have only : db.activeSessions device.id = [session] :=
    sameDevice ▸ inv.activeSessions_eq row active
  obtain ⟨found, located, enabled, compatible⟩ := fits.reader
  have isDevice : found = device := Option.some.inj (located.symm.trans reader)
  have cycle : (runActiveSessionAssignmentCycle (created.map (·.id)) mid).1 =
      ⟨(created.map (·.id)).length, (created.map (·.id)).length, 0, 0⟩ := by
    have distinct := mid.events.distinct
    rw [ingested.rows, List.map_append, List.nodup_append] at distinct
    have only' : mid.activeSessions device.id = [session] := by
      rw [ingested.others]
      exact only
    have compatible' : requireCompatibleOperation (mid.deviceOf device.id) session = .ok () := by
      rw [ingested.others]
      show requireCompatibleOperation (db.deviceOf device.id) session = .ok ()
      rw [sameDevice, reader, ← isDevice]
      exact compatible
    apply assignmentCycle_of_fresh only' compatible' distinct.2.1
    intro id hid
    obtain ⟨e, he, rfl⟩ := List.mem_map.mp hid
    obtain ⟨dev, state, noSession, -⟩ := ingested.each e he
    exact ⟨e, ingested.rows ▸ List.mem_append_right _ he, rfl, dev, state, noSession⟩
  refine ⟨reads, _, _, epcs, keys,
    finalIngested_of_loop inv member ingested (by rw [cycle]; exact ⟨rfl, rfl⟩), ?_⟩
  intro checks
  have checked := checkAllRecorded_eq_ok.mpr checks
  have normal : normalizedSessionKey sessionKey = .ok session.externalSessionKey := by
    simp [normalizedSessionKey, key, fits.clean.2, Nat.not_lt.mpr fits.short]
  have chosen : getIngestionSession db device session.externalSessionKey = .ok session := by
    simp [getIngestionSession, only]
  have counts : requireAllAssigned (created.map (·.id)).length
      (runActiveSessionAssignmentCycle (created.map (·.id)) mid).1 = .ok () := by
    rw [cycle]
    simp [requireAllAssigned]
  simp only [ingestFinalActiveTagFrames, ingestTechnicalReads, normal, chosen, converted, loop,
    counts, checked, isDevice ▸ enabled, not_true_eq_false, if_false, bind, Except.bind]
  exact ⟨_, rfl⟩

end
end RfidBridge
