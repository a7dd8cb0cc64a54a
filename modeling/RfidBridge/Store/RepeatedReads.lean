import RfidBridge.Store.FinalIngestion

/-!
Reading a known tag again. Over every history of sessions, ingestion and delivery,
each final event keeps the key of its session and EPC, so a repeated read finds it;
the call is refused exactly when delivery has given that event up.
-/

namespace RfidBridge
open Database

/-- The operations of a run in which final ingestion alone writes final events. -/
def StoreOp.LeavesFinalKeys : StoreOp → Prop
  | .getOrCreateEvent _ read => hasPrefix "final:" read.readerEventKey = false
  | _ => True

/-- One committed operation of the bridge. -/
def StoreStep (sha : Sha256) (db db' : Database) : Prop :=
  ∃ (op : StoreOp) (now : Timestamp) (answer : op.Answer),
    op.Issued ∧ op.LeavesFinalKeys ∧ op.run sha now db = .ok (answer, db')

abbrev StoreSteps (sha : Sha256) : Database → Database → Prop :=
  Relation.ReflTransGen (StoreStep sha)

/-- A final event as ingestion and delivery leave it. -/
structure FinalEvent (sha : Sha256) (db : Database) (e : RawRFIDEvent) : Prop where
  assigned : e.queueState ≠ .unassigned
  session : ∃ s ∈ db.sessions.rows, e.rfidSessionId = some s.id ∧ e.deviceId = s.deviceId ∧
    e.readerEventKey = eventKey sha s.externalSessionKey e.epc

/-- What holds of the store in every state of a run. -/
structure FinalStore (sha : Sha256) (since : Nat) (db : Database) : Prop where
  keys : StoreKeys since db
  final : ∀ e ∈ db.events.rows, isFinalEvent e = true → FinalEvent sha db e

/-- The sessions keep their identity whatever happens to them. -/
def SessionsStay (db db' : Database) : Prop :=
  ∀ s ∈ db.sessions.rows, ∃ s' ∈ db'.sessions.rows, s'.id = s.id ∧ s'.deviceId = s.deviceId ∧
    s'.externalSessionKey = s.externalSessionKey

theorem FinalEvent.mono {sha : Sha256} {db db' : Database} {e : RawRFIDEvent}
    (stay : SessionsStay db db') (h : FinalEvent sha db e) : FinalEvent sha db' e := by
  obtain ⟨s, hs, id, device, key⟩ := h.session
  obtain ⟨s', hs', id', device', key'⟩ := stay s hs
  exact ⟨h.assigned, s', hs', id'.symm ▸ id, device.trans device'.symm, key'.symm ▸ key⟩

theorem Edit.sessionsStay {scope : EditScope} {db db' : Database} (h : Edit scope db db') :
    SessionsStay db db' := by
  cases h with
  | openSession row keyed =>
      exact fun s hs => ⟨s, (Table.mem_insert _ _ keyed _).mpr (.inl hs), rfl, rfl, rfl⟩
  | finishSession session status now member =>
      intro s hs
      have rows := Table.mem_update db.sessions session.id
        (fun s => { s with status, closedAt := some now }) fun _ => rfl
      by_cases same : s.id = session.id
      · exact ⟨_, (rows _).mpr (.inr ⟨s, hs, same, rfl⟩), rfl, rfl, rfl⟩
      · exact ⟨s, (rows _).mpr (.inl ⟨hs, same⟩), rfl, rfl, rfl⟩
  | _ => exact fun s hs => ⟨s, hs, rfl, rfl, rfl⟩

namespace FinalStore
variable {sha : Sha256} {since : Nat} {db : Database}

/-- A change of one event that moves it between assigned states. -/
theorem final_of_update (inv : FinalStore sha since db) {event : RawRFIDEvent}
    (state : QueueState) (assigned : state ≠ .unassigned) :
    ∀ e ∈ (db.setQueueState event.id state).events.rows, isFinalEvent e = true →
      FinalEvent sha db e := by
  intro e he isFinal
  rcases (mem_setQueueState _ _ _ _).mp he with ⟨old, _⟩ | ⟨old, hold, _, rfl⟩
  · exact inv.final e old isFinal
  · obtain ⟨-, session⟩ := inv.final old hold isFinal
    exact ⟨assigned, session⟩

theorem edit {scope : EditScope} {db' : Database}
    (mayAdd : ∀ key, scope.adds key → hasPrefix "final:" key = false) (h : Edit scope db db')
    (inv : FinalStore sha since db) : FinalStore sha since db' := by
  refine ⟨inv.keys.edit h, ?_⟩
  have stay := h.sessionsStay
  suffices same : ∀ e ∈ db'.events.rows, isFinalEvent e = true → FinalEvent sha db e from
    fun e he isFinal => (same e he isFinal).mono stay
  cases h with
  | openSession | finishSession => exact inv.final
  | addEvent row keyed deviceId readerEventKey fresh identity absent may =>
      intro e he isFinal
      rcases (Table.mem_insert _ _ keyed _).mp he with old | rfl
      · exact inv.final e old isFinal
      · rw [isFinalEvent, (identity _).2, mayAdd _ may] at isFinal
        cases isFinal
  | assignEvent event session member unassigned =>
      intro e he isFinal
      rcases (Table.mem_update db.events event.id (fun e =>
        { e with rfidSessionId := some session.id, queueState := .queued })
        (fun _ => rfl) e).mp he with ⟨old, _⟩ | ⟨old, hold, same, rfl⟩
      · exact inv.final e old isFinal
      -- a final event was assigned when it was created
      · rw [db.events.eq_of_key_eq hold member same] at isFinal
        exact absurd unassigned (inv.final event member isFinal).assigned
  | completeAttempt event attempt outcome target responseCode errorKind detail now next member
      inflight memberAttempt mine started hasTarget =>
      exact inv.final_of_update target (target_of_outcome hasTarget).1
  | deadLetter event => exact inv.final_of_update .dead (by decide)

theorem opened {event : RawRFIDEvent} {now : Timestamp} (inv : FinalStore sha since db) :
    FinalStore sha since (db.openAttempt event.id now) := by
  refine ⟨inv.keys.opened, ?_⟩
  intro e he isFinal
  obtain ⟨assigned, session⟩ := inv.final_of_update .inflight (by decide) e he isFinal
  exact ⟨assigned, session⟩

/-- Final ingestion writes final events, each with the key of its session and EPC. -/
theorem ingested {device : ReaderDevice} {sessionKey : String} {frames : List RFIDFrame}
    {now : Timestamp} {db' : Database} {result : FinalTagIngestionResult}
    (inv : FinalStore sha since db)
    (h : ingestFinalActiveTagFrames sha device sessionKey frames now db = .ok (result, db')) :
    FinalStore sha since db' := by
  refine ⟨inv.keys.ingested h, ?_⟩
  obtain ⟨session, active, -, reads, created, converted, ingested, -⟩ :=
    ingestFinal_eq_ok inv.keys h
  obtain ⟨row, device, -⟩ := mem_activeSessions.mp active
  have stay : SessionsStay db db' := by
    rw [ingested.others]
    exact fun s hs => ⟨s, hs, rfl, rfl, rfl⟩
  intro e he isFinal
  rw [ingested.rows] at he
  rcases List.mem_append.mp he with old | new
  · exact (inv.final e old isFinal).mono stay
  · have added := ingested.each e new
    obtain ⟨read, hr, key, epc⟩ := added.read
    have same : FinalEvent sha db e := by
      refine ⟨by simp [added.queued], session, row, added.inSession, ?_, ?_⟩
      · exact added.onReader.trans device.symm
      · rw [← key, ← epc]
        exact key_of_framesToTechnicalReads converted read hr
    exact same.mono stay

theorem run {db' : Database} (h : StoreStep sha db db') (inv : FinalStore sha since db) :
    FinalStore sha since db' := by
  obtain ⟨op, now, answer, issued, leaves, ran⟩ := h
  cases op with
  | ingestFinalActiveTagFrames device sessionKey frames =>
      exact inv.ingested ran
  | getOrCreateEvent device read =>
      refine StoreOp.run_invariant (edit ?_) (fun _ _ inv => inv.opened) issued ran inv
      rintro key rfl
      exact (hasPrefix_keptText (by decide)).trans leaves
  | _ =>
      refine StoreOp.run_invariant (edit ?_) (fun _ _ inv => inv.opened) issued ran inv
      nofun

end FinalStore

/-- A store in which no final event has been written yet. -/
structure NoFinalEvents (db : Database) : Prop where
  keys : StoreKeys db.sessions.nextKey db
  none : ∀ e ∈ db.events.rows, isFinalEvent e = false

theorem finalStore_of_steps {sha : Sha256} {db₀ db : Database} (init : NoFinalEvents db₀)
    (run : StoreSteps sha db₀ db) : FinalStore sha db₀.sessions.nextKey db := by
  induction run with
  | refl => exact ⟨init.keys, fun e he isFinal => by simp [init.none e he] at isFinal⟩
  | tail _ step ih => exact ih.run step

/-- The event that final ingestion recorded for an EPC in a session. -/
def Recorded (db : Database) (session : RFIDSession) (epc : String) (e : RawRFIDEvent) : Prop :=
  e ∈ db.events.rows ∧ isFinalEvent e = true ∧ e.rfidSessionId = some session.id ∧ e.epc = epc

/-- Some frame shows a tag whose event delivery has given up. -/
def ShowsGivenUp (db : Database) (session : RFIDSession) (frames : List RFIDFrame) : Prop :=
  ∃ frame ∈ frames, ∃ e, Recorded db session (epcOf frame) e ∧
    (e.queueState = .rejected ∨ e.queueState = .dead)

/-- The cut digests tell the sessions and the EPCs apart that meet in a call. -/
structure NoDigestCollision (sha : Sha256) (db : Database) (session : RFIDSession)
    (frames : List RFIDFrame) : Prop where
  sessions : ∀ s ∈ db.sessions.rows,
    sha.digest24 s.externalSessionKey = sha.digest24 session.externalSessionKey →
    s.externalSessionKey = session.externalSessionKey
  epcs : ∀ epc ∈ frames.map epcOf, ∀ other,
    other ∈ frames.map epcOf ∨ (∃ e ∈ db.events.rows, e.epc = other) →
    sha.digest24 epc = sha.digest24 other → epc = other

/-- The call records each new EPC once, queued, and changes nothing else. -/
structure AddsNewTags (db db' : Database) (session : RFIDSession) (frames : List RFIDFrame)
    (created : List RawRFIDEvent) : Prop where
  others : db' = { db with events := db'.events }
  rows : db'.events.rows = db.events.rows ++ created
  queued : ∀ e ∈ created, e.queueState = .queued ∧ Recorded db' session e.epc e
  once : (created.map (·.epc)).Nodup
  new_iff : ∀ epc, epc ∈ created.map (·.epc) ↔
    epc ∈ frames.map epcOf ∧ ¬ ∃ e, Recorded db session epc e

section
variable {sha : Sha256} {since : Nat} {db : Database} {session : RFIDSession}
  {frames : List RFIDFrame}

/-- A recorded event is found under the key of its session and EPC. -/
theorem key_of_recorded {epc : String} {e : RawRFIDEvent} (inv : FinalStore sha since db)
    (row : session ∈ db.sessions.rows) (h : Recorded db session epc e) :
    e.deviceId = session.deviceId ∧
      e.readerEventKey = eventKey sha session.externalSessionKey epc := by
  obtain ⟨member, isFinal, inSession, rfl⟩ := h
  obtain ⟨s, hs, id, device, key⟩ := (inv.final e member isFinal).session
  have same : s = session :=
    db.sessions.eq_of_key_eq hs row (Option.some.inj (id.symm.trans inSession))
  exact same ▸ ⟨device, key⟩

/-- Without collisions only the recorded event has that key. -/
theorem recorded_of_key {epc : String} {e : RawRFIDEvent} (inv : FinalStore sha since db)
    (row : session ∈ db.sessions.rows) (apart : NoDigestCollision sha db session frames)
    (shown : epc ∈ frames.map epcOf) (member : e ∈ db.events.rows)
    (key : e.readerEventKey = eventKey sha session.externalSessionKey epc) :
    Recorded db session epc e := by
  have isFinal : isFinalEvent e = true := by
    rw [isFinalEvent, key]
    exact isFinalKey_eventKey epc
  obtain ⟨s, hs, id, -, key'⟩ := (inv.final e member isFinal).session
  obtain ⟨sameSession, sameEpc⟩ := eventKey_inj (key'.symm.trans key)
  have same : s = session := inv.keys.sessionKeys s hs session row (apart.sessions s hs sameSession)
  exact ⟨member, isFinal, same ▸ id,
    (apart.epcs epc shown e.epc (.inr ⟨e, member, rfl⟩) sameEpc.symm).symm⟩

variable {device : ReaderDevice} {db' : Database} {reads : List TechnicalRFIDRead}
  {created : List RawRFIDEvent}

/-- What a call knows about the reads it made of valid frames. -/
structure ReadsOf (sha : Sha256) (session : RFIDSession) (frames : List RFIDFrame)
    (reads : List TechnicalRFIDRead) : Prop where
  epcs : reads.map (·.epc) = frames.map epcOf
  keys : ∀ read ∈ reads, read.readerEventKey = eventKey sha session.externalSessionKey read.epc

theorem ReadsOf.shown (h : ReadsOf sha session frames reads) {read : TechnicalRFIDRead}
    (hr : read ∈ reads) : read.epc ∈ frames.map epcOf :=
  h.epcs ▸ List.mem_map_of_mem hr

/-- The event behind the key of a read: recorded before, or created by this call. -/
theorem event_of_read (inv : FinalStore sha since db) (row : session ∈ db.sessions.rows)
    (apart : NoDigestCollision sha db session frames) (of : ReadsOf sha session frames reads)
    (ingested : FinalIngested db db' device session reads created) {read : TechnicalRFIDRead}
    (hr : read ∈ reads) {e : RawRFIDEvent}
    (found : db'.eventByKey device.id read.readerEventKey = some e) :
    Recorded db session read.epc e ∨ (e ∈ created ∧ e.epc = read.epc) := by
  obtain ⟨member, -, key⟩ := mem_of_eventByKey found
  rw [of.keys read hr] at key
  rw [ingested.rows] at member
  rcases List.mem_append.mp member with old | new
  · exact .inl (recorded_of_key inv row apart (of.shown hr) old key)
  · obtain ⟨r, hr', key', epc⟩ := (ingested.each e new).read
    refine .inr ⟨new, ?_⟩
    rw [← epc, of.keys r hr'] at *
    exact apart.epcs r.epc (of.shown hr') read.epc (.inl (of.shown hr))
      (eventKey_inj (key'.trans key)).2

/-- The integrity check passes for every read that delivery has not given up. -/
theorem checkRecorded_of_live (inv : FinalStore sha since db) (row : session ∈ db.sessions.rows)
    (apart : NoDigestCollision sha db session frames) (of : ReadsOf sha session frames reads)
    (ingested : FinalIngested db db' device session reads created)
    (live : ¬ ShowsGivenUp db session frames) {read : TechnicalRFIDRead} (hr : read ∈ reads) :
    checkRecorded device session db' read = .ok () := by
  cases found : db'.eventByKey device.id read.readerEventKey with
  | none => exact absurd found (ingested.covered read hr)
  | some e =>
      simp only [checkRecorded, found]
      rcases event_of_read inv row apart of ingested hr found with recorded | ⟨new, epc⟩
      · obtain ⟨frame, hf, shown⟩ := List.mem_map.mp (of.shown hr)
        obtain ⟨member, isFinal, inSession, epc⟩ := recorded
        have assigned := (inv.final e member isFinal).assigned
        have notGivenUp : ¬ (e.queueState = .rejected ∨ e.queueState = .dead) :=
          fun h => live ⟨frame, hf, e, ⟨member, isFinal, inSession, epc.trans shown.symm⟩, h⟩
        have state : e.queueState ∈ finalRuntimeStates := by
          revert assigned notGivenUp
          cases e.queueState <;> simp [finalRuntimeStates]
        simp [epc, inSession, state]
      · have added := ingested.each e new
        simp [epc, added.inSession, added.queued, finalRuntimeStates]

theorem addsNewTags_of_ingested (inv : FinalStore sha since db) (keys : StoreKeys since db')
    (row : session ∈ db.sessions.rows) (sameDevice : device.id = session.deviceId)
    (apart : NoDigestCollision sha db session frames) (of : ReadsOf sha session frames reads)
    (ingested : FinalIngested db db' device session reads created) :
    AddsNewTags db db' session frames created := by
  have memberOf : ∀ e ∈ created, e ∈ db'.events.rows :=
    fun e he => ingested.rows ▸ List.mem_append_right _ he
  have keyOf : ∀ e ∈ created,
      e.readerEventKey = eventKey sha session.externalSessionKey e.epc := by
    intro e he
    obtain ⟨read, hr, key, epc⟩ := (ingested.each e he).read
    rw [← key, ← epc, of.keys read hr]
  refine ⟨ingested.others, ingested.rows, ?_, ?_, ?_⟩
  · intro e he
    have added := ingested.each e he
    refine ⟨added.queued, memberOf e he, ?_, added.inSession, rfl⟩
    rw [isFinalEvent, keyOf e he]
    exact isFinalKey_eventKey e.epc
  · have distinct := db'.events.distinct
    rw [ingested.rows, List.map_append, List.nodup_append] at distinct
    refine List.Nodup.map_on ?_ (List.Nodup.of_map _ distinct.2.1)
    intro e he e' he' same
    apply keys.eventKeys e (memberOf e he) e' (memberOf e' he')
    · rw [(ingested.each e he).onReader, (ingested.each e' he').onReader]
    · rw [keyOf e he, keyOf e' he', same]
  · intro epc
    constructor
    · intro h
      obtain ⟨e, he, rfl⟩ := List.mem_map.mp h
      have added := ingested.each e he
      obtain ⟨read, hr, key, hepc⟩ := added.read
      refine ⟨hepc ▸ of.shown hr, ?_⟩
      rintro ⟨old, recorded⟩
      obtain ⟨device, oldKey⟩ := key_of_recorded inv row recorded
      exact eventByKey_eq_none.mp added.fresh old recorded.1 (device.trans sameDevice.symm)
        (oldKey.trans (keyOf e he).symm)
    · rintro ⟨shown, unrecorded⟩
      rw [← of.epcs] at shown
      obtain ⟨read, hr, rfl⟩ := List.mem_map.mp shown
      cases found : db'.eventByKey device.id read.readerEventKey with
      | none => exact absurd found (ingested.covered read hr)
      | some e =>
          rcases event_of_read inv row apart of ingested hr found with recorded | ⟨new, same⟩
          · exact absurd ⟨e, recorded⟩ unrecorded
          · exact same ▸ List.mem_map_of_mem new

/-- A call that shows a tag whose event was given up does not get through its check. -/
theorem ingestFinal_error_of_givenUp {sessionKey : String} {now : Timestamp}
    (inv : FinalStore sha since db) (row : session ∈ db.sessions.rows)
    (active : session.status = .active) (sameDevice : device.id = session.deviceId)
    (key : strip sessionKey = session.externalSessionKey)
    (valid : ∀ frame ∈ frames, ValidTagFrame device frame)
    (givenUp : ShowsGivenUp db session frames) :
    ∃ exc, ingestFinalActiveTagFrames sha device sessionKey frames now db = .error exc := by
  cases outcome : ingestFinalActiveTagFrames sha device sessionKey frames now db with
  | error exc => exact ⟨exc, rfl⟩
  | ok done =>
      obtain ⟨result, db'⟩ := done
      exfalso
      obtain ⟨other, hactive, hkey, reads, created, converted, ingested, checks⟩ :=
        ingestFinal_eq_ok inv.keys outcome
      obtain ⟨hrow, -, -⟩ := mem_activeSessions.mp hactive
      obtain rfl : other = session := inv.keys.sessionKeys other hrow session row (hkey.trans key)
      obtain ⟨reads', converted', epcs, -⟩ :=
        framesToTechnicalReads_of_valid sha other.externalSessionKey valid
      obtain rfl : reads' = reads := Except.ok.inj (converted'.symm.trans converted)
      obtain ⟨frame, hf, e, recorded, state⟩ := givenUp
      have shown : epcOf frame ∈ reads'.map (·.epc) := epcs ▸ List.mem_map_of_mem hf
      obtain ⟨read, hr, same⟩ := List.mem_map.mp shown
      have keys : StoreKeys since db' := inv.keys.ingested outcome
      obtain ⟨onReader, hkeyOld⟩ := key_of_recorded inv row recorded
      have checked := checks read hr
      cases found : db'.eventByKey device.id read.readerEventKey with
      | none => exact absurd found (ingested.covered read hr)
      | some e' =>
          obtain ⟨member', device', key'⟩ := mem_of_eventByKey found
          have readKey := key_of_framesToTechnicalReads converted read hr
          have sameEvent : e' = e := by
            apply keys.eventKeys e' member' e (ingested.rows ▸ List.mem_append_left _ recorded.1)
            · rw [device', onReader, sameDevice]
            · rw [key', readKey, hkeyOld, same]
          simp only [checkRecorded, found, guard_eq_ok, and_true, not_not] at checked
          have live := checked.2.2
          rw [sameEvent] at live
          rcases state with h | h <;> simp [h, finalRuntimeStates] at live

end

/-- Over every history of sessions, final ingestion and delivery, a batch of valid
frames for an active session that a START created either adds one queued event for
each EPC that is new to the session and changes no other row, or, exactly when it
shows a tag whose event is REJECTED or DEAD, is refused. -/
theorem ingestFinalActiveTagFrames_again {sha : Sha256} {db₀ db : Database}
    (init : NoFinalEvents db₀) (run : StoreSteps sha db₀ db) {session : RFIDSession}
    (row : session ∈ db.sessions.rows) (created : db₀.sessions.nextKey ≤ session.id)
    (active : session.status = .active) {device : ReaderDevice}
    (reader : db.deviceOf session.deviceId = some device) {sessionKey : String}
    (key : strip sessionKey = session.externalSessionKey) {frames : List RFIDFrame}
    (valid : ∀ frame ∈ frames, ValidTagFrame device frame)
    (apart : NoDigestCollision sha db session frames) (now : Timestamp) :
    (¬ ShowsGivenUp db session frames → ∃ result db' new,
      ingestFinalActiveTagFrames sha device sessionKey frames now db = .ok (result, db') ∧
      AddsNewTags db db' session frames new) ∧
    (ShowsGivenUp db session frames →
      ∃ exc, ingestFinalActiveTagFrames sha device sessionKey frames now db = .error exc) := by
  have inv := finalStore_of_steps init run
  have fits := inv.keys.created session row created
  have sameDevice : device.id = session.deviceId := by simpa using List.find?_some reader
  refine ⟨?_, ingestFinal_error_of_givenUp inv row active sameDevice key valid⟩
  intro live
  obtain ⟨reads, new, db', epcs, keys, ingested, succeeds⟩ :=
    ingestFinal_of_valid now inv.keys row active fits reader key valid
  have of : ReadsOf sha session frames reads := ⟨epcs, keys⟩
  obtain ⟨result, outcome⟩ := succeeds fun read hr =>
    checkRecorded_of_live inv row apart of ingested live hr
  exact ⟨result, db', new, outcome,
    addsNewTags_of_ingested inv (inv.keys.ingested outcome) row sameDevice apart of ingested⟩

/-- Operations one after another, up to the first that raises. -/
def runAll (sha : Sha256) : List StoreOp → Database → Except PyException Database
  | [], db => .ok db
  | op :: ops, db => do
      let (_, db) ← op.run sha 0 db
      runAll sha ops db

theorem storeSteps_of_runAll {sha : Sha256} {ops : List StoreOp} {db db' : Database}
    (allowed : ∀ op ∈ ops, op.Issued ∧ op.LeavesFinalKeys)
    (h : runAll sha ops db = .ok db') : StoreSteps sha db db' := by
  induction ops generalizing db with
  | nil =>
      cases h
      exact .refl
  | cons op ops ih =>
      obtain ⟨⟨answer, mid⟩, ran, rest⟩ := bind_eq_ok.mp h
      obtain ⟨issued, leaves⟩ := allowed op (List.mem_cons_self ..)
      exact .head ⟨op, 0, answer, issued, leaves, ran⟩
        (ih (fun op hop => allowed op (List.mem_cons_of_mem _ hop)) rest)

def receivingGate : ReaderDevice :=
  { id := 1, code := "GATE-1", inventoryMode := .active, enabled := true }

def zeroDigest : Sha256 :=
  ⟨plainUtf8, fun _ => zeros, fun _ => length_zeros, fun _ => hex_zeros⟩

def startCommand : OdooRFIDCommand :=
  { sessionKey := "S1", readerCode := "GATE-1", command := .start, revision := 1,
    readerCode_clean := clean_gate, revision_pos := firstRevision_pos }

/-- An active-tag frame that shows the EPC E2. -/
def tagFrame : RFIDFrame where
  address := 1
  sequence := 0
  command := commandActiveTag
  status := 0
  payload := [0, 0, 0, 4, 1, 1, 0xE2]
  rawFrame := []

/-- A session starts, its tag is read, and the delivery of the tag ends in `outcome`. -/
def deliveredOnce (outcome : Outcome) : List StoreOp :=
  [.synchronizeStartCommand startCommand,
   .ingestFinalActiveTagFrames receivingGate "S1" [tagFrame],
   .startDeliveryAttempt 1 .queued 3,
   .completeDeliveryAttempt 1 1 outcome "" "" "" none none]

theorem deliveredOnce_allowed (outcome : Outcome) :
    ∀ op ∈ deliveredOnce outcome, op.Issued ∧ op.LeavesFinalKeys := by
  simp [deliveredOnce, StoreOp.Issued, StoreOp.LeavesFinalKeys]

theorem tagFrame_valid : ValidTagFrame receivingGate tagFrame where
  command := rfl
  status := rfl
  address := rfl
  parses := ⟨_, rfl⟩
  nonempty := by decide +kernel
  short := by decide +kernel

def oneReader : Database := { devices := [receivingGate] }

def startedSession : RFIDSession :=
  { id := 1, externalSessionKey := "S1", deviceId := 1, operationType := .receipt,
    odooRecordId := 0 }

/-- What the run leaves, read off the final store. -/
theorem deliveredOnce_store (outcome : Outcome) (state : QueueState)
    (h : (runAll zeroDigest (deliveredOnce outcome) oneReader).map (fun db => (db.devices,
        db.sessions.rows, db.events.rows.map fun e => (e.epc, e.queueState))) =
      .ok ([receivingGate], [startedSession], [("E2", state)])) :
    ∃ db, runAll zeroDigest (deliveredOnce outcome) oneReader = .ok db ∧
      StoreSteps zeroDigest oneReader db ∧ db.devices = [receivingGate] ∧
      db.sessions.rows = [startedSession] ∧
      db.events.rows.map (fun e => (e.epc, e.queueState)) = [("E2", state)] ∧
      NoDigestCollision zeroDigest db startedSession [tagFrame] := by
  cases ran : runAll zeroDigest (deliveredOnce outcome) oneReader with
  | error exc => simp [ran, Except.map] at h
  | ok db =>
      simp only [ran, Except.map, Except.ok.injEq, Prod.mk.injEq] at h
      obtain ⟨devices, sessions, events⟩ := h
      refine ⟨db, rfl, storeSteps_of_runAll (deliveredOnce_allowed outcome) ran, devices, sessions,
        events, ?_, ?_⟩
      · simp [sessions]
      · have epc : epcOf tagFrame = "E2" := by decide +kernel
        have stored : ∀ e ∈ db.events.rows, e.epc = "E2" := by
          intro e he
          have pair := List.mem_map_of_mem (f := fun e => (e.epc, e.queueState)) he
          rw [events, List.mem_singleton] at pair
          exact congrArg Prod.fst pair
        rintro shown hs other (hother | ⟨e, he, rfl⟩) -
        · simp_all
        · simp_all

theorem noFinalEvents_oneReader : NoFinalEvents oneReader where
  keys := ⟨by decide, nofun, nofun, nofun, nofun⟩
  none := nofun

/-- A tag that was delivered is read again without harm. -/
theorem ingestFinalActiveTagFrames_again_sent : ∃ db result db' new,
    StoreSteps zeroDigest oneReader db ∧
    ingestFinalActiveTagFrames zeroDigest receivingGate "S1" [tagFrame] 0 db =
      .ok (result, db') ∧
    AddsNewTags db db' startedSession [tagFrame] new := by
  obtain ⟨db, -, run, devices, sessions, events, apart⟩ :=
    deliveredOnce_store .sent .sent (by decide +kernel)
  have live : ¬ ShowsGivenUp db startedSession [tagFrame] := by
    rintro ⟨frame, hf, e, ⟨he, -⟩, state⟩
    have pair := List.mem_map_of_mem (f := fun e => (e.epc, e.queueState)) he
    rw [events, List.mem_singleton] at pair
    have sent : e.queueState = .sent := congrArg Prod.snd pair
    simp [sent] at state
  have located : db.deviceOf startedSession.deviceId = some receivingGate := by
    rw [deviceOf, devices]
    rfl
  have key : strip "S1" = startedSession.externalSessionKey := by decide
  obtain ⟨result, db', new, outcome, added⟩ := (ingestFinalActiveTagFrames_again
    noFinalEvents_oneReader run (sessions ▸ List.mem_singleton_self _) (by decide) rfl located
    key (fun frame hf => List.mem_singleton.mp hf ▸ tagFrame_valid) apart 0).1 live
  exact ⟨db, result, db', new, run, outcome, added⟩

/-- A tag whose event Odoo rejected makes the next read of it fail. -/
theorem ingestFinalActiveTagFrames_fails_after_rejection : ∃ db,
    StoreSteps zeroDigest oneReader db ∧ startedSession ∈ db.sessions.rows ∧
    startedSession.status = .active ∧ db.deviceOf startedSession.deviceId = some receivingGate ∧
    ValidTagFrame receivingGate tagFrame ∧
    NoDigestCollision zeroDigest db startedSession [tagFrame] ∧
    ingestFinalActiveTagFrames zeroDigest receivingGate "S1" [tagFrame] 0 db =
      .error ⟨.finalTagIngestionError, "Existing RFID event is in an invalid final-runtime " ++
        "queue state: rejected."⟩ := by
  have again : (runAll zeroDigest (deliveredOnce .rejected) oneReader).bind (fun db =>
      (ingestFinalActiveTagFrames zeroDigest receivingGate "S1" [tagFrame] 0 db).map
        fun done => done.1) = .error ⟨.finalTagIngestionError,
      "Existing RFID event is in an invalid final-runtime queue state: rejected."⟩ := by
    decide +kernel
  obtain ⟨db, ran, run, devices, sessions, -, apart⟩ :=
    deliveredOnce_store .rejected .rejected (by decide +kernel)
  rw [ran] at again
  refine ⟨db, run, sessions ▸ List.mem_singleton_self _, rfl, ?_, tagFrame_valid, apart, ?_⟩
  · rw [deviceOf, devices]
    rfl
  · cases outcome : ingestFinalActiveTagFrames zeroDigest receivingGate "S1" [tagFrame] 0 db with
    | ok done => simp [outcome, Except.bind, Except.map] at again
    | error exc =>
        simp only [outcome, Except.bind, Except.map, Except.error.injEq] at again
        rw [again]
        rfl
end RfidBridge
