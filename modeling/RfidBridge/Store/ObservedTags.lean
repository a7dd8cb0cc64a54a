import RfidBridge.Store.RepeatedReads
import RfidBridge.Store.SessionLifecycle
import Mathlib.Data.List.Dedup

/-!
What final ingestion makes of everything a session sees. Over every history of
operations, the final events of a session are the distinct EPCs of the frames of the
calls that succeeded, however those frames were cut into batches; a call that meets a
colliding key fails.
-/

namespace RfidBridge
open Database

/-- The frames that an operation brings to the session of a key. -/
def StoreOp.framesFor (key : String) : StoreOp → List RFIDFrame
  | .ingestFinalActiveTagFrames _ sessionKey frames => if strip sessionKey = key then frames else []
  | _ => []

/-- What happens to the database while final ingestion alone writes final events. -/
abbrev History (sha : Sha256) : Database → Database → Prop :=
  Relation.ReflTransGen fun db db' => StoreStep sha db db' ∨ CreatesTestSession sha.toUtf8 db db'

theorem history_of_steps {sha : Sha256} {db db' : Database} (run : StoreSteps sha db db') :
    History sha db db' := by
  induction run with
  | refl => exact .refl
  | tail _ step ih => exact ih.tail (.inl step)

/-- A history of operations, and the frames of its successful calls for one session. -/
inductive Observed (sha : Sha256) (key : String) (db₀ : Database) :
    List RFIDFrame → Database → Prop
  | start : Observed sha key db₀ [] db₀
  | succeeds {frames : List RFIDFrame} {mid db : Database} (op : StoreOp) (now : Timestamp)
      (answer : op.Answer) :
      Observed sha key db₀ frames mid → op.Issued → op.LeavesFinalKeys →
      op.run sha now mid = .ok (answer, db) →
      Observed sha key db₀ (frames ++ op.framesFor key) db
  | creates {frames : List RFIDFrame} {mid db : Database} :
      Observed sha key db₀ frames mid → CreatesTestSession sha.toUtf8 mid db →
      Observed sha key db₀ frames db
  | raises {frames : List RFIDFrame} {db : Database} (op : StoreOp) (now : Timestamp)
      (exc : PyException) :
      Observed sha key db₀ frames db → op.run sha now db = .error exc →
      Observed sha key db₀ frames db

/-- The final events of one session. -/
def Database.finalEventsIn (db : Database) (session : RFIDSession) : List RawRFIDEvent :=
  (db.eventsOf session.id).filter isFinalEvent

/-- The EPC has a final event in the session. -/
def HasEvent (db : Database) (session : RFIDSession) (epc : String) : Prop :=
  ∃ e, Recorded db session epc e

section
variable {sha : Sha256} {since : Nat} {db db' : Database} {session : RFIDSession}

theorem mem_finalEventsIn {e : RawRFIDEvent} :
    e ∈ db.finalEventsIn session ↔ Recorded db session e.epc e := by
  simp only [finalEventsIn, eventsOf, List.mem_filter, beq_iff_eq, Recorded, and_true]
  tauto

/-- A change of one event that is no final event, or keeps its session and EPC. -/
theorem hasEvent_update {k : Nat} (change : RawRFIDEvent → RawRFIDEvent)
    (keeps : ∀ e, Keyed.key (change e) = Keyed.key e)
    (sameKey : ∀ e, (change e).readerEventKey = e.readerEventKey)
    (same : ∀ e ∈ db.events.rows, e.id = k → isFinalEvent e = true →
      (change e).rfidSessionId = e.rfidSessionId ∧ (change e).epc = e.epc) {epc : String} :
    HasEvent { db with events := db.events.update k change keeps } session epc ↔
      HasEvent db session epc := by
  have rows := Table.mem_update db.events k change keeps
  have final : ∀ e, isFinalEvent (change e) = isFinalEvent e := by
    intro e
    rw [isFinalEvent, sameKey, isFinalEvent]
  constructor
  · rintro ⟨e, member, isFinal, inSession, shown⟩
    rcases (rows e).mp member with ⟨old, -⟩ | ⟨old, found, id, rfl⟩
    · exact ⟨e, old, isFinal, inSession, shown⟩
    · rw [final] at isFinal
      obtain ⟨sameSession, sameEpc⟩ := same old found id isFinal
      exact ⟨old, found, isFinal, sameSession ▸ inSession, sameEpc ▸ shown⟩
  · rintro ⟨e, member, isFinal, inSession, shown⟩
    by_cases id : e.id = k
    · obtain ⟨sameSession, sameEpc⟩ := same e member id isFinal
      exact ⟨change e, (rows _).mpr (.inr ⟨e, member, id, rfl⟩), (final e).trans isFinal,
        sameSession.trans inSession, sameEpc.trans shown⟩
    · exact ⟨e, (rows e).mpr (.inl ⟨member, id⟩), isFinal, inSession, shown⟩

theorem hasEvent_setQueueState {eventId : Nat} {target : QueueState} {epc : String} :
    HasEvent (db.setQueueState eventId target) session epc ↔ HasEvent db session epc :=
  hasEvent_update (fun e => { e with queueState := target }) (fun _ => rfl) (fun _ => rfl)
    fun _ _ _ _ => ⟨rfl, rfl⟩

/-- No edit but an insertion by final ingestion touches the final events of a session. -/
theorem Edit.hasEvent {scope : EditScope}
    (mayAdd : ∀ key, scope.adds key → hasPrefix "final:" key = false) (h : Edit scope db db')
    (inv : FinalStore sha since db) {epc : String} :
    HasEvent db' session epc ↔ HasEvent db session epc := by
  cases h with
  | openSession | finishSession => exact Iff.rfl
  | addEvent row keyed deviceId readerEventKey fresh identity absent may =>
      constructor
      · rintro ⟨e, member, isFinal, inSession, shown⟩
        rcases (Table.mem_insert _ _ keyed _).mp member with old | rfl
        · exact ⟨e, old, isFinal, inSession, shown⟩
        · rw [isFinalEvent, (identity _).2, mayAdd _ may] at isFinal
          cases isFinal
      · rintro ⟨e, member, facts⟩
        exact ⟨e, (Table.mem_insert _ _ keyed _).mpr (.inl member), facts⟩
  | assignEvent event found member unassigned =>
      refine hasEvent_update
        (fun e => { e with rfidSessionId := some found.id, queueState := .queued }) (fun _ => rfl)
        (fun _ => rfl) ?_
      intro e he id isFinal
      rw [db.events.eq_of_key_eq he member id] at isFinal
      exact absurd unassigned (inv.final event member isFinal).assigned
  | completeAttempt event attempt outcome target =>
      exact hasEvent_setQueueState
  | deadLetter event => exact hasEvent_setQueueState

/-- A converted frame carries the EPC that it shows. -/
theorem epc_of_frameToTechnicalRead {device : ReaderDevice} {sessionKey : String}
    {frame : RFIDFrame} {read : TechnicalRFIDRead}
    (h : frameToTechnicalRead sha device sessionKey frame = .ok read) : read.epc = epcOf frame := by
  simp only [frameToTechnicalRead, guard_eq_ok, bind_eq_ok, Except.ok.injEq] at h
  obtain ⟨-, -, -, tag, parsed, epc, normal, rfl⟩ := h
  have shown : epcOf frame = tag.epc := by rw [epcOf, parsed]
  have nonempty : tag.epc ≠ "" := by
    intro blank
    rw [blank] at normal
    have refused : normalizedEpc "" = raised .finalTagIngestionError
        "Active tag frame does not contain an EPC." := by decide
    rw [refused] at normal
    cases normal
  rw [normalizedEpc_eq_self (isUpperHex_of_parseTagData parsed) nonempty] at normal
  exact (Except.ok.inj normal).symm.trans shown.symm

theorem epcs_of_framesToTechnicalReads {device : ReaderDevice} {sessionKey : String}
    {frames : List RFIDFrame} {reads : List TechnicalRFIDRead}
    (h : framesToTechnicalReads sha device sessionKey frames = .ok reads) :
    reads.map (·.epc) = frames.map epcOf := by
  induction frames generalizing reads with
  | nil =>
      cases h
      rfl
  | cons frame frames ih =>
      simp only [framesToTechnicalReads, bind_eq_ok, Except.ok.injEq] at h
      obtain ⟨first, converted, rest, later, rfl⟩ := h
      rw [List.map_cons, List.map_cons, epc_of_frameToTechnicalRead converted, ih later]

/-- The integrity check vouches for the event behind the key of a read. -/
theorem checkRecorded_eq_ok {device : ReaderDevice} {read : TechnicalRFIDRead}
    (h : checkRecorded device session db read = .ok ()) :
    ∃ e, db.eventByKey device.id read.readerEventKey = some e ∧ e.epc = read.epc ∧
      e.rfidSessionId = some session.id := by
  simp only [checkRecorded] at h
  split at h
  · cases h
  · rename_i e found
    simp only [guard_eq_ok, not_not, and_true] at h
    exact ⟨e, found, h.1, h.2.1⟩

/-- The row of a session, whatever happened to it since. -/
def StillThere (db : Database) (session : RFIDSession) : Prop :=
  ∃ s ∈ db.sessions.rows, s.id = session.id ∧ s.externalSessionKey = session.externalSessionKey

theorem StillThere.of_stay (h : StillThere db session) (stay : SessionsStay db db') :
    StillThere db' session := by
  obtain ⟨s, hs, id, key⟩ := h
  obtain ⟨s', hs', id', -, key'⟩ := stay s hs
  exact ⟨s', hs', id'.trans id, key'.trans key⟩

/-- The key that a call names decides whether it is about the session. -/
theorem StillThere.id_eq_iff (h : StillThere db session) (keys : StoreKeys since db)
    {called : RFIDSession} (row : called ∈ db.sessions.rows) :
    called.id = session.id ↔ called.externalSessionKey = session.externalSessionKey := by
  obtain ⟨s, hs, id, key⟩ := h
  constructor
  · intro same
    rw [db.sessions.eq_of_key_eq row hs (same.trans id.symm), key]
  · intro same
    rw [keys.sessionKeys called row s hs (same.trans key.symm), id]

/-- A successful call gives its session an event for each EPC that it was shown. -/
theorem hasEvent_ingested {device : ReaderDevice} {sessionKey : String} {frames : List RFIDFrame}
    {now : Timestamp} {result : FinalTagIngestionResult} (inv : FinalStore sha since db)
    (there : StillThere db session)
    (h : ingestFinalActiveTagFrames sha device sessionKey frames now db = .ok (result, db'))
    {epc : String} :
    HasEvent db' session epc ↔ HasEvent db session epc ∨
      strip sessionKey = session.externalSessionKey ∧ epc ∈ frames.map epcOf := by
  obtain ⟨called, active, key, reads, created, converted, ingested, checks⟩ :=
    ingestFinal_eq_ok inv.keys h
  obtain ⟨row, -, -⟩ := mem_activeSessions.mp active
  have mine := there.id_eq_iff inv.keys row
  rw [key] at mine
  have epcs := epcs_of_framesToTechnicalReads converted
  constructor
  · rintro ⟨e, member, isFinal, inSession, shown⟩
    rw [ingested.rows] at member
    rcases List.mem_append.mp member with old | new
    · exact .inl ⟨e, old, isFinal, inSession, shown⟩
    · have added := ingested.each e new
      obtain ⟨read, hr, -, sameEpc⟩ := added.read
      have same := added.inSession.symm.trans inSession
      refine .inr ⟨mine.mp (Option.some.inj same), ?_⟩
      rw [← epcs, ← shown, ← sameEpc]
      exact List.mem_map_of_mem hr
  · rintro (⟨e, member, facts⟩ | ⟨named, shown⟩)
    · exact ⟨e, ingested.rows ▸ List.mem_append_left _ member, facts⟩
    · rw [← epcs] at shown
      obtain ⟨read, hr, rfl⟩ := List.mem_map.mp shown
      obtain ⟨e, found, sameEpc, inSession⟩ := checkRecorded_eq_ok (checks read hr)
      obtain ⟨member, -, sameKey⟩ := mem_of_eventByKey found
      refine ⟨e, member, ?_, inSession.trans (congrArg some (mine.mpr named)), sameEpc⟩
      rw [isFinalEvent, sameKey, key_of_framesToTechnicalReads converted read hr]
      exact isFinalKey_eventKey read.epc

/-- What one successful operation adds to the EPCs of a session. -/
theorem hasEvent_run {op : StoreOp} {now : Timestamp} {answer : op.Answer}
    (inv : FinalStore sha since db) (there : StillThere db session) (issued : op.Issued)
    (leaves : op.LeavesFinalKeys) (h : op.run sha now db = .ok (answer, db')) {epc : String} :
    HasEvent db' session epc ↔ HasEvent db session epc ∨
      epc ∈ (op.framesFor session.externalSessionKey).map epcOf := by
  have unchanged (mayAdd : ∀ key, op.scope.adds key → hasPrefix "final:" key = false) :
      HasEvent db' session epc ↔ HasEvent db session epc :=
    (StoreOp.run_invariant
      (I := fun now => FinalStore sha since now ∧
        (HasEvent now session epc ↔ HasEvent db session epc))
      (fun edit ⟨inv, same⟩ => ⟨inv.edit mayAdd edit, (edit.hasEvent mayAdd inv).trans same⟩)
      (fun _ _ ⟨inv, same⟩ => ⟨inv.opened, hasEvent_setQueueState.trans same⟩) issued h
      ⟨inv, Iff.rfl⟩).2
  cases op with
  | ingestFinalActiveTagFrames device sessionKey frames =>
      rw [hasEvent_ingested inv there h, StoreOp.framesFor]
      split <;> simp_all
  | getOrCreateEvent device read =>
      rw [unchanged fun key same => same ▸ (hasPrefix_keptText (by decide)).trans leaves]
      simp [StoreOp.framesFor]
  | _ =>
      rw [unchanged nofun]
      simp [StoreOp.framesFor]

theorem StillThere.run {op : StoreOp} {now : Timestamp} {answer : op.Answer}
    (there : StillThere db session) (issued : op.Issued)
    (h : op.run sha now db = .ok (answer, db')) : StillThere db' session :=
  StoreOp.run_invariant (I := fun now => StillThere now session)
    (fun edit there => there.of_stay edit.sessionsStay) (fun _ _ there => there) issued h there

/-- One event for each EPC, whatever the digests do. -/
theorem nodup_finalEventsIn (inv : FinalStore sha since db) (there : StillThere db session) :
    ((db.finalEventsIn session).map (·.epc)).Nodup := by
  obtain ⟨s, hs, id, -⟩ := there
  have recorded : ∀ e ∈ db.finalEventsIn session, Recorded db s e.epc e := by
    intro e he
    obtain ⟨member, isFinal, inSession, shown⟩ := mem_finalEventsIn.mp he
    exact ⟨member, isFinal, id.symm ▸ inSession, shown⟩
  refine List.Nodup.map_on ?_ (((List.Nodup.of_map _ db.events.distinct).filter _).filter _)
  intro e he e' he' same
  obtain ⟨device, key⟩ := key_of_recorded inv hs (recorded e he)
  obtain ⟨device', key'⟩ := key_of_recorded inv hs (recorded e' he')
  apply inv.keys.eventKeys e (recorded e he).1 e' (recorded e' he').1
  · rw [device, device']
  · rw [key, key', same]

/-- What an operation of the history keeps, the whole history keeps; the EPCs with an
event are those that the successful calls were shown. -/
theorem Observed.facts {key : String} {db₁ : Database} {frames : List RFIDFrame}
    (run : Observed sha key db₁ frames db) (named : key = session.externalSessionKey)
    (inv : FinalStore sha since db₁) (there : StillThere db₁ session)
    (none : ∀ epc, ¬ HasEvent db₁ session epc) :
    FinalStore sha since db ∧ StillThere db session ∧
      ∀ epc, HasEvent db session epc ↔ epc ∈ frames.map epcOf := by
  induction run with
  | start => exact ⟨inv, there, fun epc => by simp [none epc]⟩
  | succeeds op now answer _ issued leaves ran ih =>
      obtain ⟨invMid, thereMid, shown⟩ := ih
      refine ⟨invMid.run ⟨op, now, answer, issued, leaves, ran⟩, thereMid.run issued ran, ?_⟩
      intro epc
      rw [hasEvent_run invMid thereMid issued leaves ran, shown, ← named, List.map_append,
        List.mem_append]
  | creates _ created ih =>
      obtain ⟨invMid, thereMid, shown⟩ := ih
      refine ⟨invMid.edit (fun _ => False.elim) created.edit,
        thereMid.of_stay created.edit.sessionsStay, ?_⟩
      exact fun epc => (created.edit.hasEvent (fun _ => False.elim) invMid).trans (shown epc)
  | raises op now exc _ raising ih => exact ih

theorem finalStore_of_history {db₀ : Database} (init : NoFinalEvents db₀)
    (run : History sha db₀ db) : FinalStore sha db₀.sessions.nextKey db := by
  induction run with
  | refl => exact ⟨init.keys, fun e he isFinal => by simp [init.none e he] at isFinal⟩
  | tail _ step ih =>
      cases step with
      | inl operation => exact ih.run operation
      | inr created => exact ih.edit (fun _ => False.elim) created.edit

/-- Two EPCs of one batch share a key, or the key of one is taken on the reader by an event
of another EPC or another session. -/
def Collides (sha : Sha256) (db : Database) (device : ReaderDevice) (sessionKey : String)
    (frames : List RFIDFrame) : Prop :=
  ∃ frame ∈ frames,
    (∃ other ∈ frames, epcOf other ≠ epcOf frame ∧
      eventKey sha sessionKey (epcOf other) = eventKey sha sessionKey (epcOf frame)) ∨
    (∃ e ∈ db.events.rows, e.deviceId = device.id ∧
      e.readerEventKey = eventKey sha sessionKey (epcOf frame) ∧
      (e.epc ≠ epcOf frame ∨
        ∀ s ∈ db.sessions.rows, s.externalSessionKey = sessionKey → e.rfidSessionId ≠ some s.id))

theorem ingestFinal_error_of_collides {device : ReaderDevice} {sessionKey : String}
    {frames : List RFIDFrame} {now : Timestamp} (inv : StoreKeys since db)
    (collides : Collides sha db device (strip sessionKey) frames) :
    ∃ exc, ingestFinalActiveTagFrames sha device sessionKey frames now db = .error exc := by
  cases outcome : ingestFinalActiveTagFrames sha device sessionKey frames now db with
  | error exc => exact ⟨exc, rfl⟩
  | ok done =>
      obtain ⟨result, db'⟩ := done
      obtain ⟨called, active, key, reads, created, converted, ingested, checks⟩ :=
        ingestFinal_eq_ok inv outcome
      obtain ⟨row, -, -⟩ := mem_activeSessions.mp active
      have epcs := epcs_of_framesToTechnicalReads converted
      -- the event that the check found behind the key of a frame
      have checked : ∀ frame ∈ frames, ∃ e,
          db'.eventByKey device.id (eventKey sha (strip sessionKey) (epcOf frame)) = some e ∧
          e.epc = epcOf frame ∧ e.rfidSessionId = some called.id := by
        intro frame hf
        have shown : epcOf frame ∈ reads.map (·.epc) := epcs ▸ List.mem_map_of_mem hf
        obtain ⟨read, hr, same⟩ := List.mem_map.mp shown
        rw [← same, ← key, ← key_of_framesToTechnicalReads converted read hr]
        exact checkRecorded_eq_ok (checks read hr)
      exfalso
      obtain ⟨frame, hf, collision⟩ := collides
      obtain ⟨e, found, epc, inSession⟩ := checked frame hf
      cases collision with
      | inl twice =>
          obtain ⟨other, hother, different, sameKey⟩ := twice
          obtain ⟨e', found', epc', -⟩ := checked other hother
          rw [sameKey, found, Option.some.injEq] at found'
          exact different (epc'.symm.trans (found' ▸ epc))
      | inr taken =>
          obtain ⟨old, member, onReader, oldKey, different⟩ := taken
          obtain ⟨member', device', key'⟩ := mem_of_eventByKey found
          have same : e = old := (inv.ingested outcome).eventKeys e member' old
            (ingested.rows ▸ List.mem_append_left _ member) (device'.trans onReader.symm)
            (key'.trans oldKey.symm)
          subst same
          cases different with
          | inl otherEpc => exact otherEpc epc
          | inr otherSession => exact otherSession called row key inSession

/-- The loop creates at most one event for each read. -/
theorem length_ingestLoop {utf8 : Utf8} {device : ReaderDevice} {now : Timestamp}
    {reads : List TechnicalRFIDRead} {ids : List Nat}
    (h : ingestLoop utf8 device now reads db = .ok (ids, db')) : ids.length ≤ reads.length := by
  induction reads generalizing db db' ids with
  | nil =>
      cases h
      exact Nat.le_refl _
  | cons read reads ih =>
      simp only [ingestLoop, bind_eq_ok, Except.ok.injEq, Prod.mk.injEq] at h
      obtain ⟨⟨⟨event, created⟩, mid⟩, -, ⟨rest, last⟩, loop, rfl, -⟩ := h
      have shorter := ih loop
      cases created with
      | false => exact Nat.le_succ_of_le shorter
      | true => exact Nat.succ_le_succ shorter

theorem counts_of_ingestFinal {device : ReaderDevice} {sessionKey : String}
    {frames : List RFIDFrame} {now : Timestamp} {result : FinalTagIngestionResult}
    (h : ingestFinalActiveTagFrames sha device sessionKey frames now db = .ok (result, db')) :
    result.createdCount + result.duplicateCount = frames.length ∧
      result.createdCount = result.assignedCount := by
  simp only [ingestFinalActiveTagFrames, ingestTechnicalReads, bind_eq_ok, guard_eq_ok,
    Except.ok.injEq, Prod.mk.injEq] at h
  obtain ⟨key, -, -, called, -, reads, converted, ⟨ingestion, mid⟩,
    ⟨-, ⟨ids, last⟩, loop, rfl, rfl⟩, _, counts, _, -, rfl, -⟩ := h
  have lengths := congrArg List.length (epcs_of_framesToTechnicalReads converted)
  rw [List.length_map, List.length_map] at lengths
  have created := length_ingestLoop loop
  simp only [requireAllAssigned, guard_eq_ok, not_not] at counts
  constructor
  · simp only
    omega
  · exact counts.2.2.1.symm

end

/-- Over every history in which final ingestion alone writes final events, from the moment
a session has none: its final events are the distinct EPCs of the successful calls; a call
that meets a colliding key fails; and the counts of every successful call add up. -/
theorem finalEvents_of_observed {sha : Sha256} {db₀ db₁ db : Database}
    (init : NoFinalEvents db₀) (before : History sha db₀ db₁) {session : RFIDSession}
    (row : session ∈ db₁.sessions.rows)
    (none : ∀ e ∈ db₁.events.rows, isFinalEvent e = true → e.rfidSessionId ≠ some session.id)
    {frames : List RFIDFrame} (run : Observed sha session.externalSessionKey db₁ frames db) :
    ((db.finalEventsIn session).map (·.epc)).Perm (frames.map epcOf).dedup ∧
    (∀ device sessionKey batch now, Collides sha db device (strip sessionKey) batch →
      ∃ exc, ingestFinalActiveTagFrames sha device sessionKey batch now db = .error exc) ∧
    ∀ device sessionKey batch now result db',
      ingestFinalActiveTagFrames sha device sessionKey batch now db = .ok (result, db') →
      result.createdCount + result.duplicateCount = batch.length ∧
        result.createdCount = result.assignedCount := by
  obtain ⟨inv, there, shown⟩ := run.facts rfl (finalStore_of_history init before)
    ⟨session, row, rfl, rfl⟩ fun epc ⟨e, member, isFinal, inSession, _⟩ =>
      none e member isFinal inSession
  refine ⟨?_, fun device sessionKey batch now => ingestFinal_error_of_collides inv.keys,
    fun device sessionKey batch now result db' => counts_of_ingestFinal⟩
  refine (List.perm_ext_iff_of_nodup (nodup_finalEventsIn inv there) (List.nodup_dedup _)).mpr ?_
  intro epc
  rw [List.mem_dedup, ← shown epc, List.mem_map]
  constructor
  · rintro ⟨e, he, rfl⟩
    exact ⟨e, mem_finalEventsIn.mp he⟩
  · rintro ⟨e, recorded⟩
    have same := recorded.2.2.2
    exact ⟨e, mem_finalEventsIn.mpr (same.symm ▸ recorded), same⟩

theorem observed_of_runAll {sha : Sha256} {key : String} {db₀ db db' : Database}
    {frames : List RFIDFrame} {ops : List StoreOp}
    (allowed : ∀ op ∈ ops, op.Issued ∧ op.LeavesFinalKeys) (run : Observed sha key db₀ frames db)
    (h : runAll sha ops db = .ok db') :
    Observed sha key db₀ (frames ++ ops.flatMap (·.framesFor key)) db' := by
  induction ops generalizing db frames with
  | nil =>
      cases h
      simpa using run
  | cons op ops ih =>
      obtain ⟨⟨answer, mid⟩, ran, rest⟩ := bind_eq_ok.mp h
      obtain ⟨issued, leaves⟩ := allowed op (List.mem_cons_self ..)
      have next := ih (fun op hop => allowed op (List.mem_cons_of_mem _ hop))
        (run.succeeds op 0 answer issued leaves ran) rest
      rwa [List.append_assoc, ← List.flatMap_cons] at next

/-- Two batches that show one tag three times, with its delivery in between. -/
def shownThrice : List StoreOp :=
  [.ingestFinalActiveTagFrames receivingGate " S1 " [tagFrame, tagFrame],
   .startDeliveryAttempt 1 .queued 3,
   .completeDeliveryAttempt 1 1 .sent "" "" "" none none,
   .ingestFinalActiveTagFrames receivingGate "S1" [tagFrame]]

theorem finalEvents_of_observed_thrice : ∃ db₁ db,
    History zeroDigest oneReader db₁ ∧ startedSession ∈ db₁.sessions.rows ∧
    Observed zeroDigest "S1" db₁ [tagFrame, tagFrame, tagFrame] db ∧
    ((db.finalEventsIn startedSession).map (·.epc)).Perm
      (([tagFrame, tagFrame, tagFrame]).map epcOf).dedup := by
  have opened : (runAll zeroDigest [.synchronizeStartCommand startCommand] oneReader).map
      (fun db => (db.sessions.rows, db.events.rows)) = .ok ([startedSession], []) := by
    decide +kernel
  have both : ((runAll zeroDigest [.synchronizeStartCommand startCommand] oneReader).bind
      (runAll zeroDigest shownThrice)).map (fun _ => ()) = .ok () := by
    decide +kernel
  obtain ⟨db₁, ran, rows⟩ := map_eq_ok.mp opened
  obtain ⟨sessions, events⟩ := Prod.mk.inj rows
  rw [ran] at both
  obtain ⟨db, shown, -⟩ := map_eq_ok.mp both
  have before : History zeroDigest oneReader db₁ :=
    history_of_steps (storeSteps_of_runAll (by simp [StoreOp.Issued, StoreOp.LeavesFinalKeys]) ran)
  have member : startedSession ∈ db₁.sessions.rows := sessions ▸ List.mem_singleton_self _
  have allowed : ∀ op ∈ shownThrice, op.Issued ∧ op.LeavesFinalKeys := by
    simp [shownThrice, StoreOp.Issued, StoreOp.LeavesFinalKeys]
  have frames : ([] : List RFIDFrame) ++ shownThrice.flatMap (·.framesFor "S1") =
      [tagFrame, tagFrame, tagFrame] := by
    decide
  have run : Observed zeroDigest "S1" db₁
      ([] ++ shownThrice.flatMap (·.framesFor "S1")) db := observed_of_runAll allowed .start shown
  rw [frames] at run
  exact ⟨db₁, db, before, member, run, (finalEvents_of_observed noFinalEvents_oneReader before
    member (by simp [events]) run).1⟩

end RfidBridge
