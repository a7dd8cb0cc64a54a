import RfidBridge.Delivery.LedgerRefinement
import RfidBridge.Store.RepeatedReads

/-!
What the database keeps of a finished session. A session that is no longer active
gains no event, and an event that is SENT is not touched again; so the final events
of a finished session, once all of them are SENT, are there to stay.
-/

namespace RfidBridge
open Database

/-- One committed transaction of the bridge. -/
def Commits (sha : Sha256) (db db' : Database) : Prop :=
  ∃ (op : StoreOp) (now : Timestamp) (answer : op.Answer),
    op.Issued ∧ op.run sha now db = .ok (answer, db')

/-- Any number of transactions. -/
abbrev Evolves (sha : Sha256) : Database → Database → Prop :=
  Relation.ReflTransGen (Commits sha)

/-- The tables as the schema and the bridge's own transactions leave them; `since` is the
session sequence when the process started. -/
structure StoreSound (since : Nat) (db : Database) : Prop where
  keys : StoreKeys since db
  ledger : StoreLedger db
  references : ∀ e ∈ db.events.rows, ∀ id, e.rfidSessionId = some id → id < db.sessions.nextKey
  sequence : since ≤ db.sessions.nextKey

/-- A session of this process, by its key. -/
def Known (since : Nat) (key : String) (db : Database) : Prop :=
  ∃ s ∈ db.sessions.rows, s.externalSessionKey = key ∧ since ≤ s.id

/-- A session of this process that is no longer active. -/
def Finished (since : Nat) (key : String) (db : Database) : Prop :=
  ∃ s ∈ db.sessions.rows, s.externalSessionKey = key ∧ since ≤ s.id ∧ s.status ≠ .active

/-- The reader has no active session of an earlier process. -/
def NoneStale (since deviceId : Nat) (db : Database) : Prop :=
  ∀ s ∈ db.sessions.rows, s.deviceId = deviceId → s.status = .active → since ≤ s.id

/-- A finished session whose final events are all SENT. -/
structure Settled (since : Nat) (key readerCode : String) (db : Database) : Prop where
  finished : Finished since key db
  sent : ∀ e ∈ db.finalEvents key readerCode, e.queueState = .sent

namespace Database
variable {db : Database}

theorem mem_finalEvents {key readerCode : String} {e : RawRFIDEvent} :
    e ∈ db.finalEvents key readerCode ↔ e ∈ db.events.rows ∧ db.hasReader readerCode e = true ∧
      isFinalEvent e = true ∧ ∃ s, db.sessionOf e = some s ∧ s.externalSessionKey = key := by
  simp [finalEvents, Option.any_eq_true, and_assoc]

theorem sessionOf_eq_some {e : RawRFIDEvent} {s : RFIDSession} :
    db.sessionOf e = some s ↔ s ∈ db.sessions.rows ∧ e.rfidSessionId = some s.id := by
  simp only [sessionOf, Option.bind_eq_some_iff, Table.find?_eq_some, key_session]
  constructor
  · rintro ⟨id, assigned, member, rfl⟩
    exact ⟨member, assigned⟩
  · rintro ⟨member, assigned⟩
    exact ⟨s.id, assigned, member, rfl⟩

/-- The final events only change with the rows that the query reads. -/
theorem finalEvents_congr {db' : Database} {key readerCode : String}
    (events : db'.events = db.events) (devices : db'.devices = db.devices)
    (sessions : ∀ e ∈ db.events.rows, (∃ s, db'.sessionOf e = some s ∧ s.externalSessionKey = key) ↔
      ∃ s, db.sessionOf e = some s ∧ s.externalSessionKey = key) :
    db'.finalEvents key readerCode = db.finalEvents key readerCode := by
  unfold finalEvents
  rw [events]
  apply List.filter_congr
  intro e member
  have same : (db'.sessionOf e).any (fun s => s.externalSessionKey == key) =
      (db.sessionOf e).any fun s => s.externalSessionKey == key := by
    rw [Bool.eq_iff_iff]
    simpa [Option.any_eq_true] using sessions e member
  simp only [hasReader, deviceOf, devices, same]

/-- A change of one event that keeps it out of the session's final events. -/
theorem finalEvents_update {key readerCode : String} {k : Nat}
    (change : RawRFIDEvent → RawRFIDEvent) (keeps : ∀ e, Keyed.key (change e) = Keyed.key e)
    (before : ∀ e ∈ db.events.rows, e.id = k → e ∉ db.finalEvents key readerCode)
    (after : ∀ e ∈ db.events.rows, e.id = k → ∀ s, db.sessionOf (change e) = some s →
      s.externalSessionKey = key → isFinalEvent (change e) = true →
      db.hasReader readerCode (change e) = true → e ∈ db.finalEvents key readerCode) :
    { db with events := db.events.update k change keeps }.finalEvents key readerCode =
      db.finalEvents key readerCode := by
  refine Table.filter_update_of_ne db.events k change keeps _ ?_
  intro e member same
  have outside := before e member same
  constructor
  · rw [← Bool.not_eq_true]
    exact fun selected => outside (List.mem_filter.mpr ⟨member, selected⟩)
  · rw [← Bool.not_eq_true]
    intro selected
    simp only [Bool.and_eq_true, Option.any_eq_true, beq_iff_eq] at selected
    obtain ⟨⟨reader, final⟩, s, found, named⟩ := selected
    exact outside (after e member same s found named final reader)

end Database

/-- A finished session is not written again. -/
theorem Edit.finished_stay {scope : EditScope} {db db' : Database} (h : Edit scope db db')
    {s : RFIDSession} (member : s ∈ db.sessions.rows) (finished : s.status ≠ .active) :
    s ∈ db'.sessions.rows := by
  cases h with
  | openSession row keyed => exact (Table.mem_insert _ _ keyed _).mpr (.inl member)
  | finishSession session status now found active =>
      apply (Table.mem_update db.sessions session.id
        (fun s => { s with status, closedAt := some now }) (fun _ => rfl) s).mpr
      refine .inl ⟨member, fun same => finished ?_⟩
      rw [db.sessions.eq_of_key_eq member found same, active]
  | _ => exact member

/-- No edit opens a session with a key of the past. -/
theorem Edit.active_origin {scope : EditScope} {db db' : Database} (h : Edit scope db db')
    {s : RFIDSession} (member : s ∈ db'.sessions.rows) (active : s.status = .active) :
    s ∈ db.sessions.rows ∨ s.id = db.sessions.nextKey := by
  cases h with
  | openSession row keyed =>
      rcases (Table.mem_insert _ _ keyed _).mp member with old | rfl
      · exact .inl old
      · exact .inr (keyed _)
  | finishSession session status now _ _ ends =>
      rcases (Table.mem_update db.sessions session.id
        (fun s => { s with status, closedAt := some now }) (fun _ => rfl) s).mp member with
        ⟨old, -⟩ | ⟨_, -, -, rfl⟩
      · exact .inl old
      · exact absurd active ends
  | _ => exact .inl member

theorem Edit.sequence {scope : EditScope} {db db' : Database} (h : Edit scope db db') :
    db.sessions.nextKey ≤ db'.sessions.nextKey := by
  cases h with
  | openSession => exact Nat.le_succ _
  | _ => exact Nat.le_refl _

theorem Edit.devices {scope : EditScope} {db db' : Database} (h : Edit scope db db') :
    db'.devices = db.devices := by
  cases h <;> rfl

/-- The sessions of events exist. -/
theorem Edit.references {scope : EditScope} {db db' : Database} (h : Edit scope db db')
    (inv : ∀ e ∈ db.events.rows, ∀ id, e.rfidSessionId = some id → id < db.sessions.nextKey) :
    ∀ e ∈ db'.events.rows, ∀ id, e.rfidSessionId = some id → id < db'.sessions.nextKey := by
  have updated : ∀ {k : Nat} {target : QueueState}, ∀ e ∈ (db.setQueueState k target).events.rows,
      ∀ id, e.rfidSessionId = some id → id < db.sessions.nextKey := by
    intro k target e member id assigned
    rcases (mem_setQueueState db k target e).mp member with ⟨old, -⟩ | ⟨old, found, -, rfl⟩
    · exact inv e old id assigned
    · exact inv old found id assigned
  cases h with
  | openSession => exact fun e member id assigned => Nat.lt_succ_of_lt (inv e member id assigned)
  | finishSession => exact inv
  | addEvent row keyed deviceId readerEventKey fresh =>
      intro e member id assigned
      rcases (Table.mem_insert _ _ keyed _).mp member with old | rfl
      · exact inv e old id assigned
      · rw [(fresh _).2] at assigned
        cases assigned
  | assignEvent event session found unassigned free active =>
      intro e member id assigned
      rcases (Table.mem_update db.events event.id
        (fun e => { e with rfidSessionId := some session.id, queueState := .queued })
        (fun _ => rfl) e).mp member with ⟨old, -⟩ | ⟨old, -, -, rfl⟩
      · exact inv e old id assigned
      · cases assigned
        exact db.sessions.below session (mem_activeSessions.mp active).1
  | completeAttempt | deadLetter => exact updated

section
variable {since : Nat} {db db' : Database}

theorem StoreSound.edit {scope : EditScope} (h : Edit scope db db') (inv : StoreSound since db) :
    StoreSound since db' :=
  ⟨inv.keys.edit h, inv.ledger.edit h, h.references inv.references,
    inv.sequence.trans h.sequence⟩

theorem StoreSound.opened {event : RawRFIDEvent} {now : Timestamp}
    (member : event ∈ db.events.rows)
    (waiting : event.queueState = .queued ∨ event.queueState = .retry)
    (inv : StoreSound since db) : StoreSound since (db.openAttempt event.id now) := by
  refine ⟨inv.keys.opened, inv.ledger.opened member waiting, ?_, inv.sequence⟩
  intro e found id assigned
  rcases (mem_setQueueState db event.id .inflight e).mp found with ⟨old, -⟩ | ⟨old, row, -, rfl⟩
  · exact inv.references e old id assigned
  · exact inv.references old row id assigned

/-- What every transaction keeps, every history keeps. -/
theorem Evolves.keeps {I : Database → Prop} {sha : Sha256} (h : Evolves sha db db')
    (edit : ∀ {scope db db'}, Edit scope db db' → I db → I db')
    (opened : ∀ {db : Database} {event now}, event ∈ db.events.rows →
      event.queueState = .queued ∨ event.queueState = .retry → I db →
      I (db.openAttempt event.id now)) (inv : I db) : I db' := by
  induction h with
  | refl => exact inv
  | tail _ commit ih =>
      obtain ⟨op, now, answer, issued, ran⟩ := commit
      exact StoreOp.run_invariant edit opened issued ran ih

theorem StoreSound.evolves {sha : Sha256} (h : Evolves sha db db') (inv : StoreSound since db) :
    StoreSound since db' :=
  h.keeps StoreSound.edit StoreSound.opened inv

theorem devices_evolve {sha : Sha256} (h : Evolves sha db db') : db'.devices = db.devices :=
  h.keeps (I := fun now => now.devices = db.devices) (fun edit same => edit.devices.trans same)
    (fun _ _ same => same) rfl

theorem Known.evolves {sha : Sha256} {key : String} (h : Evolves sha db db')
    (known : Known since key db) : Known since key db' := by
  apply h.keeps _ (fun _ _ known => known) known
  intro scope db db' edit known
  obtain ⟨s, hs, named, later⟩ := known
  obtain ⟨s', hs', id, -, key⟩ := edit.sessionsStay s hs
  exact ⟨s', hs', key.trans named, id.symm ▸ later⟩

theorem Finished.evolves {sha : Sha256} {key : String} (h : Evolves sha db db')
    (finished : Finished since key db) : Finished since key db' := by
  apply h.keeps _ (fun _ _ finished => finished) finished
  intro scope db db' edit finished
  obtain ⟨s, hs, named, later, ended⟩ := finished
  exact ⟨s, edit.finished_stay hs ended, named, later, ended⟩

theorem NoneStale.evolves {sha : Sha256} {deviceId : Nat} (h : Evolves sha db db')
    (sound : StoreSound since db) (none : NoneStale since deviceId db) :
    NoneStale since deviceId db' := by
  have both := h.keeps (I := fun db => since ≤ db.sessions.nextKey ∧ NoneStale since deviceId db)
    ?_ (fun _ _ inv => inv) ⟨sound.sequence, none⟩
  · exact both.2
  · rintro scope db db' edit ⟨sequence, none⟩
    refine ⟨sequence.trans edit.sequence, ?_⟩
    intro s hs device active
    cases edit.active_origin hs active with
    | inl old => exact none s old device active
    | inr new => exact new ▸ sequence

/-- A change of the queue state alone, of an event that is not SENT. -/
theorem Settled.moved {event : RawRFIDEvent} {target : QueueState} {key readerCode : String}
    (settled : Settled since key readerCode db) (member : event ∈ db.events.rows)
    (unsent : event.queueState ≠ .sent) :
    (db.setQueueState event.id target).finalEvents key readerCode =
      db.finalEvents key readerCode := by
  apply Database.finalEvents_update (fun e => { e with queueState := target }) fun _ => rfl
  · intro e he same final
    rw [db.events.eq_of_key_eq he member same] at final
    exact unsent (settled.sent event final)
  · intro e he same s assigned named final reader
    exact Database.mem_finalEvents.mpr ⟨he, reader, final, s, assigned, named⟩

theorem unsent_of_waiting {event : RawRFIDEvent}
    (waiting : event.queueState = .queued ∨ event.queueState = .retry) :
    event.queueState ≠ .sent := by
  cases waiting with
  | inl queued => simp [queued]
  | inr retry => simp [retry]

/-- The final events of a settled session stay the same under one edit. -/
theorem Settled.edit {scope : EditScope} {key readerCode : String} (h : Edit scope db db')
    (keys : StoreKeys since db) (settled : Settled since key readerCode db) :
    db'.finalEvents key readerCode = db.finalEvents key readerCode := by
  obtain ⟨row, member, named, later, ended⟩ := settled.finished
  cases h with
  | openSession fresh keyed reader operation active same clean short device found compatible
      unused =>
      apply Database.finalEvents_congr
      · rfl
      · rfl
      intro e he
      have unnamed : (fresh db.sessions.nextKey).externalSessionKey ≠ key := by
        rw [same, ← named]
        exact fun clash => sessionByKey_eq_none.mp unused row member clash.symm
      simp only [Database.sessionOf_eq_some]
      constructor
      · rintro ⟨s, ⟨hs, assigned⟩, mine⟩
        rcases (Table.mem_insert _ _ keyed _).mp hs with old | rfl
        · exact ⟨s, ⟨old, assigned⟩, mine⟩
        · exact absurd mine unnamed
      · rintro ⟨s, ⟨hs, assigned⟩, mine⟩
        exact ⟨s, ⟨(Table.mem_insert _ _ keyed _).mpr (.inl hs), assigned⟩, mine⟩
  | finishSession session status now found active =>
      apply Database.finalEvents_congr
      · rfl
      · rfl
      intro e he
      have rows := Table.mem_update db.sessions session.id
        (fun s => { s with status, closedAt := some now }) fun _ => rfl
      simp only [Database.sessionOf_eq_some]
      constructor
      · rintro ⟨s, ⟨hs, assigned⟩, mine⟩
        rcases (rows s).mp hs with ⟨old, -⟩ | ⟨old, was, -, rfl⟩
        · exact ⟨s, ⟨old, assigned⟩, mine⟩
        · exact ⟨old, ⟨was, assigned⟩, mine⟩
      · rintro ⟨s, ⟨hs, assigned⟩, mine⟩
        by_cases same : s.id = session.id
        · exact ⟨_, ⟨(rows _).mpr (.inr ⟨s, hs, same, rfl⟩), assigned⟩, mine⟩
        · exact ⟨s, ⟨(rows _).mpr (.inl ⟨hs, same⟩), assigned⟩, mine⟩
  | addEvent event keyed deviceId readerEventKey fresh =>
      refine Table.filter_insert_of_not db.events event keyed _ ?_
      have free := (fresh db.events.nextKey).2
      simp [Database.sessionOf, free]
  | assignEvent event session found unassigned free active =>
      have outside : ∀ e ∈ db.events.rows, e.id = event.id → e ∉ db.finalEvents key readerCode := by
        intro e he same final
        rw [db.events.eq_of_key_eq he found same] at final
        rw [settled.sent event final] at unassigned
        cases unassigned
      apply Database.finalEvents_update _ _ outside
      intro e he same s assigned mine
      obtain ⟨hs, id⟩ := Database.sessionOf_eq_some.mp assigned
      obtain ⟨hsession, -, open_⟩ := mem_activeSessions.mp active
      have : s = session := db.sessions.eq_of_key_eq hs hsession (Option.some.inj id).symm
      subst this
      rw [keys.sessionKeys s hs row member (mine.trans named.symm)] at open_
      exact absurd open_ ended
  | completeAttempt event attempt outcome target responseCode errorKind detail now next found
      inflight => exact settled.moved found (by simp [inflight])
  | deadLetter event found waiting => exact settled.moved found (unsent_of_waiting waiting)

theorem Settled.opened {event : RawRFIDEvent} {now : Timestamp} {key readerCode : String}
    (member : event ∈ db.events.rows)
    (waiting : event.queueState = .queued ∨ event.queueState = .retry)
    (settled : Settled since key readerCode db) :
    (db.openAttempt event.id now).finalEvents key readerCode = db.finalEvents key readerCode := by
  exact @Settled.moved since db event .inflight key readerCode settled member
    (unsent_of_waiting waiting)

/-- What a settled session has delivered is there to stay. -/
theorem Settled.evolves {sha : Sha256} {key readerCode : String} (h : Evolves sha db db')
    (sound : StoreSound since db) (settled : Settled since key readerCode db) :
    Settled since key readerCode db' ∧
      db'.finalEvents key readerCode = db.finalEvents key readerCode := by
  have all := h.keeps
    (I := fun now => StoreSound since now ∧ Finished since key now ∧
      now.finalEvents key readerCode = db.finalEvents key readerCode)
    ?_ ?_ ⟨sound, settled.finished, rfl⟩
  · obtain ⟨-, finished, same⟩ := all
    exact ⟨⟨finished, same ▸ settled.sent⟩, same⟩
  · rintro scope mid next edit ⟨sound, finished, same⟩
    have settledMid : Settled since key readerCode mid := ⟨finished, same ▸ settled.sent⟩
    obtain ⟨s, hs, named, later, ended⟩ := finished
    exact ⟨sound.edit edit, ⟨s, edit.finished_stay hs ended, named, later, ended⟩,
      (settledMid.edit edit sound.keys).trans same⟩
  · rintro mid event now member waiting ⟨sound, finished, same⟩
    have settledMid : Settled since key readerCode mid := ⟨finished, same ▸ settled.sent⟩
    exact ⟨sound.opened member waiting, finished, (settledMid.opened member waiting).trans same⟩

/-- START leaves an active session of its reader under its key. -/
theorem active_of_synchronize {utf8 : Utf8} {command : OdooRFIDCommand} {result : SessionSyncResult}
    (h : synchronizeStartCommand utf8 command db = .ok (result, db')) :
    ∃ reader, db.enabledReader command.readerCode = some reader ∧
      ∃ s ∈ db'.sessions.rows, s.externalSessionKey = command.sessionKey ∧
        s.deviceId = reader.id ∧ s.status = .active := by
  obtain ⟨reader, operation, found, -, ⟨existing, located, mine, active, rfl⟩ |
    ⟨-, -, -, rfl⟩⟩ := synchronizeStartCommand_eq_ok h
  · exact ⟨reader, found, existing, List.mem_of_find?_eq_some located,
      by simpa using List.find?_some located, mine, active⟩
  · exact ⟨reader, found, _, (Table.mem_insert _ _ (fun _ => rfl) _).mpr (.inr rfl), rfl, rfl, rfl⟩

/-- STOP leaves the session closed. -/
theorem closed_of_closeLocalSession {utf8 : Utf8} {sessionKey readerCode : String} {now : Timestamp}
    {session : RFIDSession}
    (h : closeLocalSession utf8 sessionKey readerCode now db = .ok (session, db')) :
    ∃ s ∈ db'.sessions.rows, s.externalSessionKey = strip sessionKey ∧ s.status = .closed := by
  simp only [closeLocalSession, guard_eq_ok] at h
  obtain ⟨-, found, matched, -, done⟩ := finishLocalSession_eq_ok h.2
  have member := List.mem_of_find?_eq_some matched
  have named : found.externalSessionKey = strip sessionKey := by
    simpa using List.find?_some matched
  obtain ⟨closed, -, rfl⟩ | ⟨-, -, rfl⟩ := done
  · exact ⟨found, member, named, closed⟩
  · exact ⟨{ found with status := .closed, closedAt := some now },
      (mem_setStatus ..).mpr (.inr ⟨found, member, rfl, rfl⟩), named, rfl⟩

/-- A closed session that this process knows is a finished one of its own. -/
theorem Known.finished {key : String} (known : Known since key db) (keys : StoreKeys since db)
    {s : RFIDSession} (hs : s ∈ db.sessions.rows) (named : s.externalSessionKey = key)
    (ended : s.status ≠ .active) : Finished since key db := by
  obtain ⟨row, member, same, later⟩ := known
  have : row = s := keys.sessionKeys row member s hs (same.trans named.symm)
  exact ⟨s, hs, named, this ▸ later, ended⟩

/-- What one process leaves, the next one can start from. -/
theorem StoreSound.restart (sound : StoreSound since db) :
    StoreSound db.sessions.nextKey db := by
  refine ⟨⟨sound.keys.devices, sound.keys.eventKeys, sound.keys.sessionKeys,
    sound.keys.oneActive, ?_⟩, sound.ledger, sound.references, Nat.le_refl _⟩
  intro s hs later
  exact absurd (db.sessions.below s hs) (Nat.not_lt.mpr later)

/-- A database of readers alone. -/
theorem storeSound_empty {devices : List ReaderDevice} (ids : (devices.map (·.id)).Nodup) :
    StoreSound 1 { devices } := by
  refine ⟨⟨ids, ?_, ?_, ?_, ?_⟩, ⟨?_, ?_⟩, ?_, Nat.le_refl _⟩
  all_goals
    intro row member
    exact absurd member ((Table.mem_rows_empty _).mp)

end
end RfidBridge
