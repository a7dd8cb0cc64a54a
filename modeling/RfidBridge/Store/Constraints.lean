import RfidBridge.Store.Edits

/-!
The constraints of the database schema and of the session service as invariants
of every run: external session keys and event keys are unique, a reader has at
most one active session, and a session that a START created fits its reader.
-/

namespace RfidBridge
open Database

/-- A session as synchronize_start_command creates it on an enabled reader. -/
structure CreatedSession (devices : List ReaderDevice) (s : RFIDSession) : Prop where
  clean : Clean s.externalSessionKey
  short : s.externalSessionKey.toList.length ≤ 128
  reader : ∃ reader, (devices.find? fun device => device.id == s.deviceId) = some reader ∧
    reader.enabled ∧ requireCompatibleOperation (some reader) s = .ok ()

/-- `since` is the session sequence at the start of the run: later keys are sessions
that the run created. -/
structure StoreKeys (since : Nat) (db : Database) : Prop where
  devices : (db.devices.map (·.id)).Nodup
  eventKeys : ∀ e ∈ db.events.rows, ∀ e' ∈ db.events.rows,
    e.deviceId = e'.deviceId → e.readerEventKey = e'.readerEventKey → e = e'
  sessionKeys : ∀ s ∈ db.sessions.rows, ∀ s' ∈ db.sessions.rows,
    s.externalSessionKey = s'.externalSessionKey → s = s'
  oneActive : ∀ s ∈ db.sessions.rows, ∀ s' ∈ db.sessions.rows,
    s.status = .active → s'.status = .active → s.deviceId = s'.deviceId → s = s'
  created : ∀ s ∈ db.sessions.rows, since ≤ s.id → CreatedSession db.devices s

namespace Database
variable {db : Database}

theorem mem_activeSessions {deviceId : Nat} {s : RFIDSession} :
    s ∈ db.activeSessions deviceId ↔
      s ∈ db.sessions.rows ∧ s.deviceId = deviceId ∧ s.status = .active := by
  simp [activeSessions]

theorem sessionByKey_eq_none {key : String} :
    db.sessionByKey key = none ↔ ∀ s ∈ db.sessions.rows, s.externalSessionKey ≠ key := by
  simp [sessionByKey]

theorem eventByKey_eq_none {deviceId : Nat} {key : String} :
    db.eventByKey deviceId key = none ↔
      ∀ e ∈ db.events.rows, e.deviceId = deviceId → e.readerEventKey ≠ key := by
  simp [eventByKey]

theorem mem_of_eventByKey {deviceId : Nat} {key : String} {e : RawRFIDEvent}
    (h : db.eventByKey deviceId key = some e) :
    e ∈ db.events.rows ∧ e.deviceId = deviceId ∧ e.readerEventKey = key := by
  have found := List.find?_some h
  simp only [Bool.and_eq_true, beq_iff_eq] at found
  exact ⟨List.mem_of_find?_eq_some h, found⟩

theorem deviceOf_of_enabledReader {code : String} {reader : ReaderDevice}
    (ids : (db.devices.map (·.id)).Nodup) (h : db.enabledReader code = some reader) :
    db.deviceOf reader.id = some reader ∧ reader.enabled = true ∧ reader.code = code := by
  have found := List.find?_some h
  simp only [Bool.and_eq_true, beq_iff_eq] at found
  refine ⟨?_, found.2, found.1⟩
  have member := List.mem_of_find?_eq_some h
  cases located : db.deviceOf reader.id with
  | none =>
      have absent := List.find?_eq_none.mp located reader member
      simp at absent
  | some other =>
      have same : other.id = reader.id := by simpa using List.find?_some located
      rw [List.inj_on_of_nodup_map ids (List.mem_of_find?_eq_some located) member same]

end Database

/-- The role of a reader allows the operation it was given. -/
theorem requireCompatibleOperation_of_operation {reader : ReaderDevice}
    {requested : Option OperationType} {s : RFIDSession}
    (h : operationForReader reader requested = .ok s.operationType) :
    requireCompatibleOperation (some reader) s = .ok () := by
  simp only [operationForReader] at h
  simp only [requireCompatibleOperation, Option.bind_some]
  cases role : operationByRole reader.role with
  | none => simp [role] at h
  | some operation =>
      simp only [role, Option.map_some] at h ⊢
      cases requested with
      | none =>
          cases h
          simp_all
      | some requested =>
          simp only at h
          split at h
          · simp_all
          · simp only [guard_eq_ok, Except.ok.injEq] at h
            simp_all

namespace StoreKeys
variable {since : Nat} {db : Database}

/-- The constraints only look at the columns that no event update touches. -/
theorem of_events_update (inv : StoreKeys since db) {k : Nat}
    (change : RawRFIDEvent → RawRFIDEvent) (keeps : ∀ e, Keyed.key (change e) = Keyed.key e)
    (same : ∀ e, (change e).deviceId = e.deviceId ∧
      (change e).readerEventKey = e.readerEventKey) :
    StoreKeys since { db with events := db.events.update k change keeps } := by
  refine ⟨inv.devices, ?_, inv.sessionKeys, inv.oneActive, inv.created⟩
  have origin : ∀ e ∈ (db.events.update k change keeps).rows, ∃ old ∈ db.events.rows,
      old.id = e.id ∧ old.deviceId = e.deviceId ∧ old.readerEventKey = e.readerEventKey := by
    intro e he
    rcases (Table.mem_update _ _ _ keeps _).mp he with ⟨old, _⟩ | ⟨old, hold, _, rfl⟩
    · exact ⟨e, old, rfl, rfl, rfl⟩
    · exact ⟨old, hold, (keeps old).symm, (same old).1.symm, (same old).2.symm⟩
  intro e he e' he' device key
  obtain ⟨old, hold, id, dev, k₁⟩ := origin e he
  obtain ⟨old', hold', id', dev', k₂⟩ := origin e' he'
  have equal := inv.eventKeys old hold old' hold' (by rw [dev, dev', device]) (by rw [k₁, k₂, key])
  apply Table.eq_of_key_eq _ he he'
  show e.id = e'.id
  rw [← id, ← id', equal]

theorem edit {scope : EditScope} {db' : Database} (h : Edit scope db db')
    (inv : StoreKeys since db) : StoreKeys since db' := by
  cases h with
  | openSession row keyed reader operation active key clean short device found compatible fresh
      free =>
      have others : ∀ s ∈ db.sessions.rows,
          s.externalSessionKey ≠ (row db.sessions.nextKey).externalSessionKey := by
        intro s hs
        rw [key]
        exact sessionByKey_eq_none.mp fresh s hs
      have noneActive : ∀ s ∈ db.sessions.rows, s.status = .active →
          s.deviceId ≠ (row db.sessions.nextKey).deviceId := by
        intro s hs isActive same
        have := mem_activeSessions.mpr ⟨hs, same.trans (device _), isActive⟩
        rw [free] at this
        cases this
      refine ⟨inv.devices, inv.eventKeys, ?_, ?_, ?_⟩
      · intro s hs s' hs' same
        rcases (Table.mem_insert _ _ keyed _).mp hs with old | rfl <;>
          rcases (Table.mem_insert _ _ keyed _).mp hs' with old' | rfl
        · exact inv.sessionKeys s old s' old' same
        · exact absurd same (others s old)
        · exact absurd same.symm (others s' old')
        · rfl
      · intro s hs s' hs' a a' same
        rcases (Table.mem_insert _ _ keyed _).mp hs with old | rfl <;>
          rcases (Table.mem_insert _ _ keyed _).mp hs' with old' | rfl
        · exact inv.oneActive s old s' old' a a' same
        · exact absurd same (noneActive s old a)
        · exact absurd same.symm (noneActive s' old' a')
        · rfl
      · intro s hs later
        rcases (Table.mem_insert _ _ keyed _).mp hs with old | rfl
        · exact inv.created s old later
        · obtain ⟨code, found⟩ := found
          obtain ⟨located, enabled, -⟩ := deviceOf_of_enabledReader inv.devices found
          refine ⟨key _ ▸ clean, key _ ▸ short, reader, ?_, enabled, ?_⟩
          · exact (device db.sessions.nextKey).symm ▸ located
          · exact requireCompatibleOperation_of_operation (compatible _)
  | finishSession session status now member active closes =>
      have origin : ∀ s ∈ (db.setStatus session.id status now).sessions.rows,
          (s ∈ db.sessions.rows ∧ s.id ≠ session.id) ∨
          s = { session with status, closedAt := some now } := by
        intro s hs
        rcases (Table.mem_update db.sessions session.id (fun s =>
          { s with status, closedAt := some now }) (fun _ => rfl) s).mp hs with
          old | ⟨old, hold, same, rfl⟩
        · exact .inl old
        · rw [db.sessions.eq_of_key_eq hold member same]
          exact .inr rfl
      have clash : ∀ s ∈ db.sessions.rows, s.id ≠ session.id →
          s.externalSessionKey ≠ session.externalSessionKey :=
        fun s hs other same => other (congrArg _ (inv.sessionKeys s hs session member same))
      refine ⟨inv.devices, inv.eventKeys, ?_, ?_, ?_⟩
      · intro s hs s' hs' same
        rcases origin s hs with ⟨old, other⟩ | rfl <;>
          rcases origin s' hs' with ⟨old', other'⟩ | rfl
        · exact inv.sessionKeys s old s' old' same
        · exact absurd same (clash s old other)
        · exact absurd same.symm (clash s' old' other')
        · rfl
      · intro s hs s' hs' a a' same
        rcases origin s hs with ⟨old, _⟩ | rfl
        · rcases origin s' hs' with ⟨old', _⟩ | rfl
          · exact inv.oneActive s old s' old' a a' same
          · exact absurd a' closes
        · exact absurd a closes
      · intro s hs later
        rcases origin s hs with ⟨old, _⟩ | rfl
        · exact inv.created s old later
        · obtain ⟨clean, short, reader⟩ := inv.created session member later
          exact ⟨clean, short, reader⟩
  | addEvent row keyed deviceId readerEventKey fresh identity absent may =>
      refine ⟨inv.devices, ?_, inv.sessionKeys, inv.oneActive, inv.created⟩
      have others := eventByKey_eq_none.mp absent
      intro e he e' he' device key
      rcases (Table.mem_insert _ _ keyed _).mp he with old | rfl <;>
        rcases (Table.mem_insert _ _ keyed _).mp he' with old' | rfl
      · exact inv.eventKeys e old e' old' device key
      · exact absurd (key.trans (identity _).2) (others e old (device.trans (identity _).1))
      · exact absurd (key.symm.trans (identity _).2)
          (others e' old' (device.symm.trans (identity _).1))
      · rfl
  | assignEvent event session =>
      exact inv.of_events_update _ _ fun _ => ⟨rfl, rfl⟩
  | completeAttempt event attempt outcome target =>
      have moved := inv.of_events_update (k := event.id)
        (fun e => { e with queueState := target }) (fun _ => rfl) fun _ => ⟨rfl, rfl⟩
      exact ⟨moved.devices, moved.eventKeys, moved.sessionKeys, moved.oneActive, moved.created⟩
  | deadLetter event =>
      exact inv.of_events_update (fun e => { e with queueState := .dead }) _ fun _ => ⟨rfl, rfl⟩

theorem opened {event : RawRFIDEvent} {now : Timestamp} (inv : StoreKeys since db) :
    StoreKeys since (db.openAttempt event.id now) := by
  have moved := inv.of_events_update (k := event.id)
    (fun e => { e with queueState := .inflight }) (fun _ => rfl) fun _ => ⟨rfl, rfl⟩
  exact ⟨moved.devices, moved.eventKeys, moved.sessionKeys, moved.oneActive, moved.created⟩

theorem edits {scope : EditScope} {db' : Database} (h : Edits scope db db')
    (inv : StoreKeys since db) : StoreKeys since db' := by
  induction h with
  | refl => exact inv
  | tail _ step ih => exact edit step ih

/-- Every operation of the bridge keeps the constraints. -/
theorem run {sha : Sha256} {now : Timestamp} {db' : Database} {op : StoreOp} {answer : op.Answer}
    (issued : op.Issued) (h : op.run sha now db = .ok (answer, db')) (inv : StoreKeys since db) :
    StoreKeys since db' :=
  StoreOp.run_invariant edit (fun _ _ inv => inv.opened) issued h inv

theorem ingested {sha : Sha256} {device : ReaderDevice} {sessionKey : String}
    {frames : List RFIDFrame} {now : Timestamp} {db' : Database}
    {result : FinalTagIngestionResult}
    (h : ingestFinalActiveTagFrames sha device sessionKey frames now db = .ok (result, db'))
    (inv : StoreKeys since db) : StoreKeys since db' :=
  @run since db sha now db' (.ingestFinalActiveTagFrames device sessionKey frames) result trivial
    h inv

/-- The active session of a reader, as `get(device, status=ACTIVE)` finds it. -/
theorem activeSessions_eq (inv : StoreKeys since db) {s : RFIDSession} (hs : s ∈ db.sessions.rows)
    (active : s.status = .active) : db.activeSessions s.deviceId = [s] := by
  have member : s ∈ db.activeSessions s.deviceId := mem_activeSessions.mpr ⟨hs, rfl, active⟩
  have all : ∀ s' ∈ db.activeSessions s.deviceId, s' = s := by
    intro s' hs'
    obtain ⟨row, device, active'⟩ := mem_activeSessions.mp hs'
    exact inv.oneActive s' row s hs active' active device
  have nodup : (db.activeSessions s.deviceId).Nodup :=
    (List.Nodup.of_map _ db.sessions.distinct).filter _
  exact List.perm_singleton.mp ((List.perm_ext_iff_of_nodup nodup (List.nodup_singleton s)).mpr
    fun s' => ⟨fun h => List.mem_singleton.mpr (all s' h),
      fun h => List.mem_singleton.mp h ▸ member⟩)

end StoreKeys
end RfidBridge
