import RfidBridge.Store.Edits

/-!
How events come to be DEAD. A dead-letter transition and a completion with that outcome make
an event DEAD, and no other transaction does.
-/

namespace RfidBridge
open Database

/-- Nobody has become DEAD. -/
def NoDeaths (db db' : Database) : Prop :=
  ∀ e ∈ db'.events.rows, e.queueState = .dead →
    ∃ e₀ ∈ db.events.rows, e₀.id = e.id ∧ e₀.queueState = .dead

namespace NoDeaths
variable {db db' db'' : Database} {sha : Sha256} {utf8 : Utf8} {now : Timestamp}

theorem of_same (same : db'.events = db.events) : NoDeaths db db' :=
  fun e member dead => ⟨e, same ▸ member, rfl, dead⟩

theorem trans (first : NoDeaths db db') (second : NoDeaths db' db'') : NoDeaths db db'' := by
  intro e member dead
  obtain ⟨e', member', same, dead'⟩ := second e member dead
  obtain ⟨e₀, member₀, same₀, dead₀⟩ := first e' member' dead'
  exact ⟨e₀, member₀, same₀.trans same, dead₀⟩

theorem of_update {k : Nat} (change : RawRFIDEvent → RawRFIDEvent)
    (keeps : ∀ e, Keyed.key (change e) = Keyed.key e) (alive : ∀ e, (change e).queueState ≠ .dead)
    (events : db'.events = db.events.update k change keeps) : NoDeaths db db' := by
  intro e member dead
  rw [events] at member
  rcases (Table.mem_update db.events k change keeps e).mp member with ⟨old, -⟩ | ⟨e₀, -, -, rfl⟩
  · exact ⟨e, old, rfl, dead⟩
  · exact absurd dead (alive e₀)

theorem of_synchronizeStartCommand {command : OdooRFIDCommand} {result : SessionSyncResult}
    (h : synchronizeStartCommand utf8 command db = .ok (result, db')) : NoDeaths db db' := by
  obtain ⟨reader, operation, -, -, ⟨_, -, -, -, rfl⟩ | ⟨-, -, -, rfl⟩⟩ :=
    synchronizeStartCommand_eq_ok h
  · exact of_same rfl
  · exact of_same rfl

theorem of_finishLocalSession {target : SessionStatus} {verb sessionKey readerCode : String}
    {result : RFIDSession}
    (h : finishLocalSession utf8 target verb sessionKey readerCode now db = .ok (result, db')) :
    NoDeaths db db' := by
  obtain ⟨-, found, -, -, ⟨-, -, rfl⟩ | ⟨-, -, rfl⟩⟩ := finishLocalSession_eq_ok h
  · exact of_same rfl
  · exact of_same rfl

theorem of_getOrCreateEvent {device : ReaderDevice} {read : TechnicalRFIDRead}
    {event : RawRFIDEvent} {created : Bool}
    (h : getOrCreateEvent utf8 device read now db = .ok ((event, created), db')) :
    NoDeaths db db' := by
  obtain ⟨-, -, rfl⟩ | ⟨-, -, -, -, -, rfl⟩ := getOrCreateEvent_eq_ok h
  · exact of_same rfl
  · intro e member dead
    rcases (Table.mem_insert _ _ (fun _ => rfl) e).mp member with old | rfl
    · exact ⟨e, old, rfl, dead⟩
    · cases dead

theorem of_ingestLoop {device : ReaderDevice} {reads : List TechnicalRFIDRead} {ids : List Nat}
    (h : ingestLoop utf8 device now reads db = .ok (ids, db')) : NoDeaths db db' := by
  induction reads generalizing db ids with
  | nil =>
      cases h
      exact of_same rfl
  | cons read reads ih =>
      simp only [ingestLoop, bind_eq_ok, Except.ok.injEq, Prod.mk.injEq] at h
      obtain ⟨⟨⟨event, created⟩, mid⟩, first, ⟨rest, last⟩, loop, -, rfl⟩ := h
      exact (of_getOrCreateEvent first).trans (ih loop)

theorem of_assignEvent {eventId : Nat} (h : assignEventToActiveSession eventId db = .ok db') :
    NoDeaths db db' := by
  simp only [assignEventToActiveSession, bind_eq_ok, guard_eq_ok, Except.ok.injEq] at h
  obtain ⟨event, -, -, -, session, -, _, -, _, -, rfl⟩ := h
  exact of_update (fun e => { e with rfidSessionId := some session.id, queueState := .queued })
    (fun _ => rfl) (fun _ => by simp) rfl

theorem of_assignmentCycle (eventIds : List Nat) (db : Database) :
    NoDeaths db (runActiveSessionAssignmentCycle eventIds db).2 := by
  induction eventIds generalizing db with
  | nil => exact of_same rfl
  | cons eventId eventIds ih =>
      simp only [runActiveSessionAssignmentCycle]
      split
      · rename_i mid assigned
        exact (of_assignEvent assigned).trans (ih mid)
      · exact ih db
      · exact ih db

theorem of_ingestFinal {device : ReaderDevice} {sessionKey : String} {frames : List RFIDFrame}
    {result : FinalTagIngestionResult}
    (h : ingestFinalActiveTagFrames sha device sessionKey frames now db = .ok (result, db')) :
    NoDeaths db db' := by
  simp only [ingestFinalActiveTagFrames, ingestTechnicalReads, bind_eq_ok, guard_eq_ok,
    Except.ok.injEq, Prod.mk.injEq] at h
  obtain ⟨key, _, _, session, _, reads, _, ⟨ingestion, mid⟩, ⟨_, ⟨ids, last⟩, loop, rfl, rfl⟩,
    _, _, _, _, -, rfl⟩ := h
  exact (of_ingestLoop loop).trans (of_assignmentCycle ids last)

theorem of_run {op : StoreOp} {answer : op.Answer}
    (transitions : ∀ eventId expected target,
      op ≠ .transitionEventQueueState eventId expected target)
    (completes : ∀ eventId attemptId outcome responseCode errorKind detail initial maximum,
      op = .completeDeliveryAttempt eventId attemptId outcome responseCode errorKind detail initial
        maximum → outcome ≠ .dead)
    (ran : op.run sha now db = .ok (answer, db')) : NoDeaths db db' := by
  cases op with
  | synchronizeStartCommand _ => exact of_synchronizeStartCommand ran
  | closeLocalSession _ _ =>
      simp only [StoreOp.run, RfidBridge.closeLocalSession, guard_eq_ok] at ran
      exact of_finishLocalSession ran.2
  | cancelLocalSession _ _ => exact of_finishLocalSession ran
  | ingestFinalActiveTagFrames _ _ _ => exact of_ingestFinal ran
  | getOrCreateEvent _ _ => exact of_getOrCreateEvent ran
  | assignEventToActiveSession eventId =>
      simp only [StoreOp.run] at ran
      cases assigned : RfidBridge.assignEventToActiveSession eventId db with
      | error _ => simp [assigned, Except.map] at ran
      | ok mid =>
          simp only [assigned, Except.map, Except.ok.injEq, Prod.mk.injEq] at ran
          exact ran.2 ▸ of_assignEvent assigned
  | startDeliveryAttempt eventId _ _ =>
      obtain ⟨-, -, -, -, rfl⟩ := startDeliveryAttempt_eq_ok ran
      exact of_update (fun e => { e with queueState := .inflight }) (fun _ => rfl)
        (fun _ => by simp) rfl
  | completeDeliveryAttempt eventId attemptId outcome _ _ _ _ _ =>
      have alive := completes _ _ _ _ _ _ _ _ rfl
      obtain ⟨event, -, attempt, -, target, next, -, -, -, -, -, hasTarget, -, -, rfl⟩ :=
        completeDeliveryAttempt_eq_ok ran
      have moved : target ≠ .dead := by
        rintro rfl
        cases outcome <;> first | exact alive rfl | cases hasTarget
      exact of_update (fun e => { e with queueState := target }) (fun _ => rfl) (fun _ => moved) rfl
  | transitionEventQueueState _ _ _ => exact absurd rfl (transitions _ _ _)
  | countActiveSessions _ | selectCancelled _ | selectExhausted _ _ | selectCandidates _ _
  | finalQueueStates _ _ =>
      cases ran
      exact of_same rfl

end NoDeaths

end RfidBridge
