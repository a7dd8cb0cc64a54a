import RfidBridge.Store.ObservedTags
import RfidBridge.Worker.IdleReader
import RfidBridge.Worker.OpenSessions

/-!
Whose session an event belongs to. Every frame that final ingestion is given was received
on a connection whose only START request was sent for the session that the call names, so
an event ends up in the session for which the reader was started when it sent the tag.
-/

namespace RfidBridge
open Database

/-- For which session the reader is started on this connection, where it is. -/
def Entry.startFor (connection : Nat) : Entry → Option (Option String)
  | ⟨_, .send other request label, _⟩ =>
      if other = connection ∧ requestCommand request = some commandStartInventory then some label
      else none
  | _ => none

/-- The sessions for which START requests were sent on a connection. -/
def startsOn (connection : Nat) (history : List Entry) : List (Option String) :=
  history.filterMap (Entry.startFor connection)

/-- A thread has received the frame on the connection. -/
def ReceivedOn (connection : Nat) (frame : RFIDFrame) (history : List Entry) : Prop :=
  ∃ t expectedCommands frames,
    (⟨t, .receive connection expectedCommands, .ok frames⟩ : Entry) ∈ history ∧ frame ∈ frames

/-- The frame came in on a connection that was started for this session, and for no other. -/
def CameFor (history : List Entry) (key : String) (x : RFIDFrame × Option Nat) : Prop :=
  ∃ connection, x.2 = some connection ∧ ReceivedOn connection x.1 history ∧
    startsOn connection history = [some key]

/-- The call of final ingestion that created the event, the states before and behind it
and the frames it was given. -/
structure CreatedBy (env : BridgeEnv) (c₀ a b c : BridgePool) (t : Thread) (device : ReaderDevice)
    (sessionKey : String) (frames : List RFIDFrame) (e : RawRFIDEvent) : Prop where
  before : BridgeSteps env c₀ a
  step : Pool.Step (bridgeExec env) (BridgeBody env) a b
  after : BridgeSteps env b c
  call : ∃ result, b.state.trace =
    ⟨t, .store (.ingestFinalActiveTagFrames device sessionKey frames), .ok result⟩ :: a.state.trace
  fresh : ∀ old ∈ a.state.db.events.rows, old.id ≠ e.id
  created : ∃ new ∈ b.state.db.events.rows, new.id = e.id
  shown : e.epc ∈ frames.map epcOf

/-- The event belongs to the session for which the reader was started on the connections
that delivered the frames of its call. -/
def Attributed (env : BridgeEnv) (c₀ c : BridgePool) (e : RawRFIDEvent) : Prop :=
  ∃ a b t device sessionKey frames, CreatedBy env c₀ a b c t device sessionKey frames e ∧
    (a.state.provenance.taken t).map Prod.fst = frames ∧
    ∃ session ∈ c.state.db.sessions.rows, e.rfidSessionId = some session.id ∧
      ∀ x ∈ a.state.provenance.taken t, CameFor c.state.trace session.externalSessionKey x

namespace Attribution
variable {env : BridgeEnv} {t : Thread} {op : BridgeOp} {w w' : World}
  {answer : Except PyException op.Answer}

theorem received_later {connection : Nat} {frame : RFIDFrame} {history : List Entry}
    (entry : Entry) (h : ReceivedOn connection frame history) :
    ReceivedOn connection frame (entry :: history) := by
  obtain ⟨t, expectedCommands, frames, received, listed⟩ := h
  exact ⟨t, expectedCommands, frames, List.mem_cons_of_mem _ received, listed⟩

/-- What the provenance says about a connection, the history shows. -/
structure Sourced (p : Provenance) (history : List Entry) : Prop where
  receives : ∀ t connection frames, p.receives t = some (connection, frames) →
    ∀ frame ∈ frames, ReceivedOn connection frame history
  pending : ∀ x ∈ p.pending, ∀ connection, x.2 = some connection →
    ReceivedOn connection x.1 history
  taken : ∀ t, ∀ x ∈ p.taken t, ∀ connection, x.2 = some connection →
    ReceivedOn connection x.1 history

theorem Sourced.later {p : Provenance} {history : List Entry} (entry : Entry)
    (h : Sourced p history) : Sourced p (entry :: history) where
  receives t connection frames received frame listed :=
    received_later entry (h.receives t connection frames received frame listed)
  pending x buffered connection from_ :=
    received_later entry (h.pending x buffered connection from_)
  taken t x held connection from_ := received_later entry (h.taken t x held connection from_)

/-- A frame that a thread puts into the buffer comes from its last batch. -/
theorem received_of_origin {p : Provenance} {history : List Entry} (h : Sourced p history)
    {t : Thread} {frame : RFIDFrame} {connection : Nat}
    (origin : p.origin t frame = some connection) : ReceivedOn connection frame history := by
  simp only [Provenance.origin] at origin
  split at origin
  · rename_i other frames received
    split at origin
    · rename_i listed
      cases origin
      exact h.receives t connection frames received frame listed
    · cases origin
  · cases origin

theorem Sourced.traced {p : Provenance} {history : List Entry} (entry : Entry)
    (h : Sourced p history) : Sourced (entry.traced p) (entry :: history) := by
  obtain ⟨t, op, answer⟩ := entry
  have later := h.later ⟨t, op, answer⟩
  cases op with
  | send connection request label =>
      rw [Entry.traced]
      split
      · exact ⟨later.receives, later.pending, later.taken⟩
      · exact later
  | receive connection expectedCommands =>
      cases answer with
      | error exc => exact later
      | ok frames =>
          refine ⟨fun u other batch received frame listed => ?_, later.pending, later.taken⟩
          by_cases same : u = t
          · subst same
            cases (Function.update_self _ _ _).symm.trans received
            exact ⟨u, expectedCommands, frames, List.mem_cons_self .., listed⟩
          · exact later.receives u other batch
              ((Function.update_of_ne same _ _).symm.trans received)
              frame listed
  | appendPendingTagFrame frame =>
      cases answer with
      | error exc => exact later
      | ok _ =>
          refine ⟨later.receives, ?_, later.taken⟩
          refine List.forall_mem_append.mpr ⟨later.pending, fun x last connection origin => ?_⟩
          obtain rfl := List.mem_singleton.mp last
          exact received_of_origin later origin
  | readPendingTagFrames =>
      cases answer with
      | error exc => exact later
      | ok frames =>
          refine ⟨later.receives, later.pending, fun u x held => ?_⟩
          by_cases same : u = t
          · subst same
            exact later.pending x ((Function.update_self u p.pending p.taken) ▸ held)
          · exact later.taken u x ((Function.update_of_ne same p.pending p.taken) ▸ held)
  | clearPendingTagFrames =>
      cases answer with
      | error exc => exact later
      | ok _ => exact ⟨later.receives, by simp [Entry.traced], later.taken⟩
  | _ => cases answer <;> exact later

theorem sourced (history : List Entry) : Sourced (provenance history) history := by
  induction history with
  | nil => constructor <;> simp [provenance]
  | cons entry history ih => exact ih.traced entry

theorem startsOn_cons (connection : Nat) (entry : Entry) (history : List Entry) :
    startsOn connection (entry :: history) =
      (entry.startFor connection).toList ++ startsOn connection history := by
  rw [startsOn, List.filterMap_cons]
  cases entry.startFor connection <;> rfl

/-- The START requests of a connection, as the provenance remembers them: at most one. -/
def Startings (w : World) : Prop :=
  ∀ connection, startsOn connection w.trace =
    (w.provenance.started connection).toList.map some

/-- A START goes out on a connection that was not started, and names its session. -/
theorem start_of_law {connection : Nat} {request : Bytes} {label : Option String}
    (law : CustodyLaw t (.send connection request label) w)
    (owner : OwnerLaw t (.send connection request label) w)
    (start : requestCommand request = some commandStartInventory) :
    w.provenance.started connection = none ∧ ∃ key, label = some key := by
  obtain rfl := Ownership.control_of_law owner (fun _ => id) id (by rintro ⟨⟩)
  obtain ⟨named, -, -, fresh⟩ := law.2 start
  exact ⟨fresh.unstarted, Option.isSome_iff_exists.mp named⟩

theorem startings_of_step (law : CustodyLaw t op w) (owner : OwnerLaw t op w)
    (step : BridgeStep env t op w answer w') (h : Startings w) : Startings w' := by
  intro connection
  rw [step.frame.2, provenance_of_step step, startsOn_cons, h connection]
  cases op with
  | send other request label =>
      by_cases start : requestCommand request = some commandStartInventory
      · obtain ⟨unstarted, key, rfl⟩ := start_of_law law owner start
        by_cases same : connection = other
        · subst same
          simp [Entry.startFor, Entry.traced, start, unstarted]
        · simp [Entry.startFor, Entry.traced, start, same, Ne.symm same]
      · simp [Entry.startFor, Entry.traced, start]
  | _ => cases answer <;> rfl

/-- A connection is started once. -/
theorem started_of_kept {connection : Nat} {key : String} (law : CustodyLaw t op w)
    (owner : OwnerLaw t op w) (step : BridgeStep env t op w answer w')
    (started : w.provenance.started connection = some key) :
    w'.provenance.started connection = some key := by
  rw [provenance_of_step step]
  cases op with
  | send other request label =>
      by_cases start : requestCommand request = some commandStartInventory
      · obtain ⟨unstarted, -⟩ := start_of_law law owner start
        have apart : connection ≠ other := by
          rintro rfl
          cases unstarted.symm.trans started
        simpa [Entry.traced, start, apart] using started
      · simpa [Entry.traced, start] using started
  | _ => cases answer <;> exact started

theorem cameFor_of_of {key : String} {x : RFIDFrame × Option Nat} (startings : Startings w)
    (received : ∀ connection, x.2 = some connection → ReceivedOn connection x.1 w.trace)
    (mine : w.provenance.Of key x) : CameFor w.trace key x := by
  obtain ⟨connection, from_, started⟩ := mine
  refine ⟨connection, from_, received connection from_, ?_⟩
  rw [startings connection, started]
  rfl

theorem cameFor_of_step {key : String} {x : RFIDFrame × Option Nat} (law : CustodyLaw t op w)
    (owner : OwnerLaw t op w) (step : BridgeStep env t op w answer w') (h : Startings w)
    (came : CameFor w.trace key x) : CameFor w'.trace key x := by
  obtain ⟨connection, from_, received, started⟩ := came
  refine ⟨connection, from_, ?_, ?_⟩
  · rw [step.frame.2]
    exact received_later _ received
  · rw [h connection] at started
    rw [startings_of_step law owner step h connection]
    cases named : w.provenance.started connection with
    | none => simp [named] at started
    | some k =>
        rw [named] at started
        rwa [started_of_kept law owner step named]

section
variable {since : Nat} {db db' : Database} {id session : Nat} {epc : String}

/-- The event of this id has this EPC and is in this session. -/
def Filed (id : Nat) (epc : String) (session : Nat) (db : Database) : Prop :=
  ∃ e ∈ db.events.rows, e.id = id ∧ e.epc = epc ∧ e.rfidSessionId = some session

theorem filed_setQueueState (eventId : Nat) (state : QueueState) (h : Filed id epc session db) :
    Filed id epc session (db.setQueueState eventId state) := by
  obtain ⟨e, member, facts⟩ := h
  by_cases same : e.id = eventId
  · exact ⟨_, (mem_setQueueState db eventId state _).mpr (.inr ⟨e, member, same, rfl⟩), facts⟩
  · exact ⟨e, (mem_setQueueState db eventId state e).mpr (.inl ⟨member, same⟩), facts⟩

theorem filed_edit {scope : EditScope} (edit : Edit scope db db') (h : Filed id epc session db) :
    Filed id epc session db' := by
  cases edit with
  | openSession | finishSession => exact h
  | addEvent row keyed =>
      obtain ⟨e, member, facts⟩ := h
      exact ⟨e, (Table.mem_insert _ _ keyed _).mpr (.inl member), facts⟩
  | assignEvent event session found unassigned free =>
      obtain ⟨e, member, same, shown, assigned⟩ := h
      have other : e.id ≠ event.id := by
        intro clash
        rw [db.events.eq_of_key_eq member found clash, free] at assigned
        cases assigned
      exact ⟨e, (db.events.mem_update_of_ne other).mpr member, same, shown, assigned⟩
  | completeAttempt event | deadLetter event => exact filed_setQueueState event.id _ h

/-- The first database knows every event of the second. -/
def Knows (db db' : Database) : Prop :=
  ∀ e ∈ db'.events.rows, ∃ old ∈ db.events.rows, old.id = e.id

theorem knows_trans {db₁ : Database} (first : Knows db db₁) (second : Knows db₁ db') :
    Knows db db' := by
  intro e member
  obtain ⟨mid, there, same⟩ := second e member
  obtain ⟨old, known, same'⟩ := first mid there
  exact ⟨old, known, same'.trans same⟩

theorem knows_setQueueState (eventId : Nat) (state : QueueState) :
    Knows db (db.setQueueState eventId state) := by
  intro e member
  rcases (mem_setQueueState db eventId state e).mp member with ⟨old, -⟩ | ⟨old, there, -, rfl⟩
  · exact ⟨e, old, rfl⟩
  · exact ⟨old, there, rfl⟩

theorem knows_edit {scope : EditScope} (none : ∀ key, ¬ scope.adds key)
    (edit : Edit scope db db') : Knows db db' := by
  cases edit with
  | openSession | finishSession => exact fun e member => ⟨e, member, rfl⟩
  | addEvent row keyed deviceId readerEventKey fresh identity absent may =>
      exact absurd may (none readerEventKey)
  | assignEvent event session =>
      intro e member
      rcases (Table.mem_update db.events event.id (fun e => { e with
        rfidSessionId := some session.id, queueState := .queued }) (fun _ => rfl) e).mp member with
        ⟨old, -⟩ | ⟨old, there, -, rfl⟩
      · exact ⟨e, old, rfl⟩
      · exact ⟨old, there, rfl⟩
  | completeAttempt event | deadLetter event => exact knows_setQueueState event.id _

theorem filed_run {sha : Sha256} {now : Timestamp} {op : StoreOp} {answer : op.Answer}
    (issued : op.Issued) (h : op.run sha now db = .ok (answer, db'))
    (filed : Filed id epc session db) : Filed id epc session db' :=
  StoreOp.run_invariant (I := Filed id epc session) (fun edit => filed_edit edit)
    (fun {_ event _} _ _ => filed_setQueueState event.id .inflight) issued h filed

/-- Only ingestion adds events. -/
theorem knows_run {sha : Sha256} {now : Timestamp} {op : StoreOp} {answer : op.Answer}
    (issued : op.Issued) (none : ∀ key, ¬ op.scope.adds key)
    (h : op.run sha now db = .ok (answer, db')) : Knows db db' :=
  StoreOp.run_relation (T := Knows) (fun _ e member => ⟨e, member, rfl⟩) knows_trans
    (knows_edit none) (fun {_ event _} _ _ => knows_setQueueState event.id .inflight) issued h

/-- What every operation leaves alone: the names of the sessions and the assigned events. -/
structure Stays (db db' : Database) : Prop where
  sessions : ∀ s, StillThere db s → StillThere db' s
  filed : ∀ id epc session, Filed id epc session db → Filed id epc session db'

theorem stays_run {sha : Sha256} {now : Timestamp} {op : StoreOp} {answer : op.Answer}
    (issued : op.Issued) (h : op.run sha now db = .ok (answer, db')) : Stays db db' :=
  ⟨fun _ there => there.run issued h, fun _ _ _ filed => filed_run issued h filed⟩

/-- A thread of the bridge adds events by final ingestion only. -/
theorem adds_of_law {op : StoreOp} (law : CustodyLaw t (.store op) w)
    (owner : OwnerLaw t (.store op) w) : op.Issued ∧ ((∀ key, ¬ op.scope.adds key) ∨
      ∃ device sessionKey frames, op = .ingestFinalActiveTagFrames device sessionKey frames) := by
  cases t with
  | control =>
      cases op with
      | ingestFinalActiveTagFrames device sessionKey frames =>
          exact ⟨trivial, .inr ⟨device, sessionKey, frames, rfl⟩⟩
      | getOrCreateEvent device read => exact absurd rfl (law.2 device read)
      | _ => exact ⟨law.1, .inl fun _ => id⟩
  | capture n =>
      cases op with
      | ingestFinalActiveTagFrames device sessionKey frames =>
          exact ⟨trivial, .inr ⟨device, sessionKey, frames, rfl⟩⟩
      | _ => exact owner.1.elim
  | delivery n =>
      obtain ⟨issued, delivers⟩ := (show BridgeOp.delivers (.store op) from owner)
      refine ⟨issued, .inl ?_⟩
      cases op with
      | ingestFinalActiveTagFrames | getOrCreateEvent =>
          simp [StoreOp.deadLetters, StoreOp.isRoutine] at delivers
      | _ => exact fun _ => id
  | reader => cases (show BridgeOp.store op = .processRequest from owner)

end

section
variable {settings : CommandSettings} {since : Nat} {c₀ b c : BridgePool}

/-- The event that a call created stays with its session. -/
theorem attributed_of_stays {e₀ e : RawRFIDEvent}
    (step : Pool.Step (bridgeExec env) (BridgeBody env) b c) (stays : Stays b.state.db c.state.db)
    (came : ∀ key x, CameFor b.state.trace key x → CameFor c.state.trace key x)
    (before : e₀ ∈ b.state.db.events.rows) (member : e ∈ c.state.db.events.rows)
    (same : e₀.id = e.id) (h : Attributed env c₀ b e₀) : Attributed env c₀ c e := by
  obtain ⟨a, a', t, device, sessionKey, frames, by_, taken, session, row, assigned, mine⟩ := h
  obtain ⟨e', member', id, shown, assigned'⟩ :=
    stays.filed e₀.id e₀.epc session.id ⟨e₀, before, rfl, rfl, assigned⟩
  obtain rfl := c.state.db.events.eq_of_key_eq member' member (id.trans same)
  obtain ⟨s, row', sameSession, key⟩ := stays.sessions session ⟨session, row, rfl, rfl⟩
  refine ⟨a, a', t, device, sessionKey, frames, ?_, taken, s, row', ?_, ?_⟩
  · exact ⟨by_.before, by_.step, by_.after.tail step, by_.call, same ▸ by_.fresh,
      same ▸ by_.created, shown ▸ by_.shown⟩
  · rw [assigned', sameSession]
  · rw [key]
    exact fun x held => came _ x (mine x held)

/-- The next operation of a thread is within both laws. -/
theorem laws_of_call {next : Except PyException op.Answer → Bridge Unit}
    (started : Started env settings c₀) (run : BridgeSteps env c₀ c)
    (code : c.code t = .call op next) (step : BridgeStep env t op c.state answer w') :
    OwnerLaw t op c.state ∧ CustodyLaw t op c.state := by
  have owner : OwnerLaw t op c.state := Ownership.law_of_step (fun _ _ _ _ _ => id)
    (code ▸ Ownership.sound_of_run started run t) step
  have sound := Pool.sound_steps Actor.compatible_member
    (fun _ _ w body => Custody.sat_body body w) (ownedSteps_of_run started run)
    (Custody.sound_of_started started)
  have mine : ownedExec env t op c.state answer w' :=
    ⟨step, owner, Ownership.ownership_of_run started run⟩
  exact ⟨owner, Ownership.law_of_step (fun _ _ _ _ _ step => step.1) (code ▸ sound t) mine⟩

/-- The new events of a run, with the constraints that ingestion relies on. -/
structure Accounted (env : BridgeEnv) (since : Nat) (c₀ c : BridgePool) : Prop where
  startings : Startings c.state
  keys : StoreKeys since c.state.db
  events : ∀ e ∈ c.state.db.events.rows, (∀ old ∈ c₀.state.db.events.rows, old.id ≠ e.id) →
    Attributed env c₀ c e

/-- A step that adds no event. -/
theorem accounted_of_knows (step : Pool.Step (bridgeExec env) (BridgeBody env) b c)
    (startings : Startings c.state) (keys : StoreKeys since c.state.db)
    (knows : Knows b.state.db c.state.db) (stays : Stays b.state.db c.state.db)
    (came : ∀ key x, CameFor b.state.trace key x → CameFor c.state.trace key x)
    (h : Accounted env since c₀ b) : Accounted env since c₀ c := by
  refine ⟨startings, keys, fun e member fresh => ?_⟩
  obtain ⟨e₀, before, same⟩ := knows e member
  refine attributed_of_stays step stays came before member same (h.events e₀ before ?_)
  exact fun old there => same ▸ fresh old there

/-- A call of final ingestion that succeeds: the events it adds are for its own frames. -/
theorem accounted_of_ingest {device : ReaderDevice} {sessionKey : String}
    {frames : List RFIDFrame} {result : FinalTagIngestionResult} {now : Timestamp}
    (run : BridgeSteps env c₀ b) (step : Pool.Step (bridgeExec env) (BridgeBody env) b c)
    (startings : Startings c.state) (trace : c.state.trace =
      ⟨t, .store (.ingestFinalActiveTagFrames device sessionKey frames), .ok result⟩ ::
        b.state.trace)
    (taken : (b.state.provenance.taken t).map Prod.fst = frames)
    (mine : TakenOf t (strip sessionKey) b.state)
    (ran : ingestFinalActiveTagFrames env.sha device sessionKey frames now b.state.db =
      .ok (result, c.state.db))
    (came : ∀ key x, CameFor b.state.trace key x → CameFor c.state.trace key x)
    (h : Accounted env since c₀ b) : Accounted env since c₀ c := by
  refine ⟨startings, h.keys.ingested ran, fun e member fresh => ?_⟩
  have stays : Stays b.state.db c.state.db :=
    @stays_run b.state.db c.state.db env.sha now
      (.ingestFinalActiveTagFrames device sessionKey frames) result trivial ran
  obtain ⟨session, active, named, reads, created, converted, ingested, -⟩ :=
    ingestFinal_eq_ok h.keys ran
  have rows := ingested.rows ▸ member
  obtain old | new := List.mem_append.mp rows
  · exact attributed_of_stays step stays came old member rfl (h.events e old fresh)
  · obtain ⟨-, assigned, -, -, read, listed, -, shown⟩ := ingested.each e new
    have distinct := c.state.db.events.distinct
    rw [ingested.rows, List.map_append, List.nodup_append] at distinct
    refine ⟨b, c, t, device, sessionKey, frames, ⟨run, step, .refl, ⟨result, trace⟩, ?_,
      ⟨e, member, rfl⟩, ?_⟩, taken, session, ?_, assigned, fun x held => ?_⟩
    · exact fun old there => distinct.2.2 _ (List.mem_map_of_mem there) _ (List.mem_map_of_mem new)
    · rw [← epcs_of_framesToTechnicalReads converted, ← shown]
      exact List.mem_map_of_mem listed
    · rw [ingested.others]
      exact (mem_activeSessions.mp active).1
    · rw [named]
      apply came
      exact cameFor_of_of h.startings ((sourced b.state.trace).taken t x held) (mine x held)

theorem accounted_of_call {next : Except PyException op.Answer → Bridge Unit}
    (started : Started env settings c₀) (run : BridgeSteps env c₀ b)
    (code : b.code t = .call op next) (step : BridgeStep env t op b.state answer w')
    (h : Accounted env since c₀ b) :
    Accounted env since c₀ ⟨w', Function.update b.code t (next answer)⟩ := by
  obtain ⟨owner, law⟩ := laws_of_call started run code step
  have moves : Pool.Step (bridgeExec env) (BridgeBody env) b
      ⟨w', Function.update b.code t (next answer)⟩ := .call code step
  have startings := startings_of_step law owner step h.startings
  have came : ∀ key x, CameFor b.state.trace key x → CameFor w'.trace key x :=
    fun _ _ => cameFor_of_step law owner step h.startings
  have still : w'.db = b.state.db →
      Accounted env since c₀ ⟨w', Function.update b.code t (next answer)⟩ := by
    intro same
    refine accounted_of_knows moves startings (same.symm ▸ h.keys) ?_ ?_ came h
    · exact fun e member => ⟨e, same ▸ member, rfl⟩
    · exact ⟨fun _ => same.symm ▸ id, fun _ _ _ => same.symm ▸ id⟩
  cases op with
  | store op =>
      cases answer with
      | error exc => exact still step.rolledBack.1
      | ok value =>
          obtain ⟨now, ran⟩ := step.committed
          obtain ⟨issued, none | ⟨device, sessionKey, frames, rfl⟩⟩ := adds_of_law law owner
          · exact accounted_of_knows moves startings (h.keys.run issued ran)
              (knows_run issued none ran) (stays_run issued ran) came h
          · obtain ⟨taken, mine⟩ : (b.state.provenance.taken t).map Prod.fst = frames ∧
                TakenOf t (strip sessionKey) b.state := by
              cases t <;> exact law
            exact accounted_of_ingest run moves startings step.frame.2 taken mine ran came h
  | _ => exact still (step.frame.1.db (by rintro ⟨⟩))

theorem accounted_of_run (started : Started env settings c₀) (keys : StoreKeys since c₀.state.db)
    (run : BridgeSteps env c₀ c) : Accounted env since c₀ c := by
  induction run with
  | refl =>
      refine ⟨fun connection => ?_, keys, fun e member fresh => absurd rfl (fresh e member)⟩
      rw [World.provenance, started.history]
      rfl
  | tail before step ih =>
      cases step with
      | call code ex => exact accounted_of_call started before code ex ih
      | begin code chosen =>
          refine accounted_of_knows (.begin code chosen) ih.startings ih.keys ?_ ?_ ?_ ih
          · exact fun e member => ⟨e, member, rfl⟩
          · exact ⟨fun _ => id, fun _ _ _ => id⟩
          · exact fun _ _ => id

end

end Attribution

/-- In every run, each event that was created belongs to the session for which the reader was
started on the connections that delivered the frames of its call. Outside process_command,
the buffer holds frames of the session of the runtime only, which is the executor's as well. -/
theorem events_attributed {env : BridgeEnv} {settings : CommandSettings} {since : Nat}
    {c₀ c : BridgePool} (started : Started env settings c₀) (keys : StoreKeys since c₀.state.db)
    (run : BridgeSteps env c₀ c) :
    (∀ e ∈ c.state.db.events.rows, (∀ old ∈ c₀.state.db.events.rows, old.id ≠ e.id) →
      Attributed env c₀ c e) ∧
    (c.state.busy = false →
      c.state.provenance.pending.map Prod.fst = c.state.executor.pendingTagFrames ∧
      (∀ x ∈ c.state.provenance.pending, ∃ key, c.state.runtime.sessionKey = some key ∧
        CameFor c.state.trace key x) ∧
      (Custody.Active c.state →
        c.state.executor.activeSessionKey = c.state.runtime.sessionKey)) := by
  have accounted := Attribution.accounted_of_run started keys run
  have facts := Custody.custody_of_run started run
  refine ⟨accounted.events, fun free => ⟨facts.mirrors, fun x buffered => ?_, ?_⟩⟩
  · obtain ⟨key, named, mine⟩ := (facts.returned free).pending x buffered
    exact ⟨key, named, Attribution.cameFor_of_of accounted.startings
      ((Attribution.sourced c.state.trace).pending x buffered) mine⟩
  · rintro ⟨session, active⟩
    obtain ⟨connection, session⟩ := Option.ne_none_iff_exists'.mp session
    obtain ⟨key, active⟩ := Option.ne_none_iff_exists'.mp active
    rw [active, (facts.returned free).active connection key session active]

open Installation in
/-- After a START the capture thread has stored one tag and holds the next one. -/
theorem events_attributed_reading :
    ∃ c, BridgeSteps env pool c ∧ (∃ e ∈ c.state.db.events.rows, Attributed env pool c e) ∧
      ∃ x ∈ c.state.provenance.pending, ∃ key, c.state.runtime.sessionKey = some key ∧
        CameFor c.state.trace key x := by
  have seen : (runSchedule env deliverySettings session
      [(.control, 3), (.reader, 2), (.control, 19), (.reader, 2), (.control, 20), (.capture 0, 24)]
      pool).map (fun c => (c.state.busy, c.state.db.events.rows.map (·.id),
        c.state.provenance.pending.length)) = some (false, [1], 1) := by
    decide +kernel
  obtain ⟨c, ran, same⟩ := Option.map_eq_some_iff.mp seen
  have run : BridgeSteps env pool c := bridgeSteps_of_runSchedule ran
  simp only [Prod.mk.injEq] at same
  obtain ⟨returned, stored, buffered⟩ := same
  obtain ⟨events, rests⟩ := events_attributed started_pool storeKeys_pool run
  obtain ⟨e, rows, -⟩ := List.map_eq_singleton_iff.mp stored
  obtain ⟨x, held⟩ := List.length_eq_one_iff.mp buffered
  have member : e ∈ c.state.db.events.rows := rows ▸ List.mem_singleton_self e
  have pending : x ∈ c.state.provenance.pending := held ▸ List.mem_singleton_self x
  refine ⟨c, run, ⟨e, member, events e member ?_⟩, x, pending, (rests returned).2.1 x pending⟩
  rintro old ⟨⟩

end RfidBridge
