import RfidBridge.Worker.Handshake
import RfidBridge.Worker.Provenance

/-!
The custody of the tag frames. What the pending buffer holds was received for the one
session that the runtime remembers, however far a START, a STOP or an ABORT has got, and
an idle runtime has nothing left: no frames, no session and a quiet reader.
-/

namespace RfidBridge
open FinalRuntimeOrchestrator PersistentActiveReaderExecutor

/-- Every buffered frame was received for this session. -/
def PendingOf (key : String) (w : World) : Prop :=
  ∀ x ∈ w.provenance.pending, w.provenance.Of key x

/-- Every frame that the thread has taken from the buffer was. -/
def TakenOf (t : Thread) (key : String) (w : World) : Prop :=
  ∀ x ∈ w.provenance.taken t, w.provenance.Of key x

/-- What holds of the runtime and the executor outside process_command. -/
structure Returned (w : World) : Prop where
  pending : ∀ x ∈ w.provenance.pending,
    ∃ key, w.runtime.sessionKey = some key ∧ w.provenance.Of key x
  active : ∀ connection key, w.executor.session = some connection →
    w.executor.activeSessionKey = some key → w.runtime.sessionKey = some key
  idle : w.runtime.state = .idle → w.line.Quiet ∧ w.runtime.sessionKey = none

/-- The connection of a session may be used for its first request. -/
structure Fresh (connection : Nat) (w : World) : Prop where
  inactive : w.executor.activeSessionKey = none
  opened : connection < w.line.nextConnection
  unused : w.line.Unused connection
  unstarted : w.provenance.started connection = none

/-- When a thread may send, buffer, take over and store. -/
def CustodyLaw : Thread → BridgeOp → World → Prop
  | .control, .send connection request label, w => connection < w.line.nextConnection ∧
      (requestCommand request = some commandStartInventory → label.isSome = true ∧
        w.busy = true ∧ w.executor.session = some connection ∧ Fresh connection w)
  | .control, .writeSession session, w => ∀ connection ∈ session, w.busy = true ∧
      Fresh connection w
  | .control, .writeActiveSessionKey key, w => ∀ k ∈ key, w.busy = true ∧ strip k = k ∧
      PendingOf k w ∧
      ∀ connection, w.executor.session = some connection → w.provenance.started connection = some k
  | .control, .writeCaptureSessionKey _, w => NoneRunning w
  | .control, .startThread _, w => w.executor.activeSessionKey ≠ none ∧
      w.capture.sessionKey = w.executor.activeSessionKey
  | .control, .writeRuntime runtime, w => w.busy = false → Returned { w with runtime }
  | .control, .commandReturned _, w => Returned w
  | t, .appendPendingTagFrame frame, w => ∃ connection,
      w.provenance.origin t frame = some connection ∧ w.executor.session = some connection ∧
      (w.executor.activeSessionKey = none → w.busy = true)
  | t, .store (.ingestFinalActiveTagFrames _ sessionKey frames), w =>
      (w.provenance.taken t).map Prod.fst = frames ∧ TakenOf t (strip sessionKey) w
  | .control, .store op, _ => op.Issued ∧ ∀ device read, op ≠ .getOrCreateEvent device read
  | _, _, _ => True

structure Custody (w : World) : Prop where
  numbered : w.line.Numbered
  started : ∀ connection key, w.provenance.started connection = some key →
    connection < w.line.nextConnection
  mirrors : w.provenance.pending.map Prod.fst = w.executor.pendingTagFrames
  session : ∀ connection, w.executor.session = some connection →
    connection < w.line.nextConnection ∧ w.line.Settles connection
  held : ∀ key, w.executor.activeSessionKey = some key → strip key = key ∧ PendingOf key w ∧
    ∀ connection, w.executor.session = some connection → w.provenance.started connection = some key
  manned : ∀ n, w.threads n = .running → w.executor.activeSessionKey ≠ none ∧
    w.capture.sessionKey = w.executor.activeSessionKey
  returned : w.busy = false → Returned w

/-- Operations that leave the session, the buffer and the marks alone, and send nothing. -/
def BridgeOp.offCustody : BridgeOp → Prop
  | .writeRuntime _ | .writeSession _ | .writeActiveSessionKey _ | .readPendingTagFrames
  | .appendPendingTagFrame _ | .clearPendingTagFrames | .writeCaptureSessionKey _ | .startThread _
  | .threadEnds _ | .send .. | .receive .. | .commandEntered _ | .commandReturned _
  | .processRequest => False
  | .store (.ingestFinalActiveTagFrames ..) | .store (.getOrCreateEvent ..) => False
  | .store op => op.Issued
  | _ => True

namespace Custody
variable {env : BridgeEnv} {t : Thread} {op : BridgeOp} {w w' : World}
  {answer : Except PyException op.Answer}

theorem of_congr {key : String} (started : w'.provenance.started = w.provenance.started)
    {x : RFIDFrame × Option Nat} : w'.provenance.Of key x ↔ w.provenance.Of key x := by
  simp only [Provenance.Of, started]

theorem pendingOf_congr {key : String} (started : w'.provenance.started = w.provenance.started)
    (pending : w'.provenance.pending = w.provenance.pending) :
    PendingOf key w' ↔ PendingOf key w := by
  simp only [PendingOf, of_congr started, pending]

/-- The session of the executor, the marks and the runtime are the same. -/
structure Same (w w' : World) : Prop where
  session : w'.executor.session = w.executor.session
  key : w'.executor.activeSessionKey = w.executor.activeSessionKey
  runtime : w'.runtime = w.runtime
  busy : w'.busy = w.busy
  started : w'.provenance.started = w.provenance.started
  running : ∀ n, w'.threads n = .running → w.threads n = .running

/-- A part of the world that is no session, mark of process_command, runtime or thread. -/
def beside : Option Field → Prop
  | some .session | some .activeSessionKey | some .runtime | some .busy | some .threads => False
  | _ => True

theorem same_of_step (op : BridgeOp) {answer : Except PyException op.Answer}
    (unsent : ∀ connection request label, op ≠ .send connection request label)
    (part : beside op.writes) (step : BridgeStep env t op w answer w') : Same w w' := by
  have frame := step.frame.1
  refine ⟨frame.session ?_, frame.activeSessionKey ?_, frame.runtime ?_, frame.busy ?_,
    started_of_step unsent step, ?_⟩
  iterate 4
    intro written
    rw [written] at part
    exact part
  rw [frame.threads ?_]
  · exact fun _ => id
  · intro written
    rw [written] at part
    exact part

theorem returned_of_same (same : Same w w') (follows : w.line.Follows w'.line)
    (pending : w'.provenance.pending = w.provenance.pending) (h : Returned w) : Returned w' := by
  refine ⟨?_, ?_, ?_⟩
  · rw [pending, same.runtime]
    intro x buffered
    obtain ⟨key, held, mine⟩ := h.pending x buffered
    exact ⟨key, held, (of_congr same.started).mpr mine⟩
  · rw [same.session, same.key, same.runtime]
    exact h.active
  · rw [same.runtime]
    exact fun idle => ⟨follows.quiet (h.idle idle).1, (h.idle idle).2⟩

theorem of_same (same : Same w w')
    (captureKey : w'.capture.sessionKey = w.capture.sessionKey) (follows : w.line.Follows w'.line)
    (numbered : w'.line.Numbered) (pending : w'.provenance.pending = w.provenance.pending)
    (frames : w'.executor.pendingTagFrames = w.executor.pendingTagFrames) (h : Custody w) :
    Custody w' where
  numbered := numbered
  started := by
    rw [same.started]
    exact fun connection key named =>
      Nat.lt_of_lt_of_le (h.started connection key named) follows.opened
  mirrors := by rw [pending, frames, h.mirrors]
  session := by
    rw [same.session]
    intro connection opened
    obtain ⟨below, settles⟩ := h.session connection opened
    exact ⟨Nat.lt_of_lt_of_le below follows.opened, follows.settles connection settles⟩
  held := by
    rw [same.key, same.session, same.started]
    intro key active
    obtain ⟨clean, mine, started⟩ := h.held key active
    exact ⟨clean, (pendingOf_congr same.started pending).mpr mine, started⟩
  manned := by
    rw [same.key, captureKey]
    exact fun n running => h.manned n (same.running n running)
  returned := by
    rw [same.busy]
    exact fun free => returned_of_same same follows pending (h.returned free)

/-- A step that touches none of all that. -/
theorem of_plain (step : BridgeStep env t op w answer w') (part : beside op.writes)
    (line : op.writes ≠ some .line) (frames : op.writes ≠ some .pendingTagFrames)
    (captureKey : op.writes ≠ some .captureSessionKey) (h : Custody w) : Custody w' := by
  have same : Same w w' := by
    refine same_of_step op ?_ part step
    rintro connection request label rfl
    exact line rfl
  refine of_same same (step.frame.1.captureSessionKey captureKey) ?_ ?_
    (pending_of_step frames step) (step.frame.1.pendingTagFrames frames) h
  · rw [step.frame.1.line line]
    exact .refl _
  · rw [step.frame.1.line line]
    exact h.numbered

/-- The reader and the opening of a connection keep the custody. -/
theorem of_follows (op : BridgeOp) {answer : Except PyException op.Answer} (same : Same w w')
    (frames : op.writes ≠ some .pendingTagFrames)
    (captureKey : op.writes ≠ some .captureSessionKey) (step : BridgeStep env t op w answer w')
    (follows : w.line.Follows w'.line) (numbered : w'.line.Numbered) (h : Custody w) :
    Custody w' :=
  of_same same (step.frame.1.captureSessionKey captureKey) follows numbered
    (pending_of_step frames step) (step.frame.1.pendingTagFrames frames) h

theorem of_connect {answer : Except PyException Nat} (step : BridgeStep env t .connect w answer w')
    (h : Custody w) : Custody w' := by
  have same : Same w w' := same_of_step .connect nofun trivial step
  obtain ⟨_, (⟨-, rfl⟩ | ⟨-, rfl⟩) | ⟨-, rfl⟩, rfl⟩ := step.effect
  · exact of_follows .connect same nofun nofun step (.opens _) h.numbered.opened h
  · exact of_follows .connect same nofun nofun step (.refl _) h.numbered h
  · exact of_follows .connect same nofun nofun step (.refl _) h.numbered h

theorem of_processRequest {answer : Except PyException Unit}
    (step : BridgeStep env t .processRequest w answer w') (h : Custody w) : Custody w' := by
  have same : Same w w' := same_of_step .processRequest nofun trivial step
  obtain ⟨_, ⟨-, l, taken, rfl⟩ | ⟨-, rfl⟩, rfl⟩ := step.effect
  · exact of_follows .processRequest same nofun nofun step (.step taken) (h.numbered.step taken) h
  · exact of_follows .processRequest same nofun nofun step (.refl _) h.numbered h

theorem of_send {connection : Nat} {request : Bytes} {label : Option String}
    {answer : Except PyException Unit}
    (law : CustodyLaw .control (.send connection request label) w) (none : NoneRunning w)
    (step : BridgeStep env .control (.send connection request label) w answer w')
    (h : Custody w) : Custody w' := by
  have line : w'.line = w.line ∨ w'.line = w.line.push connection request := by
    obtain ⟨_, (rfl | ⟨-, rfl⟩) | ⟨-, rfl⟩, rfl⟩ := step.effect
    · exact .inr rfl
    · exact .inl rfl
    · exact .inl rfl
  have opened : w'.line.nextConnection = w.line.nextConnection := by
    obtain same | same := line <;> rw [same]
    rfl
  have numbered : w'.line.Numbered := by
    obtain same | same := line <;> rw [same]
    · exact h.numbered
    · exact h.numbered.push law.1
  have frame := step.frame.1
  have idle : ∀ n, w'.threads n ≠ .running := by
    rw [frame.threads (by rintro ⟨⟩)]
    exact none
  have traced := provenance_of_step step
  rw [Entry.traced] at traced
  by_cases start : requestCommand request = some commandStartInventory
  · obtain ⟨-, busy, session, fresh⟩ := law.2 start
    rw [if_pos start] at traced
    refine ⟨numbered, ?_, ?_, ?_, ?_, fun n running => absurd running (idle n), ?_⟩
    · rw [traced, opened]
      intro other key named
      by_cases same : other = connection
      · exact same ▸ law.1
      · exact h.started other key ((Function.update_of_ne same _ _).symm.trans named)
    · rw [traced, frame.pendingTagFrames (by rintro ⟨⟩)]
      exact h.mirrors
    · rw [frame.session (by rintro ⟨⟩), opened, session]
      rintro _ ⟨⟩
      refine ⟨law.1, ?_⟩
      obtain same | same := line <;> rw [same]
      · exact fresh.unused.settles
      · exact fresh.unused.settles_push
    · rw [frame.activeSessionKey (by rintro ⟨⟩), fresh.inactive]
      simp
    · rw [frame.busy (by rintro ⟨⟩), busy]
      simp
  · rw [if_neg start] at traced
    refine of_same ⟨frame.session (by rintro ⟨⟩), frame.activeSessionKey (by rintro ⟨⟩),
      frame.runtime (by rintro ⟨⟩), frame.busy (by rintro ⟨⟩), by rw [traced], ?_⟩
      (frame.captureSessionKey (by rintro ⟨⟩)) ?_ numbered (by rw [traced])
      (frame.pendingTagFrames (by rintro ⟨⟩)) h
    · exact fun n running => absurd running (idle n)
    · obtain same | same := line <;> rw [same]
      · exact .refl _
      · exact .push _ _ start

/-- The line, the buffer and the starts of the connections are the same. -/
structure Untouched (w w' : World) : Prop where
  line : w'.line = w.line
  frames : w'.executor.pendingTagFrames = w.executor.pendingTagFrames
  started : w'.provenance.started = w.provenance.started
  pending : w'.provenance.pending = w.provenance.pending

theorem untouched_of_step (op : BridgeOp) {answer : Except PyException op.Answer}
    (line : op.writes ≠ some .line) (frames : op.writes ≠ some .pendingTagFrames)
    (step : BridgeStep env t op w answer w') : Untouched w w' := by
  refine ⟨step.frame.1.line line, step.frame.1.pendingTagFrames frames, started_of_step ?_ step,
    pending_of_step frames step⟩
  rintro connection request label rfl
  exact line rfl

theorem returned_of_untouched (untouched : Untouched w w') (runtime : w'.runtime = w.runtime)
    (active : ∀ connection key, w'.executor.session = some connection →
      w'.executor.activeSessionKey = some key → w.runtime.sessionKey = some key)
    (h : Returned w) : Returned w' := by
  refine ⟨?_, ?_, ?_⟩
  · rw [untouched.pending, runtime]
    intro x buffered
    obtain ⟨key, held, mine⟩ := h.pending x buffered
    exact ⟨key, held, (of_congr untouched.started).mpr mine⟩
  · rw [runtime]
    exact active
  · rw [runtime, untouched.line]
    exact h.idle

theorem of_untouched (untouched : Untouched w w')
    (session : ∀ connection, w'.executor.session = some connection →
      connection < w.line.nextConnection ∧ w.line.Settles connection)
    (held : ∀ key, w'.executor.activeSessionKey = some key → strip key = key ∧ PendingOf key w ∧
      ∀ connection, w'.executor.session = some connection →
        w.provenance.started connection = some key)
    (manned : ∀ n, w'.threads n = .running → w'.executor.activeSessionKey ≠ none ∧
      w'.capture.sessionKey = w'.executor.activeSessionKey)
    (returned : w'.busy = false → Returned w') (h : Custody w) : Custody w' := by
  refine ⟨?_, ?_, ?_, ?_, ?_, manned, returned⟩
  · rw [untouched.line]
    exact h.numbered
  · rw [untouched.started, untouched.line]
    exact h.started
  · rw [untouched.pending, untouched.frames, h.mirrors]
  · rw [untouched.line]
    exact session
  · rw [untouched.started]
    intro key active
    obtain ⟨clean, mine, opened⟩ := held key active
    exact ⟨clean, (pendingOf_congr untouched.started untouched.pending).mpr mine, opened⟩

theorem of_writeSession {session : Option Nat} {answer : Except PyException Unit}
    (law : CustodyLaw .control (.writeSession session) w)
    (step : BridgeStep env .control (.writeSession session) w answer w') (h : Custody w) :
    Custody w' := by
  have untouched := untouched_of_step (.writeSession session) nofun nofun step
  obtain ⟨mid, ⟨-, rfl⟩ | ⟨-, rfl⟩, rfl⟩ := step.effect
  · refine of_untouched untouched ?_ ?_ h.manned ?_ h
    · intro connection opened
      obtain ⟨-, fresh⟩ := law connection opened
      exact ⟨fresh.opened, fresh.unused.settles⟩
    · intro key active
      refine ⟨(h.held key active).1, (h.held key active).2.1, fun connection opened => ?_⟩
      cases (law connection opened).2.inactive.symm.trans active
    · intro free
      refine returned_of_untouched untouched rfl ?_ (h.returned free)
      intro connection key opened
      cases free.symm.trans (law connection opened).1
  · exact of_untouched untouched h.session h.held h.manned
      (fun free => returned_of_untouched untouched rfl (h.returned free).active (h.returned free)) h

theorem of_writeActiveSessionKey {key : Option String} {answer : Except PyException Unit}
    (law : CustodyLaw .control (.writeActiveSessionKey key) w) (none : NoneRunning w)
    (step : BridgeStep env .control (.writeActiveSessionKey key) w answer w') (h : Custody w) :
    Custody w' := by
  have untouched := untouched_of_step (.writeActiveSessionKey key) nofun nofun step
  obtain ⟨mid, ⟨-, rfl⟩ | ⟨-, rfl⟩, rfl⟩ := step.effect
  · refine of_untouched untouched h.session (fun k active => (law k active).2)
      (fun n running => absurd running (none n)) ?_ h
    intro free
    refine returned_of_untouched untouched rfl ?_ (h.returned free)
    intro connection k opened active
    cases free.symm.trans (law k active).1
  · exact of_untouched untouched h.session h.held h.manned
      (fun free => returned_of_untouched untouched rfl (h.returned free).active (h.returned free)) h

/-- A frame that is put into the buffer comes from the connection of the session. -/
theorem of_append {frame : RFIDFrame} {answer : Except PyException Unit}
    (law : CustodyLaw t (.appendPendingTagFrame frame) w)
    (step : BridgeStep env t (.appendPendingTagFrame frame) w answer w') (h : Custody w) :
    Custody w' := by
  have same : Same w w' := same_of_step (.appendPendingTagFrame frame) (by simp) trivial step
  have traced := provenance_of_step step
  obtain ⟨connection, origin, session, inside⟩ : ∃ connection,
      w.provenance.origin t frame = some connection ∧ w.executor.session = some connection ∧
      (w.executor.activeSessionKey = none → w.busy = true) := by
    cases t <;> exact law
  cases answer with
  | error exc =>
      obtain ⟨-, -, -, rfl⟩ := step.interrupted rfl
      rw [Entry.traced] at traced
      exact of_same same rfl (.refl _) h.numbered (by rw [traced]) rfl h
      all_goals simp
  | ok _ =>
      have line := step.frame.1.line (by rintro ⟨⟩)
      obtain ⟨_, ⟨-, rfl⟩, rfl⟩ := step.effect_of_ok
      rw [Entry.traced, origin] at traced
      have of_started : ∀ key, w.provenance.started connection = some key →
          ∀ x ∈ [(frame, some connection)], w.provenance.Of key x := by
        rintro key started x last
        obtain rfl := List.mem_singleton.mp last
        exact ⟨connection, rfl, started⟩
      refine ⟨h.numbered, ?_, ?_, h.session, ?_, h.manned, ?_⟩
      · rw [traced]
        exact h.started
      · rw [traced, List.map_append, h.mirrors]
        rfl
      · intro key active
        obtain ⟨clean, mine, started⟩ := h.held key active
        refine ⟨clean, ?_, by rw [traced]; exact started⟩
        rw [PendingOf, traced]
        exact List.forall_mem_append.mpr ⟨mine, of_started key (started connection session)⟩
      · intro free
        have before := h.returned free
        refine ⟨?_, before.active, before.idle⟩
        obtain ⟨key, active⟩ : ∃ key, w.executor.activeSessionKey = some key := by
          apply Option.ne_none_iff_exists'.mp
          intro inactive
          cases free.symm.trans (inside inactive)
        rw [traced]
        refine List.forall_mem_append.mpr ⟨before.pending, fun x last => ?_⟩
        refine ⟨key, before.active connection key session active, ?_⟩
        exact of_started key ((h.held key active).2.2 connection session) x last

theorem of_clear {answer : Except PyException Unit}
    (step : BridgeStep env t .clearPendingTagFrames w answer w') (h : Custody w) : Custody w' := by
  have same : Same w w' := same_of_step .clearPendingTagFrames nofun trivial step
  have traced := provenance_of_step step
  cases answer with
  | error exc =>
      obtain ⟨-, -, -, rfl⟩ := step.interrupted rfl
      exact of_same same rfl (.refl _) h.numbered (by rw [traced]; rfl) rfl h
  | ok _ =>
      obtain ⟨_, ⟨-, rfl⟩, rfl⟩ := step.effect_of_ok
      have empty : ∀ {P : RFIDFrame × Option Nat → Prop},
          ∀ x ∈ (Entry.traced w.provenance ⟨t, .clearPendingTagFrames, .ok ()⟩).pending, P x := by
        intro P x buffered
        cases buffered
      refine ⟨h.numbered, ?_, by rw [traced]; rfl, h.session, ?_, h.manned, ?_⟩
      · rw [traced]
        exact h.started
      · intro key active
        obtain ⟨clean, -, started⟩ := h.held key active
        refine ⟨clean, ?_, by rw [traced]; exact started⟩
        rw [PendingOf, traced]
        exact empty
      · intro free
        have before := h.returned free
        refine ⟨?_, before.active, before.idle⟩
        rw [traced]
        exact empty

/-- A change of the marks, the threads or the runtime. -/
theorem of_marks (op : BridgeOp) {answer : Except PyException op.Answer}
    (step : BridgeStep env t op w answer w') (line : op.writes ≠ some .line)
    (frames : op.writes ≠ some .pendingTagFrames) (session : op.writes ≠ some .session)
    (key : op.writes ≠ some .activeSessionKey)
    (manned : ∀ n, w'.threads n = .running → w.executor.activeSessionKey ≠ none ∧
      w'.capture.sessionKey = w.executor.activeSessionKey)
    (returned : w'.busy = false → Returned w') (h : Custody w) : Custody w' := by
  refine of_untouched (untouched_of_step op line frames step) ?_ ?_ ?_ returned h
  · rw [step.frame.1.session session]
    exact h.session
  · rw [step.frame.1.activeSessionKey key, step.frame.1.session session]
    exact h.held
  · rw [step.frame.1.activeSessionKey key]
    exact manned

theorem returned_of_step (op : BridgeOp) {answer : Except PyException op.Answer}
    (step : BridgeStep env t op w answer w') (line : op.writes ≠ some .line)
    (frames : op.writes ≠ some .pendingTagFrames) (session : op.writes ≠ some .session)
    (key : op.writes ≠ some .activeSessionKey) (runtime : op.writes ≠ some .runtime)
    (h : Returned w) : Returned w' := by
  refine returned_of_untouched (untouched_of_step op line frames step)
    (step.frame.1.runtime runtime) ?_ h
  rw [step.frame.1.session session, step.frame.1.activeSessionKey key]
  exact h.active

/-- Every step within the laws keeps the custody. -/
theorem of_step (law : CustodyLaw t op w) (owner : OwnerLaw t op w)
    (step : BridgeStep env t op w answer w') (h : Custody w) : Custody w' := by
  have frame := step.frame.1
  cases op with
  | connect => exact of_connect step h
  | processRequest => exact of_processRequest step h
  | send connection request label =>
      obtain rfl := Ownership.control_of_law owner (fun _ => id) id nofun
      exact of_send law (owner rfl) step h
  | writeSession session =>
      obtain rfl := Ownership.control_of_law owner (fun _ => id) id nofun
      exact of_writeSession law step h
  | writeActiveSessionKey key =>
      obtain rfl := Ownership.control_of_law owner (fun _ => id) id nofun
      exact of_writeActiveSessionKey law owner.1 step h
  | appendPendingTagFrame frame => exact of_append law step h
  | clearPendingTagFrames => exact of_clear step h
  | startThread n =>
      obtain rfl := Ownership.control_of_law owner (fun _ => id) id nofun
      refine of_marks (.startThread n) step nofun nofun nofun nofun ?_ ?_ h
      · rw [frame.captureSessionKey nofun]
        exact fun _ _ => law
      · rw [frame.busy nofun]
        exact fun free => returned_of_step (.startThread n) step nofun nofun nofun nofun nofun
          (h.returned free)
  | threadEnds n =>
      refine of_marks (.threadEnds n) step nofun nofun nofun nofun ?_ ?_ h
      · rw [frame.captureSessionKey nofun]
        exact fun m running => h.manned m (Ownership.running_of_threadEnds step m running)
      · rw [frame.busy nofun]
        exact fun free => returned_of_step (.threadEnds n) step nofun nofun nofun nofun nofun
          (h.returned free)
  | writeCaptureSessionKey key =>
      obtain rfl := Ownership.control_of_law owner (fun _ => id) id nofun
      refine of_marks (.writeCaptureSessionKey key) step nofun nofun nofun nofun ?_ ?_ h
      · rw [frame.threads nofun]
        exact fun n running => absurd running (law n)
      · rw [frame.busy nofun]
        exact fun free => returned_of_step (.writeCaptureSessionKey key) step nofun nofun nofun
          nofun nofun (h.returned free)
  | writeRuntime runtime =>
      obtain rfl := Ownership.control_of_law owner (fun _ => id) id nofun
      have untouched := untouched_of_step (.writeRuntime runtime) nofun nofun step
      refine of_marks (.writeRuntime runtime) step nofun nofun nofun nofun ?_ ?_ h
      · rw [frame.captureSessionKey nofun, frame.threads nofun]
        exact h.manned
      · obtain ⟨mid, ⟨-, rfl⟩ | ⟨-, rfl⟩, rfl⟩ := step.effect
        · intro free
          have later := law free
          exact ⟨later.pending, later.active, later.idle⟩
        · intro free
          exact returned_of_untouched untouched rfl (h.returned free).active (h.returned free)
  | commandEntered command =>
      refine of_marks (.commandEntered command) step nofun nofun nofun nofun ?_ ?_ h
      · rw [frame.captureSessionKey nofun, frame.threads nofun]
        exact h.manned
      · intro free
        obtain ⟨mid, ⟨-, rfl⟩ | ⟨⟨-, mark, -⟩, rfl⟩, rfl⟩ := step.effect
        · cases free
        · cases mark
  | commandReturned command =>
      obtain rfl := Ownership.control_of_law owner (fun _ => id) id nofun
      refine of_marks (.commandReturned command) step nofun nofun nofun nofun ?_ ?_ h
      · rw [frame.captureSessionKey nofun, frame.threads nofun]
        exact h.manned
      · exact fun _ => returned_of_step (.commandReturned command) step nofun nofun nofun nofun
          nofun law
  | _ => exact of_plain step trivial nofun nofun nofun h

/-- What no call of the executor changes but a START request. -/
structure Aside (w w' : World) : Prop where
  line : w.line.Follows w'.line
  runtime : w'.runtime = w.runtime
  busy : w'.busy = w.busy
  running : ∀ n, w'.threads n = .running → w.threads n = .running

/-- What leaves the session and the marks alone, and the buffer to the session. -/
structure Placid (w w' : World) : Prop where
  same : Same w w'
  line : w.line.Follows w'.line
  pending : w'.provenance.pending = w.provenance.pending ∨
    ∃ key, w.executor.activeSessionKey = some key ∧ PendingOf key w'

/-- What the other threads do, as the control thread sees it. -/
structure Calm (w w' : World) : Prop extends Placid w w' where
  captureKey : w'.capture.sessionKey = w.capture.sessionKey
  unused : ∀ connection, w.line.Unused connection → w'.line.Unused connection
  taken : w'.provenance.taken .control = w.provenance.taken .control
  receives : w'.provenance.receives .control = w.provenance.receives .control

theorem Placid.aside (h : Placid w w') : Aside w w' :=
  ⟨h.line, h.same.runtime, h.same.busy, h.same.running⟩

theorem placid_of_plain (step : BridgeStep env t op w answer w') (part : beside op.writes)
    (line : op.writes ≠ some .line) (untraced : op.isTraced = false) : Placid w w' := by
  have traced := provenance_of_untraced untraced step
  have same : Same w w' := by
    refine same_of_step op ?_ part step
    rintro connection request label rfl
    exact line rfl
  refine ⟨same, ?_, .inl (by rw [traced])⟩
  rw [step.frame.1.line line]
  exact .refl _

theorem calm_of_plain (step : BridgeStep env t op w answer w') (part : beside op.writes)
    (line : op.writes ≠ some .line) (captureKey : op.writes ≠ some .captureSessionKey)
    (untraced : op.isTraced = false) : Calm w w' := by
  have traced := provenance_of_untraced untraced step
  refine ⟨placid_of_plain step part line untraced, step.frame.1.captureSessionKey captureKey, ?_,
    by rw [traced], by rw [traced]⟩
  rw [step.frame.1.line line]
  exact fun _ => id

theorem calm_of_connect {answer : Except PyException Nat}
    (step : BridgeStep env t .connect w answer w') : Calm w w' := by
  have traced : w'.provenance = w.provenance := provenance_of_untraced rfl step
  have same : Same w w' := same_of_step .connect nofun trivial step
  refine ⟨⟨same, ?_, .inl (by rw [traced])⟩, step.frame.1.captureSessionKey nofun, ?_,
    by rw [traced], by rw [traced]⟩
  · obtain ⟨_, (⟨-, rfl⟩ | ⟨-, rfl⟩) | ⟨-, rfl⟩, rfl⟩ := step.effect
    · exact .opens _
    · exact .refl _
    · exact .refl _
  · obtain ⟨_, (⟨-, rfl⟩ | ⟨-, rfl⟩) | ⟨-, rfl⟩, rfl⟩ := step.effect
    · exact fun _ h => ⟨h.wire, h.answered⟩
    · exact fun _ => id
    · exact fun _ => id

theorem calm_of_off (off : op.offCustody) (step : BridgeStep env .control op w answer w') :
    Calm w w' := by
  cases op with
  | connect => exact calm_of_connect step
  | _ => first | exact off.elim | exact calm_of_plain step trivial nofun nofun rfl

theorem law_of_off (off : op.offCustody) : CustodyLaw .control op w := by
  cases op with
  | store op =>
      cases op with
      | ingestFinalActiveTagFrames | getOrCreateEvent => exact off.elim
      | _ =>
          refine ⟨off, ?_⟩
          rintro _ _ ⟨⟩
  | _ => first | exact off.elim | trivial

/-- A capture thread that takes a step is alive. -/
theorem running_of_law {n : Nat} (owner : OwnerLaw (.capture n) op w)
    (begun : op ≠ .threadBegins n) : w.threads n = .running :=
  owner.2.resolve_left begun

/-- What a thread has received and taken, the others leave alone. -/
theorem noted_of_others {u : Thread} (other : t ≠ u) (step : BridgeStep env t op w answer w') :
    w'.provenance.taken u = w.provenance.taken u ∧
      w'.provenance.receives u = w.provenance.receives u := by
  rw [provenance_of_step step]
  have apart : u ≠ t := other.symm
  cases op with
  | send _ request _ =>
      rw [Entry.traced]
      split <;> exact ⟨rfl, rfl⟩
  | receive | readPendingTagFrames =>
      cases answer with
      | error _ => exact ⟨rfl, rfl⟩
      | ok _ => simp [Entry.traced, apart]
  | _ => cases answer <;> exact ⟨rfl, rfl⟩

/-- A capture thread keeps the buffer for the session of the executor. -/
theorem calm_of_buffer (other : t ≠ .control) (owner : OwnerLaw t op w)
    (begun : ∀ n, ¬ op.delivers ∧ op ≠ .threadBegins n ∧ op ≠ .processRequest)
    (step : BridgeStep env t op w answer w') (part : beside op.writes)
    (line : op.writes ≠ some .line) (captureKey : op.writes ≠ some .captureSessionKey)
    (h : Custody w) (next : Custody w') : Calm w w' := by
  have same : Same w w' := by
    refine same_of_step op ?_ part step
    rintro connection request label rfl
    exact line rfl
  obtain ⟨taken, receives⟩ := noted_of_others other step
  refine ⟨⟨same, ?_, .inr ?_⟩, step.frame.1.captureSessionKey captureKey, ?_, taken, receives⟩
  · rw [step.frame.1.line line]
    exact .refl _
  · cases t with
    | control => exact absurd rfl other
    | delivery n => exact absurd owner (begun 0).1
    | reader => exact absurd owner (begun 0).2.2
    | capture n =>
        obtain ⟨active, -⟩ := h.manned n (running_of_law owner (begun n).2.1)
        obtain ⟨key, active⟩ := Option.ne_none_iff_exists'.mp active
        exact ⟨key, active, (next.held key (same.key.trans active)).2.1⟩
  · rw [step.frame.1.line line]
    exact fun _ => id

/-- What the other threads do is calm. -/
theorem calm_of_others (other : t ≠ .control) (law : CustodyLaw t op w) (owner : OwnerLaw t op w)
    (step : BridgeStep env t op w answer w') (h : Custody w) : Calm w w' := by
  have next := of_step law owner step h
  cases op with
  | processRequest =>
      have traced : w'.provenance = w.provenance := provenance_of_untraced rfl step
      have same : Same w w' := same_of_step .processRequest nofun trivial step
      refine ⟨⟨same, ?_, .inl (by rw [traced])⟩, step.frame.1.captureSessionKey nofun, ?_,
        by rw [traced], by rw [traced]⟩
      · obtain ⟨_, ⟨-, l, taken, rfl⟩ | ⟨-, rfl⟩, rfl⟩ := step.effect
        · exact .step taken
        · exact .refl _
      · obtain ⟨_, ⟨-, l, taken, rfl⟩ | ⟨-, rfl⟩, rfl⟩ := step.effect
        · exact fun _ h => h.step taken
        · exact fun _ => id
  | threadEnds n =>
      have frame := step.frame.1
      have traced : w'.provenance = w.provenance := provenance_of_untraced rfl step
      refine ⟨⟨⟨frame.session nofun, frame.activeSessionKey nofun,
        frame.runtime nofun, frame.busy nofun, by rw [traced],
        Ownership.running_of_threadEnds step⟩, ?_, .inl (by rw [traced])⟩,
        frame.captureSessionKey nofun, ?_, by rw [traced], by rw [traced]⟩
      · rw [frame.line nofun]
        exact .refl _
      · rw [frame.line nofun]
        exact fun _ => id
  | receive _ _ | readPendingTagFrames | appendPendingTagFrame _ | clearPendingTagFrames =>
      exact calm_of_buffer other owner (fun _ => ⟨id, nofun, nofun⟩) step trivial nofun nofun h next
  | connect | send _ _ _ | writeSession _ | writeActiveSessionKey _ | writeCaptureSessionKey _
  | startThread _ | writeRuntime _ | commandEntered _ | commandReturned _ =>
      exact absurd (Ownership.control_of_law owner (fun _ => id) id nofun) other
  | _ => exact calm_of_plain step trivial nofun nofun rfl

theorem discipline : Actor.Discipline (ownedExec env) CustodyLaw .control Custody Calm where
  keeps _ _ _ _ _ law step h := of_step law step.2.1 step.1 h
  others _ _ _ _ _ other law step h := calm_of_others other law step.2.1 step.1 h

/-- The control thread, under the law of the custody. -/
abbrev keeper (env : BridgeEnv) : Actor BridgeOp BridgeOp.Answer PyException World :=
  Actor.member (ownedExec env) CustodyLaw .control

/-- An assertion beside the custody. -/
abbrev Holds (P : World → Prop) : World → Prop := Actor.Under Custody P

theorem controlActor : ControlActor env (keeper env) where
  steps _ _ _ _ step := step.1
  runtime w w' rely := by
    have stable : (keeper env).Stable fun w' => w'.runtime = w.runtime := by
      apply Actor.stable_member
      intro t op w₁ answer w₂ other step law h
      have unwritten : op.writes ≠ some .runtime := by
        intro written
        cases op with
        | writeRuntime _ =>
            exact other (Ownership.control_of_law step.2.1 (fun _ => id) id nofun)
        | _ => cases written
      exact (step.1.frame.1.runtime unwritten).trans h
    exact stable w w' rfl rely

/-- The executor has no session. -/
def Off (w : World) : Prop := w.executor.session = none ∧ w.executor.activeSessionKey = none

/-- The executor has this session. -/
def On (key : String) (w : World) : Prop :=
  w.executor.session ≠ none ∧ w.executor.activeSessionKey = some key

/-- The buffer is kept for this session, whether it has been begun or not. -/
def Kept (key : String) (w : World) : Prop :=
  PendingOf key w ∧ ∀ k, w.executor.activeSessionKey = some k → k = key

/-- The same, where the session is either off or on. -/
def Working (key : String) (w : World) : Prop := Kept key w ∧ (Off w ∨ On key w)

/-- Neither a frame nor a session is left. -/
def Cleared (w : World) : Prop := w.provenance.pending = [] ∧ Off w

section
variable {P P' S : World → Prop} {key : String}

theorem lasts_aside (lasts : Actor.Lasts Aside S) : Actor.Lasts Placid S :=
  fun w w' placid => lasts w w' placid.aside

theorem lasts_calm (lasts : Actor.Lasts Placid P) : Actor.Lasts Calm P :=
  fun w w' calm => lasts w w' calm.toPlacid

theorem lasts_off : Actor.Lasts Placid Off := by
  intro w w' placid h
  rw [Off, placid.same.session, placid.same.key]
  exact h

theorem lasts_on : Actor.Lasts Placid (On key) := by
  intro w w' placid h
  rw [On, placid.same.session, placid.same.key]
  exact h

theorem lasts_kept : Actor.Lasts Placid (Kept key) := by
  intro w w' placid h
  refine ⟨?_, ?_⟩
  · obtain same | ⟨k, active, mine⟩ := placid.pending
    · exact (pendingOf_congr placid.same.started same).mpr h.1
    · exact h.2 k active ▸ mine
  · rw [placid.same.key]
    exact h.2

theorem lasts_working : Actor.Lasts Placid (Working key) :=
  Actor.lasts_and lasts_kept (Actor.lasts_or lasts_off lasts_on)

theorem lasts_cleared : Actor.Lasts Placid Cleared := by
  intro w w' placid h
  refine ⟨?_, lasts_off w w' placid h.2⟩
  obtain same | ⟨k, active, -⟩ := placid.pending
  · exact same.trans h.1
  · cases h.2.2.symm.trans active

theorem lasts_noneRunning : Actor.Lasts Aside NoneRunning :=
  fun _ _ aside none n running => none n (aside.running n running)

theorem lasts_quiet : Actor.Lasts Aside fun w => w.line.Quiet :=
  fun _ _ aside => aside.line.quiet

theorem lasts_runtime {P : Bool → LocalReaderRuntime → Prop} :
    Actor.Lasts Aside fun w => P w.busy w.runtime := by
  intro w w' aside h
  rw [aside.busy, aside.runtime]
  exact h

theorem stable_holds (lasts : Actor.Lasts Calm P) : (keeper env).Stable (Holds P) :=
  discipline.stable lasts

theorem stable_facts (_ : PyException) : (keeper env).Stable (Holds fun _ => True) :=
  stable_holds Actor.lasts_true

theorem harmless_of_off (op : BridgeOp) (off : op.offCustody) :
    Harmless (ownedExec env) CustodyLaw Calm op :=
  fun _ _ _ step => ⟨law_of_off off, calm_of_off off step.1⟩

/-- Behind an exception that a try statement catches, `P` holds. -/
abbrev Raised (P : World → Prop) : PyException → World → Prop :=
  Fails (Holds fun _ => True) (Holds P)

theorem raised_of_holds {exc : PyException} {w : World} (h : Holds P w) : Raised P exc w :=
  ⟨h.weaken, fun _ => h⟩

theorem raised_mono {exc : PyException} {w : World} (h : Raised P exc w)
    (weaker : ∀ w, P w → P' w) : Raised P' exc w :=
  ⟨h.1, fun caught => ⟨(h.2 caught).1, weaker w (h.2 caught).2⟩⟩

theorem stable_raised (lasts : Actor.Lasts Calm P) (exc : PyException) :
    (keeper env).Stable (Raised P exc) :=
  fun w w' h rely => ⟨stable_facts exc w w' h.1 rely,
    fun caught => stable_holds lasts w w' (h.2 caught) rely⟩

theorem triple_off {α : Type} {p : Bridge α} (lasts : Actor.Lasts Calm P)
    (calls : p.Calls BridgeOp.offCustody) :
    (keeper env).Triple (Holds P) p (fun _ => Holds P) (Raised P) :=
  (keeps_harmless discipline lasts (calls.mono harmless_of_off)).triple.conseq (fun _ => id)
    (fun _ _ => id) fun _ _ => raised_of_holds

theorem triple_offOp (op : BridgeOp) (off : op.offCustody) (lasts : Actor.Lasts Calm P) :
    (keeper env).Triple (Holds P) (Prog.perform op : Bridge op.Answer) (fun _ => Holds P)
      (Raised P) :=
  triple_off lasts (Prog.calls_perform off)

/-- One operation, and what is left where it raises. -/
theorem triple_step (op : BridgeOp) {Q : op.Answer → World → Prop} (lasts : Actor.Lasts Calm P)
    (lasts' : ∀ value, Actor.Lasts Calm (Q value)) (lastsR : Actor.Lasts Calm P')
    (lawful : ∀ w, Holds P w → CustodyLaw .control op w)
    (returns : ∀ w value w', Holds P w → ownedExec env .control op w (.ok value) w' → Q value w')
    (raises : ∀ w exc w', Holds P w → ownedExec env .control op w (.error exc) w' → P' w') :
    (keeper env).Triple (Holds P) (Prog.perform op) (fun value => Holds (Q value)) (Raised P') :=
  discipline.triple_perform op lasts lasts' (stable_raised lastsR) lawful returns
    fun w exc w' h step facts => raised_of_holds ⟨facts, raises w exc w' h step⟩

end

end Custody
end RfidBridge
