import RfidBridge.Store.ClosedSessions
import RfidBridge.Store.SessionLifecycle
import RfidBridge.Worker.ThreadCalls
import RfidBridge.Worker.WorkerContract

/-!
The open sessions of the reader beside the runtime. The runtime forgets its session key
when the reader has stopped, before the session is closed, and an ABORT without a key in
the runtime is accepted for any session; as long as none of these is for another session
than the one left open, an idle runtime leaves no session open.
-/

namespace RfidBridge
open Database FinalRuntimeOrchestrator

/-- An ABORT that the runtime takes up while it remembers no session is for the session
that is still active on the reader, if there is one. -/
def AbortsOwnSession (env : BridgeEnv) (command : OdooRFIDCommand) (w : World) : Prop :=
  command.command = .abort → present w.runtime.sessionKey = false →
    ∀ transition, w.runtime.planCommand command = .ok transition → transition.duplicate = false →
      ∀ s ∈ w.db.activeSessions env.device.id, s.externalSessionKey = command.sessionKey

/-- The steps of the bridge under that condition. -/
def ownAbortsExec (env : BridgeEnv) :
    Pool.Exec Thread BridgeOp BridgeOp.Answer PyException World :=
  fun t op w answer w' => BridgeStep env t op w answer w' ∧
    ∀ command, op = .commandEntered command → AbortsOwnSession env command w

abbrev OwnAbortSteps (env : BridgeEnv) : BridgePool → BridgePool → Prop :=
  Pool.Steps (ownAbortsExec env) (BridgeBody env)

/-- No session of the reader is active. -/
def NoneOpen (env : BridgeEnv) (w : World) : Prop := w.db.activeSessions env.device.id = []

/-- At most the session of this key is. -/
def OnlyOpen (env : BridgeEnv) (key : String) (w : World) : Prop :=
  ∀ s ∈ w.db.activeSessions env.device.id, s.externalSessionKey = key

/-- Operations that leave the runtime, the marks and the sessions alone. -/
def BridgeOp.besideSessions : BridgeOp → Prop
  | .store op => op.Issued ∧ ¬ op.scope.sessions
  | .writeRuntime _ | .commandEntered _ | .commandReturned _ => False
  | _ => True

/-- When the control thread touches the sessions and the runtime. -/
def SessionLaw (env : BridgeEnv) : Thread → BridgeOp → World → Prop
  | .control, .store op, w => op.Issued ∧ (op.scope.sessions → w.busy = true)
  | .control, .writeRuntime runtime, w => runtime.readerCode = env.device.code ∧
      (w.busy = false → runtime.state = .idle → NoneOpen env w)
  | .control, .commandReturned _, w => w.runtime.state = .idle → NoneOpen env w
  | .control, _, _ => True
  | t, op, _ => op.belongs t

/-- The store and the runtime of the reader; outside process_command an idle runtime
leaves no session open. -/
structure SessionFacts (env : BridgeEnv) (since : Nat) (w : World) : Prop where
  keys : StoreKeys since w.db
  reader : w.db.enabledReader env.device.code = some env.device
  code : w.runtime.readerCode = env.device.code
  idle : w.busy = false → w.runtime.state = .idle → NoneOpen env w

/-- The sessions, the runtime and the mark are the same. -/
structure Still (w w' : World) : Prop where
  busy : w'.busy = w.busy
  runtime : w'.runtime = w.runtime
  sessions : w'.db.sessions = w.db.sessions

namespace OpenSessions

section
variable {db db' : Database} {deviceId : Nat} {key : String}

theorem activeSessions_congr (same : db'.sessions = db.sessions) :
    db'.activeSessions deviceId = db.activeSessions deviceId := by
  rw [Database.activeSessions, same]
  rfl

/-- A session that is not active closes the reader, if only its key was open. -/
theorem noneOpen_of_ended {since : Nat} (keys : StoreKeys since db)
    (only : ∀ s ∈ db.activeSessions deviceId, s.externalSessionKey = key) {s : RFIDSession}
    (member : s ∈ db.sessions.rows) (named : s.externalSessionKey = key)
    (ended : s.status ≠ .active) : db.activeSessions deviceId = [] := by
  refine List.eq_nil_iff_forall_not_mem.mpr fun other listed => ?_
  obtain ⟨row, -, active⟩ := mem_activeSessions.mp listed
  have same := keys.sessionKeys other row s member ((only other listed).trans named.symm)
  exact ended (same ▸ active)

/-- Finishing a session opens none. -/
theorem activeSessions_finished {utf8 : Utf8} {target : SessionStatus}
    {verb sessionKey readerCode : String} {now : Timestamp} {session : RFIDSession}
    (ends : target ≠ .active)
    (h : finishLocalSession utf8 target verb sessionKey readerCode now db = .ok (session, db')) :
    ∀ s ∈ db'.activeSessions deviceId, s ∈ db.activeSessions deviceId := by
  intro s listed
  obtain ⟨row, device, active⟩ := mem_activeSessions.mp listed
  obtain ⟨-, found, -, -, ⟨-, -, rfl⟩ | ⟨-, -, rfl⟩⟩ := finishLocalSession_eq_ok h
  · exact listed
  · obtain ⟨old, -⟩ | ⟨old, -, -, rfl⟩ := (mem_setStatus ..).mp row
    · exact mem_activeSessions.mpr ⟨old, device, active⟩
    · exact absurd active ends

/-- A session that is closed or cancelled leaves its reader without an active one. -/
theorem noneOpen_of_finished {utf8 : Utf8} {since : Nat} {target : SessionStatus}
    {verb sessionKey readerCode : String} {now : Timestamp} {session : RFIDSession}
    (ends : target ≠ .active) (keys : StoreKeys since db')
    (only : ∀ s ∈ db.activeSessions deviceId, s.externalSessionKey = strip sessionKey)
    (h : finishLocalSession utf8 target verb sessionKey readerCode now db = .ok (session, db')) :
    db'.activeSessions deviceId = [] := by
  obtain ⟨named, status⟩ := NamedBy.of_finishLocalSession h
  have still : ∀ s ∈ db'.activeSessions deviceId, s.externalSessionKey = strip sessionKey :=
    fun s listed => only s (activeSessions_finished ends h s listed)
  exact noneOpen_of_ended keys still named.member named.key (status ▸ ends)

/-- A session that cannot be finished was not active on the reader. -/
theorem noneOpen_of_refused {utf8 : Utf8} {since : Nat} {target : SessionStatus}
    {verb sessionKey readerCode : String} {now : Timestamp} {exc : PyException}
    (keys : StoreKeys since db)
    (only : ∀ s ∈ db.activeSessions deviceId, s.externalSessionKey = strip sessionKey)
    (reader : (db.deviceOf deviceId).map (·.code) = some (strip readerCode))
    (h : finishLocalSession utf8 target verb sessionKey readerCode now db = .error exc)
    (refused : exc.cls = .finalSessionError) : db.activeSessions deviceId = [] := by
  refine List.eq_nil_iff_forall_not_mem.mpr fun s listed => ?_
  obtain ⟨row, rfl, active⟩ := mem_activeSessions.mp listed
  have named := only s listed
  cases located : db.sessionByKey (strip sessionKey) with
  | none => exact sessionByKey_eq_none.mp located s row named
  | some found =>
      have key : found.externalSessionKey = strip sessionKey := by
        simpa using List.find?_some located
      obtain rfl := keys.sessionKeys found (List.mem_of_find?_eq_some located) s row
        (key.trans named.symm)
      simp only [finishLocalSession, bind_eq_error, located, reader, active, ne_eq,
        not_true_eq_false, if_false] at h
      obtain unsent | ⟨-, -, h⟩ := h
      -- the driver's own refusal is no FinalSessionError
      · obtain cls | cls := cls_of_sendText unsent <;> cases cls.symm.trans refused
      · split at h <;> cases h

/-- A START that returns has opened its own session, if any. -/
theorem onlyOpen_of_synchronize {utf8 : Utf8} {since : Nat} {command : OdooRFIDCommand}
    {device : ReaderDevice} {result : SessionSyncResult} (keys : StoreKeys since db')
    (reader : db.enabledReader command.readerCode = some device)
    (h : synchronizeStartCommand utf8 command db = .ok (result, db')) :
    ∀ s ∈ db'.activeSessions device.id, s.externalSessionKey = command.sessionKey := by
  obtain ⟨found, located, s, row, named, onReader, active⟩ := active_of_synchronize h
  obtain rfl : found = device := Option.some.inj (located.symm.trans reader)
  rw [← onReader, keys.activeSessions_eq row active]
  simp [named]

end

section
variable {env : BridgeEnv} {since : Nat} {t : Thread} {w w' : World} {op : BridgeOp}
  {answer : Except PyException op.Answer}

theorem besideSessions_of_captures (h : op.captures) : op.besideSessions := by
  cases op with
  | store op => cases op <;> first | exact h.elim | exact ⟨trivial, id⟩
  | _ => first | exact h.elim | trivial

theorem besideSessions_of_delivers (h : op.delivers) : op.besideSessions := by
  cases op with
  | store op =>
      obtain ⟨issued, passes | routine⟩ := h
      · cases op <;> first | exact ⟨issued, fun h => h⟩ | cases passes
      · cases op <;> first | exact ⟨issued, fun h => h⟩ | cases routine
  | _ => first | exact h.elim | trivial

theorem besideSessions_of_others (other : t ≠ .control) (law : SessionLaw env t op w) :
    op.besideSessions := by
  cases t with
  | control => exact absurd rfl other
  | capture n => exact besideSessions_of_captures (captures_of_polls law)
  | delivery n => exact besideSessions_of_delivers law
  | reader =>
      cases (show op = .processRequest from law)
      trivial

/-- What an operation does to the store, whether it is a transaction or not. -/
theorem storeFacts_of_step (issued : ∀ op', op = .store op' → op'.Issued)
    (step : BridgeStep env t op w answer w') (keys : StoreKeys since w.db) :
    StoreKeys since w'.db ∧ w'.db.devices = w.db.devices := by
  cases op with
  | store op =>
      cases answer with
      | ok value =>
          obtain ⟨now, ran⟩ := step.committed
          exact ⟨keys.run (issued op rfl) ran,
            devices_evolve (.single ⟨op, now, value, issued op rfl, ran⟩)⟩
      | error exc =>
          rw [step.rolledBack.1]
          exact ⟨keys, rfl⟩
  | _ =>
      rw [step.frame.1.db nofun]
      exact ⟨keys, rfl⟩

theorem still_of_beside (beside : op.besideSessions) (step : BridgeStep env t op w answer w') :
    Still w w' := by
  cases op with
  | store op =>
      refine ⟨step.frame.1.busy nofun, step.frame.1.runtime nofun, ?_⟩
      cases answer with
      | ok value =>
          obtain ⟨now, ran⟩ := step.committed
          exact sessions_run beside.1 beside.2 ran
      | error exc => rw [step.rolledBack.1]
  | _ =>
      first
      | exact beside.elim
      | exact ⟨step.frame.1.busy nofun, step.frame.1.runtime nofun,
          congrArg Database.sessions (step.frame.1.db nofun)⟩

theorem lasts_noneOpen : Actor.Lasts Still (NoneOpen env) := by
  intro w w' still none
  rw [NoneOpen, activeSessions_congr still.sessions]
  exact none

theorem lasts_onlyOpen {key : String} : Actor.Lasts Still (OnlyOpen env key) := by
  intro w w' still only
  rw [OnlyOpen, activeSessions_congr still.sessions]
  exact only

theorem lasts_runtime {P : Bool → LocalReaderRuntime → Prop} :
    Actor.Lasts Still fun w => P w.busy w.runtime := by
  intro w w' still h
  rw [still.busy, still.runtime]
  exact h

theorem issued_of_law {op' : StoreOp} (law : SessionLaw env t (.store op') w) : op'.Issued := by
  cases t with
  | control => exact law.1
  | capture n =>
      have beside : (BridgeOp.store op').besideSessions := besideSessions_of_others (by simp) law
      exact beside.1
  | delivery n =>
      have beside : (BridgeOp.store op').besideSessions := besideSessions_of_others (by simp) law
      exact beside.1
  | reader => cases law

/-- Every step within the law keeps the facts. -/
theorem sessionFacts_of_step (law : SessionLaw env t op w)
    (step : BridgeStep env t op w answer w') (h : SessionFacts env since w) :
    SessionFacts env since w' := by
  obtain ⟨keys, devices⟩ := storeFacts_of_step (fun op' same => by
    subst same
    exact issued_of_law law) step h.keys
  have reader : w'.db.enabledReader env.device.code = some env.device := by
    rw [Database.enabledReader, devices]
    exact h.reader
  by_cases beside : op.besideSessions
  · have still := still_of_beside beside step
    refine ⟨keys, reader, ?_, ?_⟩
    · rw [still.runtime]
      exact h.code
    · rw [still.busy, still.runtime]
      exact fun free idle => lasts_noneOpen w w' still (h.idle free idle)
  · have main : t = .control := by
      by_contra other
      exact beside (besideSessions_of_others other law)
    subst main
    cases op with
    | store op =>
        have inside : w.busy = true := by
          apply law.2
          by_contra outside
          exact beside ⟨law.1, outside⟩
        refine ⟨keys, reader, ?_, ?_⟩
        · rw [step.frame.1.runtime (by rintro ⟨⟩)]
          exact h.code
        · rw [step.frame.1.busy (by rintro ⟨⟩), inside]
          simp
    | writeRuntime runtime =>
        obtain ⟨_, ⟨-, rfl⟩ | ⟨-, rfl⟩, rfl⟩ := step.effect
        · exact ⟨h.keys, h.reader, law.1, law.2⟩
        · exact ⟨h.keys, h.reader, h.code, h.idle⟩
    | commandEntered command =>
        obtain ⟨_, ⟨-, rfl⟩ | ⟨-, rfl⟩, rfl⟩ := step.effect
        · exact ⟨h.keys, h.reader, h.code, by rintro ⟨⟩⟩
        · exact ⟨h.keys, h.reader, h.code, h.idle⟩
    | commandReturned command =>
        obtain ⟨_, ⟨-, rfl⟩ | ⟨-, rfl⟩, rfl⟩ := step.effect
        · exact ⟨h.keys, h.reader, h.code, fun _ => law⟩
        · exact ⟨h.keys, h.reader, h.code, h.idle⟩
    | _ => exact absurd trivial beside

theorem discipline :
    Actor.Discipline (ownAbortsExec env) (SessionLaw env) .control (SessionFacts env since)
      Still where
  keeps _ _ _ _ _ law step h := sessionFacts_of_step law step.1 h
  others _ _ _ _ _ other law step _ := still_of_beside (besideSessions_of_others other law) step.1

/-- The control thread, under the law of the sessions. -/
abbrev keeper (env : BridgeEnv) : Actor BridgeOp BridgeOp.Answer PyException World :=
  Actor.member (ownAbortsExec env) (SessionLaw env) .control

/-- An assertion beside the facts. -/
abbrev Holds (env : BridgeEnv) (since : Nat) (P : World → Prop) : World → Prop :=
  Actor.Under (SessionFacts env since) P

theorem controlActor : ControlActor env (keeper env) where
  steps _ _ _ _ step := step.1
  runtime w w' rely := by
    have stable : (keeper env).Stable fun w' => w'.runtime = w.runtime := by
      apply Actor.stable_member
      intro t op w₁ answer w₂ other step law h
      exact (still_of_beside (besideSessions_of_others other law) step.1).runtime.trans h
    exact stable w w' rfl rely

theorem law_of_beside (beside : op.besideSessions) : SessionLaw env .control op w := by
  cases op with
  | store op => exact ⟨beside.1, fun inside => absurd inside beside.2⟩
  | writeRuntime _ | commandReturned _ => exact beside.elim
  | _ => trivial

end

section
variable {env : BridgeEnv} {since : Nat} {P P' : World → Prop} {α : Type} {p : Bridge α}

theorem stable_holds (lasts : Actor.Lasts Still P) :
    (keeper env).Stable (Holds env since P) :=
  discipline.stable lasts

theorem stable_facts (_ : PyException) : (keeper env).Stable (Holds env since fun _ => True) :=
  stable_holds Actor.lasts_true

theorem harmless_of_beside (op : BridgeOp) (beside : op.besideSessions) :
    Harmless (ownAbortsExec env) (SessionLaw env) Still op :=
  fun _ _ _ step => ⟨law_of_beside beside, still_of_beside beside step.1⟩

theorem keeps_beside (lasts : Actor.Lasts Still P) (calls : p.Calls BridgeOp.besideSessions) :
    (keeper env).Keeps (Holds env since P) p :=
  keeps_harmless discipline lasts (calls.mono harmless_of_beside)

theorem keeps_capturing (lasts : Actor.Lasts Still P) (calls : p.Calls BridgeOp.captures) :
    (keeper env).Keeps (Holds env since P) p :=
  keeps_beside lasts (calls.mono fun _ => besideSessions_of_captures)

theorem keeps_op (op : BridgeOp) (lasts : Actor.Lasts Still P) (beside : op.besideSessions) :
    (keeper env).Keeps (Holds env since P) (Prog.perform op : Bridge op.Answer) :=
  keeps_beside lasts (Prog.calls_perform beside)

/-- A change of the runtime inside process_command. -/
theorem triple_updates {change : LocalReaderRuntime → Except PyException LocalReaderRuntime}
    (lasts : Actor.Lasts Still P) (lasts' : Actor.Lasts Still P')
    (busy : ∀ w, P w → w.busy = true)
    (code : ∀ runtime runtime', change runtime = .ok runtime' →
      runtime'.readerCode = runtime.readerCode)
    (moves : ∀ runtime w w', P w → change w.runtime = .ok runtime → w'.busy = w.busy →
      w'.db = w.db → w'.runtime = runtime → P' w') :
    (keeper env).Triple (Holds env since P)
      (updateRuntime (FinalWorkerCycle.collaborators env.device) change)
      (fun _ => Holds env since P')
      fun exc w => Holds env since P w ∧
        (exc.isException = true → ∃ runtime, change runtime = .error exc) := by
  refine triple_change controlActor discipline lasts lasts' ?_ ?_ ?_ ?_
  · exact harmless_of_beside .readRuntime trivial
  · intro runtime w answer w' step same
    exact ⟨step.1.frame.1.busy nofun, same,
      congrArg Database.sessions (step.1.frame.1.db nofun)⟩
  · intro runtime w h changed
    refine ⟨(code _ _ changed).trans h.1.code, fun free => ?_⟩
    rw [busy w h.2] at free
    cases free
  · intro runtime w w' h changed step
    refine moves runtime w w' h.2 changed (step.frame.1.busy nofun) (step.frame.1.db nofun) ?_
    obtain ⟨_, ⟨-, rfl⟩, rfl⟩ := step.effect_of_ok
    rfl

/-- A transaction of process_command, and what its refusal means. -/
theorem triple_store (op : StoreOp) {Q : op.Answer → World → Prop} {R : World → Prop}
    (lasts : Actor.Lasts Still P) (lasts' : ∀ value, Actor.Lasts Still (Q value))
    (lastsR : Actor.Lasts Still R) (issued : op.Issued) (busy : ∀ w, P w → w.busy = true)
    (ran : ∀ w w' now value, Holds env since P w → op.run env.sha now w.db = .ok (value, w'.db) →
      StoreKeys since w'.db → w'.busy = w.busy → w'.runtime = w.runtime → Q value w')
    (refuses : ∀ w now exc, Holds env since P w → op.run env.sha now w.db = .error exc →
      exc.cls = .finalSessionError → R w) :
    (keeper env).Triple (Holds env since P) (store op) (fun value => Holds env since (Q value))
      fun exc => Holds env since fun w => P w ∧ (exc.cls = .finalSessionError → R w) := by
  have lastsE : ∀ exc : PyException,
      Actor.Lasts Still fun w => P w ∧ (exc.cls = .finalSessionError → R w) :=
    fun _ => Actor.lasts_and lasts (Actor.lasts_imp lastsR)
  apply discipline.triple_perform (.store op) lasts lasts' fun exc => stable_holds (lastsE exc)
  · exact fun w h => ⟨issued, fun _ => busy w h.2⟩
  · intro w value w' h step
    obtain ⟨now, committed⟩ := step.1.committed
    exact ran w w' now value h committed (h.1.keys.run issued committed)
      (step.1.frame.1.busy nofun) (step.1.frame.1.runtime nofun)
  · intro w exc w' h step facts
    obtain ⟨same, own⟩ := step.1.rolledBack
    have still : Still w w' := ⟨step.1.frame.1.busy nofun, step.1.frame.1.runtime nofun,
      congrArg Database.sessions same⟩
    refine ⟨facts, lasts w w' still h.2, fun refused => ?_⟩
    obtain ⟨now, failed⟩ := own refused
    exact lastsR w w' still (refuses w now exc h failed refused)

/-- Inside a command for this session: no other session is open or remembered. -/
structure Inside (env : BridgeEnv) (key : String) (w : World) : Prop where
  busy : w.busy = true
  only : OnlyOpen env key w
  remembers : ∀ k, w.runtime.sessionKey = some k → k = key

/-- Between two commands: what the runtime remembers is the only session that may be open. -/
structure Rested (env : BridgeEnv) (w : World) : Prop where
  remembers : ∀ k, w.runtime.sessionKey = some k → k ≠ "" ∧ OnlyOpen env k w
  idle : w.runtime.state = .idle → NoneOpen env w

/-- Behind the try block of a command: an idle runtime leaves no session open. -/
structure Finishing (env : BridgeEnv) (key : String) (w : World) : Prop
    extends Inside env key w where
  idle : w.runtime.state = .idle → NoneOpen env w

theorem onlyOpen_of_noneOpen {key : String} {w : World} (none : NoneOpen env w) :
    OnlyOpen env key w := by
  rw [NoneOpen] at none
  rw [OnlyOpen, none]
  nofun

theorem lasts_inside {key : String} : Actor.Lasts Still (Inside env key) := by
  intro w w' still h
  refine ⟨still.busy.trans h.busy, lasts_onlyOpen w w' still h.only, ?_⟩
  rw [still.runtime]
  exact h.remembers

theorem lasts_rested : Actor.Lasts Still (Rested env) := by
  intro w w' still h
  refine ⟨?_, ?_⟩
  · rw [still.runtime]
    exact fun k same => ⟨(h.remembers k same).1, lasts_onlyOpen w w' still (h.remembers k same).2⟩
  · rw [still.runtime]
    exact fun idle => lasts_noneOpen w w' still (h.idle idle)

theorem lasts_finishing {key : String} : Actor.Lasts Still (Finishing env key) := by
  intro w w' still h
  refine ⟨lasts_inside w w' still h.toInside, ?_⟩
  rw [still.runtime]
  exact fun idle => lasts_noneOpen w w' still (h.idle idle)

theorem lasts_busy : Actor.Lasts Still fun w => w.busy = true :=
  lasts_runtime (P := fun busy _ => busy = true)

theorem lasts_ready : Actor.Lasts Still fun w => w.busy = true ∧ Rested env w :=
  Actor.lasts_and lasts_busy lasts_rested

theorem lasts_abortsOwn {command : OdooRFIDCommand} :
    Actor.Lasts Still (AbortsOwnSession env command) := by
  intro w w' still h
  rw [AbortsOwnSession, still.runtime, activeSessions_congr still.sessions]
  exact h

/-- A statement that fails inside a command leaves it inside. -/
theorem fails_of_inside {key : String} {exc : PyException} {w : World}
    (h : Holds env since (Inside env key) w) :
    Fails (Holds env since fun _ => True) (Holds env since (Inside env key)) exc w :=
  ⟨h.weaken, fun _ => h⟩

theorem stable_fails {key : String} (exc : PyException) :
    (keeper env).Stable
      (Fails (Holds env since fun _ => True) (Holds env since (Inside env key)) exc) :=
  fun w w' h rely => ⟨stable_facts exc w w' h.1 rely,
    fun caught => stable_holds lasts_inside w w' (h.2 caught) rely⟩

/-- A part of a command that leaves the sessions alone. -/
theorem triple_inside {key : String} (calls : p.Calls BridgeOp.besideSessions) :
    (keeper env).Triple (Holds env since (Inside env key)) p
      (fun _ => Holds env since (Inside env key))
      (Fails (Holds env since fun _ => True) (Holds env since (Inside env key))) :=
  CommandContract.fails_of_keeps (keeps_beside lasts_inside calls) fun _ => Actor.Under.weaken

theorem triple_capturing {key : String} (calls : p.Calls BridgeOp.captures) :
    (keeper env).Triple (Holds env since (Inside env key)) p
      (fun _ => Holds env since (Inside env key))
      (Fails (Holds env since fun _ => True) (Holds env since (Inside env key))) :=
  triple_inside (calls.mono fun _ => besideSessions_of_captures)

/-- A START opens its own session. -/
theorem triple_synchronize {command : OdooRFIDCommand}
    (mine : command.readerCode = env.device.code) :
    (keeper env).Triple
      (Holds env since fun w => Inside env command.sessionKey w ∧ NoneOpen env w)
      (store (.synchronizeStartCommand command))
      (fun _ => Holds env since (Inside env command.sessionKey))
      (Fails (Holds env since fun _ => True)
        (Holds env since (Inside env command.sessionKey))) := by
  apply (triple_store (.synchronizeStartCommand command)
    (Q := fun _ => Inside env command.sessionKey) (R := fun _ => True)
    (Actor.lasts_and lasts_inside lasts_noneOpen) (fun _ => lasts_inside) Actor.lasts_true trivial
    (fun _ h => h.1.busy) ?_ fun _ _ _ _ _ _ => trivial).conseq (fun _ => id) (fun _ _ => id)
  · exact fun exc w h => fails_of_inside ⟨h.1, h.2.1.1⟩
  · intro w w' now value h ran keys busy runtime
    refine ⟨busy.trans h.2.1.busy, ?_, ?_⟩
    · exact onlyOpen_of_synchronize keys (mine ▸ h.1.reader) ran
    · rw [runtime]
      exact h.2.1.remembers

/-- Closing the session leaves none open. -/
theorem triple_close (command : OdooRFIDCommand) :
    (keeper env).Triple (Holds env since (Inside env command.sessionKey))
      ((FinalWorkerCycle.collaborators env.device).closeLocalSession command.sessionKey
        command.readerCode)
      (fun _ => Holds env since (Finishing env command.sessionKey))
      (Fails (Holds env since fun _ => True)
        (Holds env since (Inside env command.sessionKey))) := by
  have closes : (keeper env).Triple (Holds env since (Inside env command.sessionKey))
      (store (.closeLocalSession command.sessionKey command.readerCode))
      (fun _ => Holds env since (Finishing env command.sessionKey))
      (Fails (Holds env since fun _ => True)
        (Holds env since (Inside env command.sessionKey))) := by
    apply (triple_store (.closeLocalSession command.sessionKey command.readerCode)
      (Q := fun _ => Finishing env command.sessionKey) (R := fun _ => True) lasts_inside
      (fun _ => lasts_finishing) Actor.lasts_true trivial (fun _ h => h.busy) ?_
      fun _ _ _ _ _ _ => trivial).conseq (fun _ => id) (fun _ _ => id)
    · exact fun exc w h => fails_of_inside ⟨h.1, h.2.1⟩
    · intro w w' now value h ran keys busy runtime
      have none : NoneOpen env w' := by
        have finished := (guard_eq_ok.mp ran).2
        refine noneOpen_of_finished (by decide) keys ?_ finished
        rw [OdooRFIDCommand.strip_sessionKey]
        exact h.2.only
      refine ⟨⟨busy.trans h.2.busy, onlyOpen_of_noneOpen none, ?_⟩, fun _ => none⟩
      rw [runtime]
      exact h.2.remembers
  apply Actor.Triple.seq stable_fails closes
  exact fun _ => Actor.triple_ret (stable_holds lasts_finishing) fun _ => id

/-- Cancelling leaves none open either, and where there is nothing to cancel none is. -/
theorem triple_cancel {command : OdooRFIDCommand} (mine : command.readerCode = env.device.code) :
    (keeper env).Triple (Holds env since (Inside env command.sessionKey))
      (cancelIfPresent (FinalWorkerCycle.collaborators env.device) command)
      (fun _ => Holds env since (Finishing env command.sessionKey))
      (Fails (Holds env since fun _ => True)
        (Holds env since (Inside env command.sessionKey))) := by
  have named : ∀ w, Inside env command.sessionKey w →
      ∀ s ∈ w.db.activeSessions env.device.id, s.externalSessionKey = strip command.sessionKey := by
    rw [OdooRFIDCommand.strip_sessionKey]
    exact fun _ h => h.only
  have cancels : (keeper env).Triple (Holds env since (Inside env command.sessionKey))
      (store (.cancelLocalSession command.sessionKey command.readerCode))
      (fun _ => Holds env since (Finishing env command.sessionKey))
      fun exc => Holds env since fun w =>
        Inside env command.sessionKey w ∧ (exc.cls = .finalSessionError → NoneOpen env w) := by
    apply triple_store (.cancelLocalSession command.sessionKey command.readerCode)
      (Q := fun _ => Finishing env command.sessionKey) (R := NoneOpen env) lasts_inside
      (fun _ => lasts_finishing) lasts_noneOpen trivial (fun _ h => h.busy)
    · intro w w' now value h ran keys busy runtime
      have none : NoneOpen env w' := noneOpen_of_finished (by decide) keys (named w h.2) ran
      refine ⟨⟨busy.trans h.2.busy, onlyOpen_of_noneOpen none, ?_⟩, fun _ => none⟩
      rw [runtime]
      exact h.2.remembers
    · intro w now exc h failed
      refine noneOpen_of_refused h.1.keys (named w h.2) ?_ failed
      rw [(deviceOf_of_enabledReader h.1.keys.devices h.1.reader).1, command.strip_readerCode, mine]
      rfl
  have stable : ∀ exc : PyException, (keeper env).Stable (Holds env since fun w =>
      Inside env command.sessionKey w ∧ (exc.cls = .finalSessionError → NoneOpen env w)) :=
    fun _ => stable_holds (Actor.lasts_and lasts_inside (Actor.lasts_imp lasts_noneOpen))
  have body : (keeper env).Triple (Holds env since (Inside env command.sessionKey))
      ((FinalWorkerCycle.collaborators env.device).cancelLocalSession command.sessionKey
        command.readerCode)
      (fun _ => Holds env since (Finishing env command.sessionKey))
      fun exc => Holds env since fun w =>
        Inside env command.sessionKey w ∧ (exc.cls = .finalSessionError → NoneOpen env w) :=
    Actor.Triple.seq stable cancels fun _ =>
      Actor.triple_ret (stable_holds lasts_finishing) fun _ => id
  apply Actor.Triple.handle body
  · exact fun _ => Actor.triple_ret (stable_holds lasts_finishing) fun _ => id
  · intro exc
    dsimp only
    split
    · rename_i refused
      exact Actor.triple_ret (stable exc) fun w h =>
        ⟨h.1, ⟨h.2.1, fun _ => h.2.2 refused⟩⟩
    · exact Actor.triple_raise (stable exc) fun w h => fails_of_inside ⟨h.1, h.2.1⟩

/-- A step of the runtime inside a command that keeps its session key or drops it. -/
theorem triple_marks {key : String} {P' : World → Prop}
    {change : LocalReaderRuntime → Except PyException LocalReaderRuntime}
    (lasts' : Actor.Lasts Still P')
    (keeps : ∀ runtime runtime', change runtime = .ok runtime' →
      runtime'.readerCode = runtime.readerCode ∧
      ∀ k, runtime'.sessionKey = some k → runtime.sessionKey = some k)
    (after : ∀ (w : World) runtime w', Inside env key w' → change w.runtime = .ok runtime →
      w'.runtime = runtime → P' w') :
    (keeper env).Triple (Holds env since (Inside env key))
      (updateRuntime (FinalWorkerCycle.collaborators env.device) change)
      (fun _ => Holds env since P')
      fun exc w => Holds env since (Inside env key) w ∧
        (exc.isException = true → ∃ runtime, change runtime = .error exc) := by
  apply triple_updates lasts_inside lasts' (fun _ h => h.busy)
    fun runtime runtime' changed => (keeps runtime runtime' changed).1
  intro runtime w w' h changed busy db same
  refine after w runtime w' ⟨busy.trans h.busy, ?_, ?_⟩ changed same
  · rw [OnlyOpen, db]
    exact h.only
  · rw [same]
    exact fun k named => h.remembers k ((keeps _ _ changed).2 k named)

theorem triple_markReaderStopped {key : String} :
    (keeper env).Triple (Holds env since (Inside env key))
      (updateRuntime (FinalWorkerCycle.collaborators env.device)
        LocalReaderRuntime.markReaderStopped)
      (fun _ => Holds env since (Inside env key))
      (Fails (Holds env since fun _ => True) (Holds env since (Inside env key))) := by
  refine (triple_marks lasts_inside ?_ fun _ _ _ inside _ _ => inside).conseq (fun _ => id)
    (fun _ _ => id) fun _ _ h => fails_of_inside h.1
  intro runtime runtime' marked
  simp only [LocalReaderRuntime.markReaderStopped, guard_eq_ok, Except.ok.injEq] at marked
  obtain ⟨-, rfl⟩ := marked
  exact ⟨rfl, nofun⟩

theorem triple_markReaderStarted {key : String} :
    (keeper env).Triple (Holds env since (Inside env key))
      (updateRuntime (FinalWorkerCycle.collaborators env.device)
        LocalReaderRuntime.markReaderStarted)
      (fun _ => Holds env since (Finishing env key))
      (Fails (Holds env since fun _ => True) (Holds env since (Inside env key))) := by
  refine (triple_marks lasts_finishing ?_ ?_).conseq (fun _ => id) (fun _ _ => id)
    fun _ _ h => fails_of_inside h.1
  · intro runtime runtime' marked
    simp only [LocalReaderRuntime.markReaderStarted, guard_eq_ok, Except.ok.injEq] at marked
    obtain ⟨-, -, rfl⟩ := marked
    exact ⟨rfl, fun _ => id⟩
  · rintro w runtime w' inside marked rfl
    simp only [LocalReaderRuntime.markReaderStarted, guard_eq_ok, Except.ok.injEq] at marked
    obtain ⟨-, -, same⟩ := marked
    refine ⟨inside, fun idle => ?_⟩
    rw [← same] at idle
    cases idle

theorem ready_of_inside {command : OdooRFIDCommand} {w : World}
    (inside : Inside env command.sessionKey w)
    (idle : w.runtime.state = .idle → NoneOpen env w) : w.busy = true ∧ Rested env w := by
  refine ⟨inside.busy, fun k same => ?_, idle⟩
  obtain rfl := inside.remembers k same
  exact ⟨command.sessionKey_clean.2, inside.only⟩

theorem triple_degrade (command : OdooRFIDCommand) (message : String) :
    (keeper env).Triple (Holds env since (Inside env command.sessionKey))
      (updateRuntime (FinalWorkerCycle.collaborators env.device)
        fun runtime => runtime.markDegraded message)
      (fun _ => Holds env since fun w => w.busy = true ∧ Rested env w)
      (Escapes (Holds env since fun _ => True)) := by
  refine (triple_marks lasts_ready ?_ ?_).conseq (fun _ => id) (fun _ _ => id)
    fun _ _ h => escapes_of_change (fun _ _ => LocalReaderRuntime.markDegraded_eq_error)
      h.1.weaken h.2
  · intro runtime runtime' marked
    simp only [LocalReaderRuntime.markDegraded, guard_eq_ok, Except.ok.injEq] at marked
    obtain ⟨-, rfl⟩ := marked
    exact ⟨rfl, fun _ => id⟩
  · rintro w runtime w' inside marked rfl
    simp only [LocalReaderRuntime.markDegraded, guard_eq_ok, Except.ok.injEq] at marked
    obtain ⟨-, same⟩ := marked
    refine ready_of_inside inside fun idle => ?_
    rw [← same] at idle
    cases idle

theorem triple_complete (command : OdooRFIDCommand) :
    (keeper env).Triple (Holds env since (Finishing env command.sessionKey))
      (updateRuntime (FinalWorkerCycle.collaborators env.device)
        fun runtime => runtime.markCommandCompleted command)
      (fun _ => Holds env since (Finishing env command.sessionKey))
      (Escapes (Holds env since fun _ => True)) := by
  have marks : ∀ runtime runtime', LocalReaderRuntime.markCommandCompleted runtime command =
      .ok runtime' → runtime'.readerCode = runtime.readerCode ∧
        runtime'.sessionKey = runtime.sessionKey ∧ runtime'.state = runtime.state := by
    intro runtime runtime' marked
    simp only [LocalReaderRuntime.markCommandCompleted, guard_eq_ok, Except.ok.injEq] at marked
    obtain ⟨-, -, rfl⟩ := marked
    exact ⟨rfl, rfl, rfl⟩
  refine (triple_updates lasts_finishing lasts_finishing (fun _ h => h.busy)
    (fun runtime runtime' marked => (marks runtime runtime' marked).1) ?_).conseq (fun _ => id)
    (fun _ _ => id) fun _ _ h => escapes_of_change
      (fun _ _ => LocalReaderRuntime.markCommandCompleted_eq_error) h.1.weaken h.2
  rintro runtime w w' h marked busy db rfl
  obtain ⟨-, key, state⟩ := marks _ _ marked
  refine ⟨⟨busy.trans h.busy, ?_, ?_⟩, ?_⟩
  · rw [OnlyOpen, db]
    exact h.only
  · rw [key]
    exact h.remembers
  · rw [state, NoneOpen, db]
    exact h.idle

theorem triple_startReader (command : OdooRFIDCommand) :
    (keeper env).Triple (Holds env since (Inside env command.sessionKey))
      (startReader (FinalWorkerCycle.collaborators env.device) command)
      (fun _ => Holds env since (Finishing env command.sessionKey))
      (Fails (Holds env since fun _ => True)
        (Holds env since (Inside env command.sessionKey))) := by
  apply Actor.Triple.seq stable_fails (triple_capturing (captures_start _ _))
  intro _
  apply Actor.Triple.seq stable_fails triple_markReaderStarted
  intro _
  apply (keeps_capturing lasts_finishing (captures_startCapture _ _)).triple.conseq (fun _ => id)
    (fun _ _ => id)
  exact fun _ _ h => fails_of_inside ⟨h.1, h.2.toInside⟩

theorem triple_stopReader (command : OdooRFIDCommand) :
    (keeper env).Triple (Holds env since (Inside env command.sessionKey))
      (stopReader (FinalWorkerCycle.collaborators env.device) command)
      (fun _ => Holds env since (Finishing env command.sessionKey))
      (Fails (Holds env since fun _ => True)
        (Holds env since (Inside env command.sessionKey))) := by
  apply Actor.Triple.seq stable_fails (triple_capturing (captures_stopCapture _ _))
  intro _
  apply Actor.Triple.seq stable_fails (triple_capturing (captures_stop _ _))
  intro _
  apply Actor.Triple.seq stable_fails triple_markReaderStopped
  intro _
  apply Actor.Triple.seq stable_fails (triple_capturing (captures_drainPendingTags _ _))
  exact fun _ => triple_close command

theorem triple_abortReader {command : OdooRFIDCommand}
    (mine : command.readerCode = env.device.code) :
    (keeper env).Triple (Holds env since (Inside env command.sessionKey))
      (abortReader (FinalWorkerCycle.collaborators env.device) command)
      (fun _ => Holds env since (Finishing env command.sessionKey))
      (Fails (Holds env since fun _ => True)
        (Holds env since (Inside env command.sessionKey))) := by
  apply Actor.Triple.seq stable_fails (triple_capturing (captures_stopCapture _ _))
  intro _
  apply Actor.Triple.seq stable_fails (triple_capturing captures_isActive)
  intro active
  apply Actor.Triple.seq stable_fails
    (Q := fun _ => Holds env since (Inside env command.sessionKey))
  · split
    · exact triple_capturing (captures_stop _ _)
    · exact triple_capturing captures_verifyIdle
  intro _
  apply Actor.Triple.seq stable_fails triple_markReaderStopped
  intro _
  apply Actor.Triple.seq stable_fails (triple_capturing (captures_drainPendingTags _ _))
  exact fun _ => triple_cancel mine

/-- Whatever is planned is planned for the only session that may be open. -/
theorem inside_of_planned {command : OdooRFIDCommand} {transition : RuntimeTransition}
    {w w' : World} (rested : Rested env w) (busy : w.busy = true)
    (own : AbortsOwnSession env command w)
    (planned : w.runtime.planCommand command = .ok transition)
    (plan : w.runtime.planNew command = .ok transition) (busy' : w'.busy = w.busy)
    (db : w'.db = w.db) (runtime : w'.runtime = transition.after) :
    Inside env command.sessionKey w' ∧ (command.command = .start → NoneOpen env w') := by
  have after := LocalReaderRuntime.planNew_eq_ok plan
  have started : command.command = .start → NoneOpen env w' := by
    intro start
    simp only [LocalReaderRuntime.planNew, start, LocalReaderRuntime.planStart, guard_eq_ok,
      not_not] at plan
    rw [NoneOpen, db]
    exact rested.idle plan.1
  refine ⟨⟨busy'.trans busy, ?_, ?_⟩, started⟩
  · cases kind : command.command with
    | start => exact onlyOpen_of_noneOpen (started kind)
    | stop =>
        simp only [LocalReaderRuntime.planNew, kind, LocalReaderRuntime.planStop, guard_eq_ok,
          not_not] at plan
        rw [OnlyOpen, db]
        exact (rested.remembers _ plan.2.1).2
    | abort =>
        simp only [LocalReaderRuntime.planNew, kind, LocalReaderRuntime.planAbort,
          guard_eq_ok] at plan
        rw [OnlyOpen, db]
        by_cases held : present w.runtime.sessionKey = true
        · have same : w.runtime.sessionKey = some command.sessionKey := by
            by_contra other
            exact plan.1 ⟨held, other⟩
          exact (rested.remembers _ same).2
        · refine own kind (Bool.eq_false_iff.mpr held) transition planned ?_
          rw [after]
  · rw [runtime, after]
    rintro k ⟨⟩
    rfl

theorem triple_begins {command : OdooRFIDCommand} {runtime : LocalReaderRuntime}
    {transition : RuntimeTransition} (planned : runtime.planCommand command = .ok transition)
    (mine : command.readerCode = runtime.readerCode)
    (plan : runtime.planNew command = .ok transition) :
    (keeper env).Triple
      (Holds env since fun w => ((w.busy = true ∧ Rested env w) ∧
        AbortsOwnSession env command w) ∧ w.runtime = runtime)
      (Prog.perform (BridgeOp.writeRuntime transition.after))
      (fun _ => Holds env since fun w => command.readerCode = env.device.code ∧
        Inside env command.sessionKey w ∧ (command.command = .start → NoneOpen env w))
      (Escapes (Holds env since fun _ => True)) := by
  have after := LocalReaderRuntime.planNew_eq_ok plan
  apply discipline.triple_perform (.writeRuntime transition.after)
    (Q := fun _ w => command.readerCode = env.device.code ∧
      Inside env command.sessionKey w ∧ (command.command = .start → NoneOpen env w))
  · exact Actor.lasts_and (Actor.lasts_and lasts_ready lasts_abortsOwn)
      (lasts_runtime (P := fun _ r => r = runtime))
  · exact fun _ => Actor.lasts_and (fun _ _ _ => id)
      (Actor.lasts_and lasts_inside (Actor.lasts_imp lasts_noneOpen))
  · exact fun exc w w' h rely => ⟨stable_facts exc w w' h.1 rely, h.2⟩
  · rintro w ⟨facts, ⟨⟨⟨busy, -⟩, -⟩, rfl⟩⟩
    rw [after]
    refine ⟨facts.code, fun free => ?_⟩
    rw [busy] at free
    cases free
  · rintro w _ w' ⟨facts, ⟨⟨⟨busy, rested⟩, own⟩, rfl⟩⟩ step
    refine ⟨mine.trans facts.code, ?_⟩
    refine inside_of_planned rested busy own planned plan (step.1.frame.1.busy nofun)
      (step.1.frame.1.db nofun) ?_
    obtain ⟨_, ⟨-, rfl⟩, rfl⟩ := step.1.effect_of_ok
    rfl
  · intro w exc w' _ step facts
    obtain ⟨rfl, -⟩ := step.1.interrupted rfl
    exact ⟨⟨facts, trivial⟩, nofun⟩

/-- The session that a failed START has created is cancelled, or nothing happens to it. -/
theorem triple_cancelCreated (command : OdooRFIDCommand) :
    (keeper env).Triple (Holds env since (Inside env command.sessionKey))
      ((FinalWorkerCycle.collaborators env.device).cancelLocalSession command.sessionKey
        command.readerCode)
      (fun _ => Holds env since (Inside env command.sessionKey))
      (Fails (Holds env since fun _ => True)
        (Holds env since (Inside env command.sessionKey))) := by
  have cancels : (keeper env).Triple (Holds env since (Inside env command.sessionKey))
      (store (.cancelLocalSession command.sessionKey command.readerCode))
      (fun _ => Holds env since (Inside env command.sessionKey))
      (Fails (Holds env since fun _ => True)
        (Holds env since (Inside env command.sessionKey))) := by
    apply (triple_store (.cancelLocalSession command.sessionKey command.readerCode)
      (Q := fun _ => Inside env command.sessionKey) (R := fun _ => True) lasts_inside
      (fun _ => lasts_inside) Actor.lasts_true trivial (fun _ h => h.busy) ?_
      fun _ _ _ _ _ _ => trivial).conseq (fun _ => id) (fun _ _ => id)
    · exact fun exc w h => fails_of_inside ⟨h.1, h.2.1⟩
    · intro w w' now value h ran keys busy runtime
      refine ⟨busy.trans h.2.busy, ?_, ?_⟩
      · exact fun s listed => h.2.only s (activeSessions_finished (by decide) ran s listed)
      · rw [runtime]
        exact h.2.remembers
  apply Actor.Triple.seq stable_fails cancels
  exact fun _ => Actor.triple_ret (stable_holds lasts_inside) fun _ => id

/-- What each step of process_command knows of the sessions. -/
def commandContract (env : BridgeEnv) (since : Nat) (command : OdooRFIDCommand) :
    CommandContract (keeper env) (FinalWorkerCycle.collaborators env.device) command where
  entered := Holds env since fun w => (w.busy = true ∧ Rested env w) ∧
    AbortsOwnSession env command w
  knows runtime := Holds env since fun w => ((w.busy = true ∧ Rested env w) ∧
    AbortsOwnSession env command w) ∧ w.runtime = runtime
  ready := Holds env since fun w => w.busy = true ∧ Rested env w
  cut := Holds env since fun _ => True
  begun := Holds env since fun w => command.readerCode = env.device.code ∧
    Inside env command.sessionKey w ∧ (command.command = .start → NoneOpen env w)
  synchronized _ := Holds env since (Inside env command.sessionKey)
  startFailed _ := Holds env since (Inside env command.sessionKey)
  failed := Holds env since (Inside env command.sessionKey)
  done := Holds env since (Finishing env command.sessionKey)
  completed := Holds env since (Finishing env command.sessionKey)
  stable_ready := stable_holds lasts_ready
  stable_cut := stable_holds Actor.lasts_true
  stable_startFailed _ := stable_holds lasts_inside
  stable_failed := stable_holds lasts_inside
  ready_of_knows _ _ h := ⟨h.1, h.2.1.1⟩
  readEntered := by
    have lasts : Actor.Lasts Still fun w => (w.busy = true ∧ Rested env w) ∧
        AbortsOwnSession env command w := Actor.lasts_and lasts_ready lasts_abortsOwn
    apply (triple_readRuntime controlActor (stable_holds lasts) ?_).conseq (fun _ => id)
    · exact fun runtime w h => ⟨h.1.1, h.1.2, h.2⟩
    · exact fun _ _ h => CommandContract.escapes_of_interrupt h.2 h.1.weaken
    · intro w answer w' h step
      obtain ⟨law, still⟩ := harmless_of_beside .readRuntime trivial w answer w' step
      exact ⟨⟨_, answer, step, law⟩, sessionFacts_of_step law step.1 h.1, lasts w w' still h.2⟩
  readReady := (triple_quiet controlActor discipline lasts_ready .readRuntime
    (harmless_of_beside _ trivial) rfl).conseq (fun _ => id) (fun _ _ => id)
    fun _ _ h => CommandContract.escapes_of_interrupt h.2 h.1.weaken
  failureAck message := (triple_ignoring (stable_holds lasts_ready)
    (keeps_op (.ack _) lasts_ready trivial)).conseq (fun _ => id) (fun _ _ => id)
      fun _ _ h => CommandContract.escapes_of_interrupt h.2 h.1.weaken
  resend runtime _ := (CommandContract.fails_of_keeps (keeps_beside lasts_ready
    (calls_sendCompletedSuccessAck env.device command (fun _ _ => ⟨trivial, id⟩) trivial))
      fun _ => Actor.Under.weaken).conseq (fun _ h => ⟨h.1, h.2.1.1⟩) (fun _ _ => id)
      fun _ _ => id
  begins _ _ planned mine plan := triple_begins planned mine plan
  synchronize start w h := triple_synchronize h.2.1 w ⟨h.1, h.2.2.1, h.2.2.2 start⟩
  startReader _ _ := triple_startReader command
  readerIsActive _ := (triple_isActive controlActor discipline lasts_inside
    (harmless_of_beside _ trivial) (harmless_of_beside _ trivial)).conseq (fun _ => id)
    (fun _ _ => id) fun _ _ h => CommandContract.escapes_of_interrupt h.2 h.1.weaken
  emergencyStop _ := by
    apply Actor.Triple.seq stable_fails (triple_capturing (captures_stopCapture _ _))
    intro _
    apply Actor.Triple.seq stable_fails (triple_capturing (captures_stop _ _))
    exact fun _ => triple_capturing (captures_drainPendingTags _ _)
  cancelCreated _ _ := triple_cancelCreated command
  degradeStart _ message := triple_degrade command message
  stopReader _ w h := triple_stopReader command w ⟨h.1, h.2.2.1⟩
  abortReader _ w h := triple_abortReader h.2.1 w ⟨h.1, h.2.2.1⟩
  degrade message := triple_degrade command message
  completes := triple_complete command
  successAck := (CommandContract.fails_of_keeps (keeps_beside lasts_finishing
    (calls_sendCompletedSuccessAck env.device command (fun _ _ => ⟨trivial, id⟩) trivial))
      fun _ => Actor.Under.weaken).conseq (fun _ => id)
      (fun _ w h => ⟨h.1, ready_of_inside h.2.toInside h.2.idle⟩)
      fun _ w h => ⟨h.1, fun caught =>
        ⟨h.1.1, ready_of_inside (h.2 caught).2.toInside (h.2 caught).2.idle⟩⟩

theorem stable_ending (_ : PyException) : (keeper env).Stable fun _ => True :=
  fun _ _ _ _ => trivial

theorem besideSessions_of_between {op : BridgeOp} (between : op.betweenCommands = true) :
    op.besideSessions := by
  cases op <;> trivial

theorem triple_ending {α : Type} {p : Bridge α}
    (lasts : Actor.Lasts Still P) (calls : p.Calls BridgeOp.besideSessions) :
    (keeper env).Triple (Holds env since P) p (fun _ => Holds env since P) fun _ _ => True :=
  (keeps_beside lasts calls).triple.conseq (fun _ => id) (fun _ _ => id) fun _ _ _ => trivial

/-- The reader has no active session if the startup counts none. -/
theorem triple_countActiveSessions :
    (keeper env).Triple (Holds env since fun _ => True)
      (store (.countActiveSessions env.device.id))
      (fun existingActive w => existingActive = 0 → Holds env since (NoneOpen env) w)
      fun _ _ => True := by
  have counts : (keeper env).Triple (Holds env since fun _ => True)
      (store (.countActiveSessions env.device.id))
      (fun existingActive => Holds env since fun w => existingActive = 0 → NoneOpen env w)
      fun _ _ => True := by
    apply discipline.triple_perform (.store (.countActiveSessions env.device.id))
      (Q := fun existingActive w => existingActive = 0 → NoneOpen env w) Actor.lasts_true
      (fun _ => Actor.lasts_imp lasts_noneOpen) stable_ending
    · exact fun _ _ => ⟨trivial, nofun⟩
    · intro w value w' _ step none
      obtain ⟨now, ran⟩ := step.1.committed
      obtain ⟨counted, same⟩ := Prod.mk.inj (Except.ok.inj ran)
      rw [NoneOpen, ← same]
      exact List.length_eq_zero_iff.mp (counted.trans none)
    · exact fun _ _ _ _ _ _ => trivial
  exact counts.conseq (fun _ => id) (fun _ w h none => ⟨h.1, h.2 none⟩) fun _ _ => id

theorem triple_markReaderVerifiedIdle :
    (keeper env).Triple (Holds env since (NoneOpen env))
      (markReaderVerifiedIdle (FinalWorkerCycle.collaborators env.device))
      (fun _ => Holds env since (Rested env)) fun _ _ => True := by
  have reads : (keeper env).Triple (Holds env since (NoneOpen env))
      (FinalWorkerCycle.collaborators env.device).readRuntime
      (fun runtime w => Holds env since (NoneOpen env) w ∧ w.runtime = runtime)
      fun _ _ => True := by
    apply (triple_readRuntime controlActor (stable_holds lasts_noneOpen) ?_).conseq (fun _ => id)
      (fun _ _ => id) fun _ _ _ => trivial
    intro w answer w' h step
    obtain ⟨law, still⟩ := harmless_of_beside .readRuntime trivial w answer w' step
    exact ⟨⟨_, answer, step, law⟩, sessionFacts_of_step law step.1 h.1,
      lasts_noneOpen w w' still h.2⟩
  apply Actor.Triple.seq stable_ending reads
  intro runtime
  split
  · exact fun _ _ => Actor.Sat.raise fun _ _ => trivial
  have lasts : Actor.Lasts Still fun w => NoneOpen env w ∧ w.runtime = runtime :=
    Actor.lasts_and lasts_noneOpen (lasts_runtime (P := fun _ r => r = runtime))
  apply (discipline.triple_perform (.writeRuntime _) (Q := fun _ => Rested env) lasts
    (fun _ => lasts_rested) stable_ending ?_ ?_ ?_).conseq (fun w h => ⟨h.1.1, h.1.2, h.2⟩)
    (fun _ _ => id) fun _ _ => id
  · rintro w ⟨facts, none, rfl⟩
    exact ⟨facts.code, fun _ _ => none⟩
  · rintro w _ w' ⟨facts, none, rfl⟩ step
    obtain ⟨_, ⟨-, rfl⟩, rfl⟩ := step.1.effect_of_ok
    exact ⟨nofun, fun _ => none⟩
  · exact fun _ _ _ _ _ _ => trivial

theorem stable_leaving (exc : PyException) :
    (keeper env).Stable
      (LeavesLoop (Holds env since fun _ => True) (Holds env since (Rested env)) exc) :=
  fun w w' h rely => ⟨stable_facts exc w w' h.1 rely,
    fun transport => stable_holds lasts_rested w w' (h.2 transport) rely⟩

theorem triple_enters (command : OdooRFIDCommand) :
    (keeper env).Triple (Holds env since (Rested env))
      (Prog.perform (BridgeOp.commandEntered command))
      (fun _ => Holds env since fun w => (w.busy = true ∧ Rested env w) ∧
        AbortsOwnSession env command w)
      (LeavesLoop (Holds env since fun _ => True) (Holds env since (Rested env))) := by
  apply discipline.triple_perform (.commandEntered command)
    (Q := fun _ w => (w.busy = true ∧ Rested env w) ∧ AbortsOwnSession env command w) lasts_rested
    (fun _ => Actor.lasts_and lasts_ready lasts_abortsOwn) stable_leaving
  · exact fun _ _ => trivial
  · rintro w _ w' h ⟨step, own⟩
    have mine := own command rfl
    obtain ⟨_, ⟨-, rfl⟩, rfl⟩ := step.effect_of_ok
    exact ⟨⟨rfl, h.2.remembers, h.2.idle⟩, mine⟩
  · intro w exc w' _ step _
    obtain ⟨-, -, mark, -⟩ := step.1.interrupted rfl
    cases mark

theorem triple_returns (command : OdooRFIDCommand) :
    (keeper env).Triple (Holds env since fun w => w.busy = true ∧ Rested env w)
      (Prog.perform (BridgeOp.commandReturned command)) (fun _ => Holds env since (Rested env))
      (LeavesLoop (Holds env since fun _ => True) (Holds env since (Rested env))) := by
  apply discipline.triple_perform (.commandReturned command) (Q := fun _ => Rested env)
    lasts_ready (fun _ => lasts_rested) stable_leaving
  · exact fun _ h => h.2.2.idle
  · intro w _ w' h step
    obtain ⟨_, ⟨-, rfl⟩, rfl⟩ := step.1.effect_of_ok
    exact ⟨h.2.2.remembers, h.2.2.idle⟩
  · intro w exc w' _ step _
    obtain ⟨-, -, mark, -⟩ := step.1.interrupted rfl
    cases mark

/-- What each part of the worker knows of the sessions. -/
def workerContract (env : BridgeEnv) (since : Nat) : WorkerContract (keeper env) env where
  inCommand := commandContract env since
  booting := Holds env since fun _ => True
  verified := Holds env since fun _ => True
  clean := Holds env since (NoneOpen env)
  waiting := Holds env since (Rested env)
  stopped := Holds env since fun _ => True
  stable_booting := stable_holds Actor.lasts_true
  stable_waiting := stable_holds lasts_rested
  stable_stopped := stable_holds Actor.lasts_true
  stopped_of_waiting _ := Actor.Under.weaken
  stopped_of_cut _ _ := id
  verifyIdle := triple_ending Actor.lasts_true
    (captures_verifyIdle.mono fun _ => besideSessions_of_captures)
  countActiveSessions := triple_countActiveSessions
  markReaderVerifiedIdle := triple_markReaderVerifiedIdle
  between op between := keeps_op op lasts_rested
    (besideSessions_of_between between)
  enters := triple_enters
  returns := triple_returns
  safeShutdownReader := (triple_ending Actor.lasts_true (captures_safeShutdownReader.mono
    fun _ => besideSessions_of_captures)).conseq (fun _ => id) (fun _ _ _ => trivial) fun _ _ => id

end

section
variable {env : BridgeEnv} {settings : CommandSettings} {c₀ c : BridgePool} {since : Nat}

theorem sound_body {t : Thread} {p : Bridge Unit} (body : BridgeBody env t p) (w : World) :
    (Actor.member (ownAbortsExec env) (SessionLaw env) t).Sat p (fun _ _ => True) w := by
  apply Actor.sat_member
  apply (belongs_of_body t p body).mono
  intro op mine w
  cases t with
  | control => cases body
  | _ => exact mine

theorem facts_of_started (started : Started env settings c₀)
    (keys : StoreKeys since c₀.state.db) : SessionFacts env since c₀.state where
  keys := keys
  reader := by
    rw [(deviceOf_of_enabledReader keys.devices started.registered).2.2]
    exact started.registered
  code := by rw [started.runtime, offlineRuntime]
  idle _ idle := by
    rw [started.runtime] at idle
    cases idle

theorem sound_of_started (started : Started env settings c₀)
    (facts : SessionFacts env since c₀.state) :
    c₀.Sound (Actor.member (ownAbortsExec env) (SessionLaw env)) fun _ _ _ => True := by
  intro t
  by_cases main : t = .control
  · subst main
    rw [started.control]
    exact ((workerContract env _).handle env.py settings c₀.state
      ⟨facts, trivial⟩).mono fun _ _ _ => trivial
  · rw [started.idle t main]
    exact Actor.Sat.ret fun _ _ => trivial

end
end OpenSessions

/-- Whenever process_command has returned and the runtime is idle, no session of the
reader is active, if every ABORT that the runtime takes up without a session is for the
session that is open. -/
theorem noneOpen_of_run {env : BridgeEnv} {settings : CommandSettings} {c₀ c : BridgePool}
    {since : Nat} (started : Started env settings c₀) (keys : StoreKeys since c₀.state.db)
    (run : OwnAbortSteps env c₀ c) (quiet : c.state.busy = false)
    (idle : c.state.runtime.state = .idle) : c.state.db.activeSessions env.device.id = [] := by
  have facts := OpenSessions.facts_of_started started keys
  have kept : SessionFacts env since c.state := by
    refine Pool.invariant_steps Actor.compatible_member
      (fun _ _ w body _ => OpenSessions.sound_body body w) ?_ run
      (OpenSessions.sound_of_started started facts) facts
    rintro t _ w _ w' - ⟨op, answer, step, law⟩ facts
    exact OpenSessions.sessionFacts_of_step law step.1 facts
  exact kept.idle quiet idle

namespace Installation

/-- A tag frame without a payload, which nothing can be read from. -/
def spoiledTag : RFIDFrame := frameOf commandActiveTag []

/-- A START and a STOP of S1, whose drain fails on a spoiled tag, and an ABORT of the
given session. -/
def spoiledStop (sessionKey : String) : Script
  | _, .receive _ expectedCommands =>
      if commandStartInventory ∈ expectedCommands then .ok [startResponse]
      else if commandActiveTag ∈ expectedCommands ∧ commandStop ∈ expectedCommands then
        .ok [spoiledTag, stopResponse]
      else if commandStop ∈ expectedCommands then .ok [stopResponse]
      else .ok []
  | _, .commands => .ok [commandPayload "start" 1, commandPayload "stop" 2,
      .dict [("session_key", .str sessionKey), ("reader_code", .str "GATE-1"),
        ("command", .str "abort"), ("revision", .int 3)]]
  | w, op => session w op

def spoiledTurns : List (Thread × Nat) :=
  [(.control, 3), (.reader, 2), (.control, 19), (.reader, 2), (.control, 27), (.capture 0, 8),
    (.control, 9), (.reader, 2), (.control, 29), (.reader, 2), (.control, 12)]

/-- What is left when a command has returned. -/
def leftOpen (c : BridgePool) : Bool × RuntimeState × List String :=
  (c.state.busy, c.state.runtime.state,
    (c.state.db.activeSessions reader.id).map (·.externalSessionKey))

/-- Whether a command is for the open session, whatever the runtime makes of it. -/
def forOpenSession (w : World) : BridgeOp → Bool
  | .commandEntered command =>
      (w.db.activeSessions reader.id).all fun s => s.externalSessionKey == command.sessionKey
  | _ => true

/-- A step under a script, as long as every command is for the open session. -/
def respondOwn (script : Script) (t : Thread) (op : BridgeOp) (w : World) :
    Option (Except PyException op.Answer × World) :=
  if forOpenSession w op then respondLogged env script t op w else none

theorem ownAborts_of_respond {script : Script} (t : Thread) (op : BridgeOp) (w : World)
    (answer : Except PyException op.Answer) (w' : World)
    (h : respondOwn script t op w = some (answer, w')) : ownAbortsExec env t op w answer w' := by
  unfold respondOwn at h
  split at h
  · rename_i own
    refine ⟨bridgeStep_of_respond t op w answer w' h, ?_⟩
    rintro command rfl - - transition - - s listed
    exact eq_of_beq (List.all_eq_true.mp own s listed)
  · cases h

theorem storeKeys_pool : StoreKeys 1 pool.state.db where
  devices := by decide
  eventKeys _ := nofun
  sessionKeys _ := nofun
  oneActive _ := nofun
  created _ := nofun

end Installation

open Installation in
/-- The ABORT of the session that the failed STOP has left open. -/
theorem noneOpen_of_run_aborted : ∃ c, OwnAbortSteps env pool c ∧
    c.state.db.activeSessions env.device.id = [] := by
  have seen : (Pool.follow (respondOwn (spoiledStop "S1")) (nextBody env deliverySettings)
      (spoiledTurns.flatMap fun turn => List.replicate turn.2 turn.1) pool).map
        (fun c => (c.state.busy, c.state.runtime.state)) = some (false, .idle) := by
    decide +kernel
  obtain ⟨c, ran, same⟩ := Option.map_eq_some_iff.mp seen
  simp only [Prod.mk.injEq] at same
  have run : OwnAbortSteps env pool c :=
    Pool.steps_of_follow ownAborts_of_respond body_of_next ran
  exact ⟨c, run, noneOpen_of_run started_pool storeKeys_pool run same.1 same.2⟩

open Installation in
/-- The ABORT of another session, after which S1 is open and the runtime is idle. -/
theorem foreign_abort_left_open : ∃ c, BridgeSteps env pool c ∧ c.state.busy = false ∧
    c.state.runtime.state = .idle ∧
    (c.state.db.activeSessions env.device.id).map (·.externalSessionKey) = ["S1"] := by
  have seen : (runSchedule env deliverySettings (spoiledStop "S2") spoiledTurns pool).map
      leftOpen = some (false, .idle, ["S1"]) := by
    decide +kernel
  obtain ⟨c, ran, same⟩ := Option.map_eq_some_iff.mp seen
  simp only [leftOpen, Prod.mk.injEq] at same
  exact ⟨c, bridgeSteps_of_runSchedule ran, same.1, same.2.1, same.2.2⟩

end RfidBridge
