import RfidBridge.Worker.Correlation

/-!
The success acknowledgement of a STOP. The control thread sends it behind the delivery
barrier, for a session that it closed before; so every final event of the session has
reached Odoo, and stays as it is.
-/

namespace RfidBridge
open FinalRuntimeOrchestrator

/-- What the control thread knows of its store between two operations. -/
structure StoreFacts (env : BridgeEnv) (since : Nat) (db : Database) : Prop where
  sound : StoreSound since db
  reader : db.enabledReader env.device.code = some env.device
  noneStale : NoneStale since env.device.id db

/-- And what its runtime remembers of the store. -/
structure RuntimeFacts (env : BridgeEnv) (since : Nat) (r : LocalReaderRuntime) (db : Database) :
    Prop extends StoreFacts env since db where
  code : r.readerCode = env.device.code
  reading : r.state = .reading → ∃ key, r.sessionKey = some key ∧ Known since key db
  stopped : r.completedCommand = some .stop →
    ∀ key, r.completedSessionKey = some key → Finished since key db

/-- An assertion about the runtime and the store. -/
def At (P : LocalReaderRuntime → Database → Prop) (w : World) : Prop := P w.runtime w.db

/-- The transactions of others do not disturb the assertion. -/
def Lasting (sha : Sha256) (P : LocalReaderRuntime → Database → Prop) : Prop :=
  ∀ r db db', Evolves sha db db' → P r db → P r db'

/-- The facts when the command is recorded as completed, or about to be. -/
structure CompletedFacts (env : BridgeEnv) (since : Nat) (command : OdooRFIDCommand)
    (r : LocalReaderRuntime) (db : Database) : Prop extends RuntimeFacts env since r db where
  finished : command.command = .stop → Finished since command.sessionKey db

section
variable {env : BridgeEnv} {since : Nat}

theorem storeFacts_evolve {db db' : Database} (h : Evolves env.sha db db')
    (facts : StoreFacts env since db) : StoreFacts env since db' := by
  refine ⟨facts.sound.evolves h, ?_, facts.noneStale.evolves h facts.sound⟩
  rw [Database.enabledReader, devices_evolve h]
  exact facts.reader

theorem lasting_runtimeFacts : Lasting env.sha (RuntimeFacts env since) := by
  intro r db db' h facts
  refine ⟨storeFacts_evolve h facts.toStoreFacts, facts.code, ?_, ?_⟩
  · intro reading
    obtain ⟨key, same, known⟩ := facts.reading reading
    exact ⟨key, same, known.evolves h⟩
  · exact fun stop key same => (facts.stopped stop key same).evolves h

theorem lasting_completedFacts {command : OdooRFIDCommand} :
    Lasting env.sha (CompletedFacts env since command) := by
  intro r db db' h facts
  exact ⟨lasting_runtimeFacts r db db' h facts.toRuntimeFacts,
    fun stop => (facts.finished stop).evolves h⟩

/-- A step of the runtime that leaves READING and forgets what was completed. -/
theorem RuntimeFacts.forget {r r' : LocalReaderRuntime} {db : Database}
    (facts : RuntimeFacts env since r db) (code : r'.readerCode = r.readerCode)
    (state : r'.state ≠ .reading) (completed : r'.completedCommand = none) :
    RuntimeFacts env since r' db := by
  refine ⟨facts.toStoreFacts, code.trans facts.code, fun reading => absurd reading state, ?_⟩
  intro stop
  rw [completed] at stop
  cases stop

theorem runtimeFacts_degraded {r r' : LocalReaderRuntime} {db : Database} {message : String}
    (facts : RuntimeFacts env since r db) (h : r.markDegraded message = .ok r') :
    RuntimeFacts env since r' db := by
  simp only [LocalReaderRuntime.markDegraded, guard_eq_ok, Except.ok.injEq] at h
  obtain ⟨-, rfl⟩ := h
  exact facts.forget rfl (by rintro ⟨⟩) rfl

theorem runtimeFacts_stopped {r r' : LocalReaderRuntime} {db : Database}
    (facts : RuntimeFacts env since r db) (h : r.markReaderStopped = .ok r') :
    RuntimeFacts env since r' db := by
  simp only [LocalReaderRuntime.markReaderStopped, guard_eq_ok, Except.ok.injEq] at h
  obtain ⟨-, rfl⟩ := h
  exact facts.forget rfl nofun rfl

theorem runtimeFacts_started {r r' : LocalReaderRuntime} {db : Database} {key : String}
    (facts : RuntimeFacts env since r db) (mine : r.sessionKey = some key)
    (known : Known since key db) (h : r.markReaderStarted = .ok r') :
    RuntimeFacts env since r' db := by
  simp only [LocalReaderRuntime.markReaderStarted, guard_eq_ok, Except.ok.injEq] at h
  obtain ⟨-, -, rfl⟩ := h
  exact ⟨facts.toStoreFacts, facts.code, fun _ => ⟨key, mine, known⟩, nofun⟩

theorem completedFacts_completed {r r' : LocalReaderRuntime} {db : Database}
    {command : OdooRFIDCommand} (facts : CompletedFacts env since command r db)
    (h : r.markCommandCompleted command = .ok r') : CompletedFacts env since command r' db := by
  simp only [LocalReaderRuntime.markCommandCompleted, guard_eq_ok, Except.ok.injEq] at h
  obtain ⟨-, -, rfl⟩ := h
  refine ⟨⟨facts.toStoreFacts, facts.code, facts.reading, ?_⟩, facts.finished⟩
  rintro stop key ⟨⟩
  exact facts.finished (Option.some.inj stop)

end

section
variable {env : BridgeEnv} {since : Nat} {P P' : LocalReaderRuntime → Database → Prop}
  {α β : Type} {w : World}

/-- The control thread in the view of delivery. -/
abbrev control (env : BridgeEnv) (since : Nat) : Actor BridgeOp BridgeOp.Answer PyException World :=
  deliveryView env since .control

theorem stable_at (lasting : Lasting env.sha P) : (control env since).Stable (At P) := by
  intro w w' h rely
  unfold At
  rw [rely.2.2 rfl]
  exact lasting _ _ _ rely.1 h

/-- An operation that leaves the runtime alone. -/
theorem at_of_step {op : BridgeOp} {answer : Except PyException op.Answer} {w' : World}
    (lasting : Lasting env.sha P) (lawful : Lawful env since w op)
    (still : op.writes ≠ some .runtime) (step : BridgeStep env .control op w answer w')
    (h : At P w) : At P w' := by
  unfold At
  rw [step.frame.1.runtime still]
  exact lasting _ _ _ (evolves_of_step step lawful) h

theorem writes_of_plain {op : BridgeOp} (plain : op.Plain) : op.writes ≠ some .runtime := by
  cases op <;> first | exact plain.elim | simp [BridgeOp.writes]

theorem keeps_at_of_plain {p : Bridge α} (lasting : Lasting env.sha P)
    (calls : p.Calls BridgeOp.Plain) : (control env since).Keeps (At P) p := by
  apply Actor.keeps_of_calls (stable_at lasting) _ calls
  intro op w answer w' plain h step
  have lawful : Lawful env since w op := lawful_of_plain plain
  exact ⟨guarantee_of_plain plain step,
    at_of_step lasting lawful (writes_of_plain plain) step h⟩

theorem keeps_at_of_captures {p : Bridge α} (lasting : Lasting env.sha P)
    (calls : p.Calls BridgeOp.captures) : (control env since).Keeps (At P) p :=
  keeps_at_of_plain lasting (calls.mono fun _ => plain_of_captures)

/-- Programs that end in one of two assertions about the runtime and the store. -/
abbrev upTo (P : α → LocalReaderRuntime → Database → Prop)
    (E : LocalReaderRuntime → Database → Prop) : Except PyException α → World → Prop :=
  Actor.ends (fun value => At (P value)) fun _ => At E

variable {device : ReaderDevice} {E : LocalReaderRuntime → Database → Prop}

theorem sat_runtimeRead (lasting : Lasting env.sha P) (h : At P w) :
    (control env since).Sat (Prog.perform BridgeOp.readRuntime)
      (upTo (fun runtime r db => P r db ∧ r = runtime) P) w := by
  apply Actor.Sat.perform
  intro w₁ rely answer w₂ step
  refine ⟨guarantee_of_plain (by trivial) step, ?_⟩
  intro w₃ rely'
  have lawful : Lawful env since w₁ .readRuntime := trivial
  have h₂ := at_of_step lasting lawful nofun step (stable_at lasting w w₁ h rely)
  have h₃ := stable_at lasting w₂ w₃ h₂ rely'
  cases answer with
  | error exc => exact h₃
  | ok runtime =>
      refine ⟨h₃, ?_⟩
      rw [rely'.2.2 rfl, step.frame.1.runtime nofun]
      obtain ⟨w', ⟨same, -⟩ | ⟨⟨-, -, interrupted⟩, -⟩, -⟩ := step.effect
      · exact (Except.ok.inj same).symm
      · cases interrupted

theorem sat_writeRuntime {runtime : LocalReaderRuntime} (lasting : Lasting env.sha P)
    (lasting' : Lasting env.sha P') (moves : ∀ r db, P r db → P' runtime db) (h : At P w) :
    (control env since).Sat (Prog.perform (BridgeOp.writeRuntime runtime))
      (upTo (fun _ => P') P) w := by
  apply Actor.Sat.perform
  intro w₁ rely answer w₂ step
  have h₁ := stable_at lasting w w₁ h rely
  refine ⟨⟨_, answer, step, trivial, fun other => absurd rfl other⟩, ?_⟩
  intro w₃ rely'
  obtain ⟨w', ⟨rfl, rfl⟩ | ⟨⟨-, -, rfl⟩, rfl⟩, rfl⟩ := step.effect
  · refine stable_at lasting' _ w₃ ?_ rely'
    exact moves _ _ h₁
  · refine stable_at lasting _ w₃ ?_ rely'
    exact h₁

/-- A step of the runtime is taken in full or not at all. -/
theorem sat_updateRuntime {step : LocalReaderRuntime → Except PyException LocalReaderRuntime}
    (lasting : Lasting env.sha P) (lasting' : Lasting env.sha P')
    (moves : ∀ r r' db, P r db → step r = .ok r' → P' r' db) (h : At P w) :
    (control env since).Sat (updateRuntime (FinalWorkerCycle.collaborators device) step)
      (upTo (fun _ => P') P) w := by
  apply Actor.Sat.seq (fun _ => stable_at lasting) (sat_runtimeRead lasting h)
  intro runtime w₁ known
  change (control env since).Sat ((Prog.ofExcept (step runtime)).bind _) _ _
  cases stepped : step runtime with
  | error exc => exact Actor.Sat.raise fun w₂ rely => stable_at lasting w₁ w₂ known.1 rely
  | ok runtime' =>
      have lasting₁ : Lasting env.sha fun r db => P r db ∧ r = runtime :=
        fun r db db' evolves both => ⟨lasting r db db' evolves both.1, both.2⟩
      have moves₁ : ∀ r db, (P r db ∧ r = runtime) → P' runtime' db := by
        rintro r db ⟨before, rfl⟩
        exact moves r runtime' db before stepped
      apply (sat_writeRuntime lasting₁ lasting' moves₁ known).mono
      intro outcome w₂ post
      cases outcome with
      | ok _ => exact post
      | error _ => exact post.1

theorem keeps_updateRuntime {step : LocalReaderRuntime → Except PyException LocalReaderRuntime}
    (lasting : Lasting env.sha P) (moves : ∀ r r' db, P r db → step r = .ok r' → P r' db) :
    (control env since).Keeps (At P)
      (updateRuntime (FinalWorkerCycle.collaborators device) step) := by
  intro w h
  apply (sat_updateRuntime lasting lasting moves h).mono
  intro outcome w₁ post
  cases outcome <;> exact post

theorem keeps_resultNow (lasting : Lasting env.sha P) (command : OdooRFIDCommand)
    (success : Bool) (message : String) :
    (control env since).Keeps (At P)
      (resultNow (FinalWorkerCycle.collaborators device) command success message) :=
  keeps_at_of_plain lasting
    (Prog.calls_bind (Prog.calls_perform (by trivial)) fun _ => Prog.calls_pure _ _)

theorem keeps_sendFailureAck (lasting : Lasting env.sha P) (command : OdooRFIDCommand)
    (message : String) :
    (control env since).Keeps (At P)
      (sendFailureAck (FinalWorkerCycle.collaborators device) command message) := by
  apply keeps_at_of_plain lasting
  refine calls_tryElse (Prog.calls_perform ?_) (fun _ => Prog.calls_pure _ _)
    fun _ => Prog.calls_pure _ _
  rintro ⟨success, -⟩
  cases success

/-- The facts, and that the session is settled if something else holds. -/
def SettledIf (env : BridgeEnv) (since : Nat) (command : OdooRFIDCommand) (condition : Prop)
    (r : LocalReaderRuntime) (db : Database) : Prop :=
  CompletedFacts env since command r db ∧
    (condition → Settled since command.sessionKey command.readerCode db)

theorem lasting_settledIf {command : OdooRFIDCommand} {condition : Prop} :
    Lasting env.sha (SettledIf env since command condition) :=
  fun r db db' evolves both => ⟨lasting_completedFacts r db db' evolves both.1,
    fun holds => ((both.2 holds).evolves evolves both.1.sound).1⟩

theorem sat_raises {Q : α → LocalReaderRuntime → Database → Prop} {exc : PyException}
    (lasting : Lasting env.sha P) (h : At P w) :
    (control env since).Sat (.raise exc) (upTo Q P) w :=
  Actor.Sat.raise fun w₂ rely => stable_at lasting w w₂ h rely

theorem sat_returns {Q : α → LocalReaderRuntime → Database → Prop} {value : α}
    (lasting : Lasting env.sha (Q value)) (h : At (Q value) w) :
    (control env since).Sat (.ret value) (upTo Q E) w :=
  Actor.Sat.ret fun w₂ rely => stable_at lasting w w₂ h rely

/-- The query of the barrier: what it finds all SENT is settled. -/
theorem sat_finalQueueStates {command : OdooRFIDCommand} (stop : command.command = .stop)
    (h : At (CompletedFacts env since command) w) :
    (control env since).Sat
      (store (.finalQueueStates (strip command.sessionKey) (strip command.readerCode)))
      (upTo (fun states => SettledIf env since command (∀ state ∈ states, state = .sent))
        (CompletedFacts env since command)) w := by
  apply Actor.Sat.perform
  intro w₁ rely answer w₂ step
  have plain : (BridgeOp.store (.finalQueueStates (strip command.sessionKey)
    (strip command.readerCode))).Plain := ⟨trivial, rfl⟩
  refine ⟨guarantee_of_plain plain step, ?_⟩
  intro w₃ rely'
  have lawful : Lawful env since w₁ (.store (.finalQueueStates (strip command.sessionKey)
    (strip command.readerCode))) := lawful_of_plain plain
  have h₁ := stable_at lasting_completedFacts w w₁ h rely
  have h₂ := at_of_step lasting_completedFacts lawful nofun step h₁
  cases answer with
  | error _ => exact stable_at lasting_completedFacts w₂ w₃ h₂ rely'
  | ok states =>
      refine stable_at lasting_settledIf w₂ w₃ ⟨h₂, fun all => ⟨h₂.finished stop, ?_⟩⟩ rely'
      obtain ⟨now, ran⟩ := step.committed
      simp only [StoreOp.run, answered, Except.ok.injEq, Prod.mk.injEq,
        OdooRFIDCommand.strip_sessionKey, OdooRFIDCommand.strip_readerCode] at ran
      obtain ⟨rfl, same⟩ := ran
      rw [← same]
      exact fun e he => all _ (List.mem_map_of_mem he)

theorem sat_inspectFinalSessionDelivery {command : OdooRFIDCommand}
    (stop : command.command = .stop) (h : At (CompletedFacts env since command) w) :
    (control env since).Sat
      (inspectFinalSessionDelivery store command.sessionKey command.readerCode)
      (upTo (fun result => SettledIf env since command
          (result.failedCount = 0 ∧ result.pendingCount = 0))
        (CompletedFacts env since command)) w := by
  unfold inspectFinalSessionDelivery
  split
  · exact sat_raises lasting_completedFacts h
  split
  · exact sat_raises lasting_completedFacts h
  apply Actor.Sat.seq (fun _ => stable_at lasting_completedFacts) (sat_finalQueueStates stop h)
  intro states w₁ found
  refine sat_returns ?_ ?_
  · exact lasting_settledIf
  · exact ⟨found.1, fun counts => found.2 (all_sent_of_counts counts.1 counts.2)⟩

/-- The delivery barrier in front of the acknowledgement. -/
theorem sat_requireStopDeliveryComplete {command : OdooRFIDCommand}
    (stop : command.command = .stop) (h : At (CompletedFacts env since command) w) :
    (control env since).Sat
      (FinalWorkerCycle.requireStopDeliveryComplete device command.sessionKey command.readerCode)
      (upTo (fun _ => SettledIf env since command True)
        (CompletedFacts env since command)) w := by
  unfold FinalWorkerCycle.requireStopDeliveryComplete
  split
  · exact sat_raises lasting_completedFacts h
  have passed : (control env since).Sat
      (requireFinalSessionDeliveryComplete store command.sessionKey command.readerCode)
      (upTo (fun _ => SettledIf env since command True)
        (CompletedFacts env since command)) w := by
    apply Actor.Sat.seq (fun _ => stable_at lasting_completedFacts)
      (sat_inspectFinalSessionDelivery stop h)
    intro result w₁ found
    split
    · exact sat_raises lasting_completedFacts found.1
    · rename_i failed
      split
      · exact sat_raises lasting_completedFacts found.1
      · rename_i pending
        refine sat_returns ?_ ?_
        · exact lasting_settledIf
        · exact ⟨found.1, fun _ => found.2 ⟨not_not.mp failed, not_not.mp pending⟩⟩
  apply Actor.Sat.seq (fun _ => stable_at lasting_completedFacts) passed
  exact fun _ w₁ settled => sat_returns lasting_settledIf settled

/-- The acknowledgement itself, of a STOP in a settled session only. -/
theorem sat_ackSuccess {command : OdooRFIDCommand}
    (h : At (SettledIf env since command (command.command = .stop)) w) :
    (control env since).Sat
      (Prog.perform (.ack (ackRequest command true (successAckMessage command.command))))
      (fun _ => At (CompletedFacts env since command)) w := by
  apply Actor.Sat.perform
  intro w₁ rely answer w₂ step
  have h₁ := stable_at lasting_settledIf w w₁ h rely
  have lawful : Lawful env since w₁
      (.ack (ackRequest command true (successAckMessage command.command))) :=
    fun _ stop => h₁.2 stop
  refine ⟨⟨_, answer, step, lawful, fun other => absurd rfl other⟩, ?_⟩
  intro w₃ rely'
  exact stable_at lasting_completedFacts w₂ w₃
    (at_of_step lasting_completedFacts lawful nofun step h₁.1) rely'

/-- The hook in front of a success acknowledgement. -/
theorem sat_beforeSuccessAck {command : OdooRFIDCommand}
    (h : At (CompletedFacts env since command) w) :
    (control env since).Sat
      (when_ (command.command == .stop)
        (runHook (FinalWorkerCycle.collaborators device).beforeSuccessAck command))
      (upTo (fun _ => SettledIf env since command (command.command = .stop))
        (CompletedFacts env since command)) w := by
  by_cases stop : command.command = .stop
  · rw [show (command.command == RuntimeCommand.stop) = true by simp [stop]]
    refine (sat_requireStopDeliveryComplete stop h).mono ?_
    intro outcome w₁ post
    cases outcome with
    | ok _ => exact ⟨post.1, fun _ => post.2 trivial⟩
    | error _ => exact post
  · rw [show (command.command == RuntimeCommand.stop) = false by simp [stop]]
    refine sat_returns ?_ ?_
    · exact lasting_settledIf
    · exact ⟨h, fun same => absurd same stop⟩

/-- A success acknowledgement is lawful once the command is recorded as completed. -/
theorem keeps_sendCompletedSuccessAck (command : OdooRFIDCommand) :
    (control env since).Keeps (At (CompletedFacts env since command))
      (sendCompletedSuccessAck (FinalWorkerCycle.collaborators device) command) := by
  intro w h
  have stable : (control env since).Stable (At (CompletedFacts env since command)) :=
    stable_at lasting_completedFacts
  apply Actor.Sat.handle
  apply (sat_beforeSuccessAck h).mono
  intro outcome w₁ post
  cases outcome with
  | error exc => exact Actor.keeps_raise stable exc w₁ post
  | ok _ =>
      apply Actor.Sat.handle
      apply (sat_ackSuccess post).mono
      intro outcome w₂ facts
      cases outcome with
      | error exc => exact Actor.keeps_raise stable exc w₂ facts
      | ok result => exact keeps_when stable (Actor.keeps_raise stable _) w₂ facts

theorem keeps_resendCompletedAck (command : OdooRFIDCommand) :
    (control env since).Keeps (At (CompletedFacts env since command))
      (resendCompletedAck (FinalWorkerCycle.collaborators device) command) :=
  keeps_tryElse (stable_at lasting_completedFacts) (keeps_sendCompletedSuccessAck command)
    (fun _ => keeps_resultNow lasting_completedFacts command false _)
    fun _ => keeps_resultNow lasting_completedFacts command true _

/-- The end of the three procedures. -/
theorem sat_completeCommand {command : OdooRFIDCommand} {pending accepted : String}
    (h : At (CompletedFacts env since command) w) :
    (control env since).Sat
      (completeCommand (FinalWorkerCycle.collaborators device) command pending accepted)
      (fun _ => At (RuntimeFacts env since)) w := by
  have keeps : (control env since).Keeps (At (CompletedFacts env since command))
      (completeCommand (FinalWorkerCycle.collaborators device) command pending accepted) := by
    apply Actor.keeps_bind (stable_at lasting_completedFacts)
    · exact keeps_updateRuntime lasting_completedFacts fun r r' db facts stepped =>
        completedFacts_completed facts stepped
    · intro _
      exact keeps_tryElse (stable_at lasting_completedFacts)
        (keeps_sendCompletedSuccessAck command)
        (fun _ => keeps_resultNow lasting_completedFacts command false _)
        fun _ => keeps_resultNow lasting_completedFacts command true _
  exact (keeps w h).mono fun _ _ post => post.toRuntimeFacts

theorem keeps_degrade (message : String) :
    (control env since).Keeps (At (RuntimeFacts env since))
      (updateRuntime (FinalWorkerCycle.collaborators device)
        fun runtime => runtime.markDegraded message) :=
  keeps_updateRuntime lasting_runtimeFacts fun _ _ _ facts stepped =>
    runtimeFacts_degraded facts stepped

theorem plain_cancel (sessionKey readerCode : String) :
    (do
      let _ ← store (.cancelLocalSession sessionKey readerCode)
      pure () : Bridge Unit).Calls BridgeOp.Plain :=
  Prog.calls_bind (plain_routine (.cancelLocalSession sessionKey readerCode) trivial rfl)
    fun _ => Prog.calls_pure _ _

theorem keeps_startFailed (command : OdooRFIDCommand) (sessionSync : Option SessionSyncResult)
    (exc : PyException) :
    (control env since).Keeps (At (RuntimeFacts env since))
      (startFailed (FinalWorkerCycle.collaborators device) command sessionSync exc) := by
  have stable : (control env since).Stable (At (RuntimeFacts env since)) :=
    stable_at lasting_runtimeFacts
  apply Actor.keeps_bind stable (keeps_at_of_captures lasting_runtimeFacts captures_isActive)
  intro active
  apply Actor.keeps_bind stable
  · split
    · apply keeps_attempt stable
      apply keeps_at_of_captures lasting_runtimeFacts
      apply Prog.calls_bind (captures_stopCapture _ _)
      intro _
      exact Prog.calls_bind (captures_stop _ _) fun _ => captures_drainPendingTags _ _
    · exact Actor.keeps_ret stable none
  intro stopError
  apply Actor.keeps_bind stable
  · split
    · exact keeps_attempt stable (keeps_at_of_plain lasting_runtimeFacts (plain_cancel _ _))
    · exact Actor.keeps_ret stable none
  intro cleanupError
  apply Actor.keeps_bind stable (keeps_degrade _)
  intro _
  apply Actor.keeps_bind stable (keeps_sendFailureAck lasting_runtimeFacts command _)
  exact fun _ => keeps_resultNow lasting_runtimeFacts command false _

/-- The facts, with the session of the command known. -/
def KnownFacts (env : BridgeEnv) (since : Nat) (command : OdooRFIDCommand)
    (r : LocalReaderRuntime) (db : Database) : Prop :=
  RuntimeFacts env since r db ∧ Known since command.sessionKey db

theorem lasting_knownFacts {command : OdooRFIDCommand} :
    Lasting env.sha (KnownFacts env since command) :=
  fun r db db' evolves both =>
    ⟨lasting_runtimeFacts r db db' evolves both.1, both.2.evolves evolves⟩

/-- A command in execution, until its reader is started or stopped. -/
structure ExecutingFacts (env : BridgeEnv) (since : Nat) (command : OdooRFIDCommand)
    (r : LocalReaderRuntime) (db : Database) : Prop where
  facts : RuntimeFacts env since r db
  mine : r.sessionKey = some command.sessionKey
  known : command.command = .stop → Known since command.sessionKey db

theorem lasting_executingFacts {command : OdooRFIDCommand} :
    Lasting env.sha (ExecutingFacts env since command) :=
  fun r db db' evolves executing => ⟨lasting_runtimeFacts r db db' evolves executing.facts,
    executing.mine, fun stop => (executing.known stop).evolves evolves⟩

/-- START with its session. -/
def SynchronizedFacts (env : BridgeEnv) (since : Nat) (command : OdooRFIDCommand)
    (r : LocalReaderRuntime) (db : Database) : Prop :=
  KnownFacts env since command r db ∧ r.sessionKey = some command.sessionKey

theorem lasting_synchronizedFacts {command : OdooRFIDCommand} :
    Lasting env.sha (SynchronizedFacts env since command) :=
  fun r db db' evolves both => ⟨lasting_knownFacts r db db' evolves both.1, both.2⟩

/-- A transaction of the control thread that closes no attempt. -/
theorem sat_store {op : StoreOp} {Q : op.Answer → LocalReaderRuntime → Database → Prop}
    (issued : op.Issued) (routine : op.closesAttempt = false) (lasting : Lasting env.sha P)
    (lastingQ : ∀ value, Lasting env.sha (Q value))
    (ran : ∀ {r db db'} {now : Timestamp} {value : op.Answer}, P r db → P r db' →
      op.run env.sha now db = .ok (value, db') → Q value r db') (h : At P w) :
    (control env since).Sat (store op) (upTo Q P) w := by
  apply Actor.Sat.perform
  intro w₁ rely answer w₂ step
  have plain : (BridgeOp.store op).Plain := ⟨issued, routine⟩
  have lawful : Lawful env since w₁ (.store op) := lawful_of_plain plain
  refine ⟨guarantee_of_plain plain step, ?_⟩
  intro w₃ rely'
  have h₁ := stable_at lasting w w₁ h rely
  have h₂ := at_of_step lasting lawful nofun step h₁
  cases answer with
  | error _ => exact stable_at lasting w₂ w₃ h₂ rely'
  | ok value =>
      refine stable_at (lastingQ value) w₂ w₃ ?_ rely'
      obtain ⟨now, committed⟩ := step.committed
      have still : w₂.runtime = w₁.runtime := step.frame.1.runtime nofun
      rw [At, still] at h₂ ⊢
      exact ran h₁ h₂ committed

/-- START makes its session one of this process. -/
theorem sat_synchronizeStartCommand {command : OdooRFIDCommand}
    (mine : command.readerCode = env.device.code)
    (h : At (ExecutingFacts env since command) w) :
    (control env since).Sat (store (.synchronizeStartCommand command))
      (upTo (fun _ => SynchronizedFacts env since command) (ExecutingFacts env since command))
      w := by
  refine sat_store trivial rfl lasting_executingFacts (fun _ => lasting_synchronizedFacts) ?_ h
  intro r db db' now value before after ran
  obtain ⟨reader, found, s, hs, named, device, active⟩ := active_of_synchronize ran
  rw [mine, before.facts.reader] at found
  cases found
  exact ⟨⟨after.facts, s, hs, named, after.facts.noneStale s hs device active⟩, after.mine⟩

/-- STOP finishes its session. -/
theorem sat_closeLocalSession {command : OdooRFIDCommand}
    (h : At (KnownFacts env since command) w) :
    (control env since).Sat
      ((FinalWorkerCycle.collaborators device).closeLocalSession command.sessionKey
        command.readerCode)
      (upTo (fun _ => CompletedFacts env since command) (KnownFacts env since command)) w := by
  apply Actor.Sat.seq (fun _ => stable_at lasting_knownFacts)
    (P := fun _ => At (CompletedFacts env since command))
  · refine sat_store trivial rfl lasting_knownFacts (fun _ => lasting_completedFacts) ?_ h
    intro r db db' now value before after ran
    obtain ⟨s, hs, named, closed⟩ := closed_of_closeLocalSession ran
    rw [OdooRFIDCommand.strip_sessionKey] at named
    exact ⟨after.1, fun _ => after.2.finished after.1.sound.keys hs named (by simp [closed])⟩
  · intro _ w₁ facts
    refine sat_returns ?_ ?_
    · exact lasting_completedFacts
    · exact facts

/-- A program of the reader or the capture service in front of others. -/
theorem sat_captures {p : Bridge α} (lasting : Lasting env.sha P)
    (calls : p.Calls BridgeOp.captures) (weaker : ∀ r db, P r db → E r db) (h : At P w) :
    (control env since).Sat p (upTo (fun _ => P) E) w := by
  apply (keeps_at_of_captures lasting calls w h).mono
  intro outcome w₁ post
  cases outcome with
  | ok _ => exact post
  | error _ => exact weaker _ _ post

/-- What follows the synchronisation of a START. -/
theorem sat_startReader {command : OdooRFIDCommand}
    (h : At (SynchronizedFacts env since command) w) :
    (control env since).Sat (startReader (FinalWorkerCycle.collaborators device) command)
      (upTo (fun _ => RuntimeFacts env since) (RuntimeFacts env since)) w := by
  have stable : (control env since).Stable (At (RuntimeFacts env since)) :=
    stable_at lasting_runtimeFacts
  apply Actor.Sat.seq (fun _ => stable)
    (sat_captures lasting_synchronizedFacts (captures_start _ _) (fun _ _ facts => facts.1.1) h)
  intro _ w₁ synchronized
  have marked : (control env since).Sat
      (updateRuntime (FinalWorkerCycle.collaborators device) LocalReaderRuntime.markReaderStarted)
      (upTo (fun _ => RuntimeFacts env since) (SynchronizedFacts env since command)) w₁ := by
    refine sat_updateRuntime lasting_synchronizedFacts lasting_runtimeFacts ?_ synchronized
    exact fun r r' db facts stepped => runtimeFacts_started facts.1.1 facts.2 facts.1.2 stepped
  apply Actor.Sat.seq (fun _ => stable) (P := fun _ => At (RuntimeFacts env since))
  · apply marked.mono
    intro outcome w₂ post
    cases outcome with
    | ok _ => exact post
    | error _ => exact post.1.1
  · exact fun _ w₂ facts =>
      (keeps_at_of_captures lasting_runtimeFacts (captures_startCapture _ _)).sat facts

/-- The work of a STOP in front of its completion. -/
theorem sat_stopReader {command : OdooRFIDCommand} (h : At (KnownFacts env since command) w) :
    (control env since).Sat (stopReader (FinalWorkerCycle.collaborators device) command)
      (upTo (fun _ => CompletedFacts env since command) (KnownFacts env since command)) w := by
  have stable : (control env since).Stable (At (KnownFacts env since command)) :=
    stable_at lasting_knownFacts
  have captures : ∀ {p : Bridge Unit}, p.Calls BridgeOp.captures →
      (control env since).Keeps (At (KnownFacts env since command)) p :=
    keeps_at_of_captures lasting_knownFacts
  apply Actor.Sat.seq (fun _ => stable) ((captures (captures_stopCapture _ _)).sat h)
  intro _ w₁ h
  apply Actor.Sat.seq (fun _ => stable) ((captures (captures_stop _ _)).sat h)
  intro _ w₂ h
  have marks : (control env since).Keeps (At (KnownFacts env since command))
      (updateRuntime (FinalWorkerCycle.collaborators device)
        LocalReaderRuntime.markReaderStopped) :=
    keeps_updateRuntime lasting_knownFacts fun _ _ _ facts stepped =>
      ⟨runtimeFacts_stopped facts.1 stepped, facts.2⟩
  apply Actor.Sat.seq (fun _ => stable) (marks.sat h)
  intro _ w₃ h
  apply Actor.Sat.seq (fun _ => stable) ((captures (captures_drainPendingTags _ _)).sat h)
  exact fun _ w₄ h => sat_closeLocalSession h

theorem keeps_abortReader (command : OdooRFIDCommand) :
    (control env since).Keeps (At (RuntimeFacts env since))
      (abortReader (FinalWorkerCycle.collaborators device) command) := by
  have stable : (control env since).Stable (At (RuntimeFacts env since)) :=
    stable_at lasting_runtimeFacts
  apply Actor.keeps_bind stable
    (keeps_at_of_captures lasting_runtimeFacts (captures_stopCapture _ _))
  intro _
  apply Actor.keeps_bind stable (keeps_at_of_captures lasting_runtimeFacts captures_isActive)
  intro active
  apply Actor.keeps_bind stable
  · split
    · exact keeps_at_of_captures lasting_runtimeFacts (captures_stop _ _)
    · exact keeps_at_of_captures lasting_runtimeFacts captures_verifyIdle
  intro _
  apply Actor.keeps_bind stable (keeps_updateRuntime lasting_runtimeFacts fun _ _ _ facts stepped =>
    runtimeFacts_stopped facts stepped)
  intro _
  apply Actor.keeps_bind stable
    (keeps_at_of_captures lasting_runtimeFacts (captures_drainPendingTags _ _))
  intro _
  apply Actor.keeps_handle (keeps_at_of_plain lasting_runtimeFacts (plain_cancel _ _))
  intro outcome
  cases outcome with
  | ok _ => exact Actor.keeps_ret stable _
  | error exc =>
      dsimp only
      split
      · exact Actor.keeps_ret stable _
      · exact Actor.keeps_raise stable _

/-- The planned runtime of a command that is executed. -/
theorem executingFacts_planned {r : LocalReaderRuntime} {db : Database}
    {command : OdooRFIDCommand} {transition : RuntimeTransition}
    (facts : RuntimeFacts env since r db) (plan : r.planNew command = .ok transition) :
    ExecutingFacts env since command transition.after db := by
  simp only [LocalReaderRuntime.planNew] at plan
  cases kind : command.command with
  | start =>
      simp only [kind, LocalReaderRuntime.planStart, guard_eq_ok, Except.ok.injEq] at plan
      obtain ⟨-, -, rfl⟩ := plan
      exact ⟨facts.forget rfl (by rintro ⟨⟩) rfl, rfl, by simp [kind]⟩
  | stop =>
      simp only [kind, LocalReaderRuntime.planStop, guard_eq_ok, Except.ok.injEq] at plan
      obtain ⟨reading, same, rfl⟩ := plan
      obtain ⟨key, mine, known⟩ := facts.reading (not_not.mp reading)
      rw [not_not.mp same] at mine
      cases mine
      exact ⟨facts.forget rfl (by rintro ⟨⟩) rfl, not_not.mp same, fun _ => known⟩
  | abort =>
      simp only [kind, LocalReaderRuntime.planAbort, guard_eq_ok, Except.ok.injEq] at plan
      obtain ⟨-, rfl⟩ := plan
      exact ⟨facts.forget rfl (by rintro ⟨⟩) rfl, rfl, by simp [kind]⟩

/-- The runtime on which a command is planned. -/
def PlannedFacts (env : BridgeEnv) (since : Nat) (planned r : LocalReaderRuntime)
    (db : Database) : Prop :=
  RuntimeFacts env since r db ∧ r = planned

theorem lasting_plannedFacts {planned : LocalReaderRuntime} :
    Lasting env.sha (PlannedFacts env since planned) :=
  fun r db db' evolves both => ⟨lasting_runtimeFacts r db db' evolves both.1, both.2⟩

section
variable {command : OdooRFIDCommand} {runtime : LocalReaderRuntime}
  {transition : RuntimeTransition}

/-- The first step of each procedure, and what follows it. -/
theorem sat_executing {rest : Bridge CommandExecutionResult}
    (plan : runtime.planNew command = .ok transition)
    (h : At (PlannedFacts env since runtime) w)
    (hr : ∀ w, At (ExecutingFacts env since command) w →
      (control env since).Sat rest (fun _ => At (RuntimeFacts env since)) w) :
    (control env since).Sat
      ((Prog.perform (BridgeOp.writeRuntime transition.after)).bind fun _ => rest)
      (fun _ => At (RuntimeFacts env since)) w := by
  have written : (control env since).Sat (Prog.perform (BridgeOp.writeRuntime transition.after))
      (upTo (fun _ => ExecutingFacts env since command) (PlannedFacts env since runtime)) w := by
    refine sat_writeRuntime lasting_plannedFacts lasting_executingFacts ?_ h
    rintro r db ⟨facts, rfl⟩
    exact executingFacts_planned facts plan
  apply Actor.Sat.handle
  apply written.mono
  intro outcome w₁ post
  cases outcome with
  | ok _ => exact hr w₁ post
  | error exc => exact Actor.keeps_raise (stable_at lasting_runtimeFacts) exc w₁ post.1

theorem sat_executeStart (mine : command.readerCode = env.device.code)
    (kind : command.command ≠ .stop) (plan : runtime.planNew command = .ok transition)
    (h : At (PlannedFacts env since runtime) w) :
    (control env since).Sat
      (executeStart (FinalWorkerCycle.collaborators device) command transition.after)
      (fun _ => At (RuntimeFacts env since)) w := by
  refine sat_executing plan h fun w₁ executing => ?_
  refine sat_tryElse (sat_synchronizeStartCommand mine executing) ?_ ?_ ?_
  · exact fun exc w₂ _ post => keeps_startFailed command none exc w₂ post.facts
  · exact fun exc w₂ _ post => Actor.keeps_raise (stable_at lasting_runtimeFacts) exc w₂ post.facts
  · intro sessionSync w₂ synchronized
    refine sat_tryElse (sat_startReader synchronized) ?_ ?_ ?_
    · exact fun exc w₃ _ post => keeps_startFailed command (some sessionSync) exc w₃ post
    · exact fun exc w₃ _ post => Actor.keeps_raise (stable_at lasting_runtimeFacts) exc w₃ post
    · exact fun _ w₃ post => sat_completeCommand ⟨post, fun stop => absurd stop kind⟩

theorem sat_executeStop (kind : command.command = .stop)
    (plan : runtime.planNew command = .ok transition)
    (h : At (PlannedFacts env since runtime) w) :
    (control env since).Sat
      (executeStop (FinalWorkerCycle.collaborators device) command transition.after)
      (fun _ => At (RuntimeFacts env since)) w := by
  have stable : (control env since).Stable (At (RuntimeFacts env since)) :=
    stable_at lasting_runtimeFacts
  refine sat_executing plan h fun w₁ executing => ?_
  refine sat_tryElse (sat_stopReader ⟨executing.facts, executing.known kind⟩) ?_ ?_ ?_
  · intro exc w₂ _ post
    have rest : (control env since).Keeps (At (RuntimeFacts env since))
        ((updateRuntime (FinalWorkerCycle.collaborators device)
            fun runtime => runtime.markDegraded exc.message).bind fun _ =>
          (sendFailureAck (FinalWorkerCycle.collaborators device) command exc.message).bind fun _ =>
            resultNow (FinalWorkerCycle.collaborators device) command false exc.message) := by
      apply Actor.keeps_bind stable (keeps_degrade _)
      intro _
      apply Actor.keeps_bind stable (keeps_sendFailureAck lasting_runtimeFacts command _)
      exact fun _ => keeps_resultNow lasting_runtimeFacts command false _
    exact rest w₂ post.1
  · exact fun exc w₂ _ post => Actor.keeps_raise stable exc w₂ post.1
  · exact fun _ w₂ post => sat_completeCommand post

theorem sat_executeAbort (kind : command.command ≠ .stop)
    (plan : runtime.planNew command = .ok transition)
    (h : At (PlannedFacts env since runtime) w) :
    (control env since).Sat
      (executeAbort (FinalWorkerCycle.collaborators device) command transition.after)
      (fun _ => At (RuntimeFacts env since)) w := by
  have stable : (control env since).Stable (At (RuntimeFacts env since)) :=
    stable_at lasting_runtimeFacts
  refine sat_executing plan h fun w₁ executing => ?_
  refine sat_tryElse ((keeps_abortReader command).sat executing.facts) ?_ ?_ ?_
  · intro exc w₂ _ post
    have rest : (control env since).Keeps (At (RuntimeFacts env since))
        ((updateRuntime (FinalWorkerCycle.collaborators device)
            fun runtime => runtime.markDegraded exc.message).bind fun _ =>
          resultNow (FinalWorkerCycle.collaborators device) command false exc.message) :=
      Actor.keeps_bind stable (keeps_degrade _) fun _ =>
        keeps_resultNow lasting_runtimeFacts command false _
    exact rest w₂ post
  · exact fun exc w₂ _ post => Actor.keeps_raise stable exc w₂ post
  · exact fun _ w₂ post => sat_completeCommand ⟨post, fun stop => absurd stop kind⟩

end
/-- A command that the runtime recognises as completed. -/
theorem completedFacts_of_duplicate {r : LocalReaderRuntime} {db : Database}
    {command : OdooRFIDCommand} (facts : RuntimeFacts env since r db)
    (completed : r.isCompleted command = true) : CompletedFacts env since command r db := by
  simp only [LocalReaderRuntime.isCompleted, Bool.and_eq_true, beq_iff_eq] at completed
  obtain ⟨⟨-, kind⟩, key⟩ := completed
  exact ⟨facts, fun stop => facts.stopped (stop ▸ kind.symm) command.sessionKey key.symm⟩

/-- One call of process_command keeps the facts. -/
theorem keeps_processCommand (command : OdooRFIDCommand) :
    (control env since).Keeps (At (RuntimeFacts env since))
      (FinalRuntimeOrchestrator.processCommand (FinalWorkerCycle.collaborators env.device)
        command) := by
  intro w h
  have stable : (control env since).Stable (At (RuntimeFacts env since)) :=
    stable_at lasting_runtimeFacts
  apply Actor.Sat.handle
  apply (sat_runtimeRead lasting_runtimeFacts h).mono
  intro outcome w₁ post
  cases outcome with
  | error exc => exact Actor.keeps_raise stable exc w₁ post
  | ok runtime =>
      obtain ⟨facts, known⟩ := post
      dsimp only
      split
      · rename_i exc _
        have rejected : (control env since).Keeps (At (RuntimeFacts env since))
            (rejectCommand (FinalWorkerCycle.collaborators env.device) command exc.message) :=
          Actor.keeps_bind stable (keeps_sendFailureAck lasting_runtimeFacts command _) fun _ =>
            keeps_resultNow lasting_runtimeFacts command false _
        exact rejected w₁ facts
      · rename_i transition plan
        obtain ⟨mine, ⟨duplicate, completed⟩ | ⟨new, plan⟩⟩ :=
          LocalReaderRuntime.planCommand_eq_ok plan
        · rw [if_pos duplicate]
          have done : At (CompletedFacts env since command) w₁ :=
            completedFacts_of_duplicate facts (known ▸ completed)
          exact (keeps_resendCompletedAck command w₁ done).mono fun _ _ post => post.toRuntimeFacts
        · rw [if_neg (by simp [new])]
          have planned : At (PlannedFacts env since runtime) w₁ := ⟨facts, known⟩
          split
          · rename_i kind
            refine sat_executeStart ?_ (by simp [kind]) plan planned
            rw [mine, ← known]
            exact facts.code
          · rename_i kind
            exact sat_executeStop kind plan planned
          · rename_i kind
            exact sat_executeAbort (by simp [kind]) plan planned

/-- A cycle of the worker keeps the facts. -/
theorem keeps_runOnce (py : Builtins) :
    (control env since).Keeps (At (RuntimeFacts env since))
      (FinalWorkerCycle.runOnce env.device py) := by
  have stable : (control env since).Stable (At (RuntimeFacts env since)) :=
    stable_at lasting_runtimeFacts
  have plain : ∀ {op : BridgeOp}, op.Plain →
      (control env since).Keeps (At (RuntimeFacts env since)) (Prog.perform op) :=
    fun plain => keeps_at_of_plain lasting_runtimeFacts (Prog.calls_perform plain)
  have healthy : (control env since).Keeps (At (RuntimeFacts env since))
      FinalCaptureService.requireHealthy :=
    keeps_at_of_captures lasting_runtimeFacts captures_requireHealthy
  apply Actor.keeps_bind stable healthy
  intro _
  apply Actor.keeps_bind stable
  · refine Actor.keeps_bind stable (plain (by trivial)) fun _ => plain (by trivial)
  intro _
  apply Actor.keeps_bind stable
  · apply Actor.keeps_bind stable (plain (by trivial))
    intro payloads
    apply Actor.keeps_bind stable
    · apply Actor.keeps_forEach stable
      intro payload _
      apply Actor.keeps_bind stable (Actor.keeps_ofExcept stable _)
      intro command
      apply Actor.keeps_bind stable (plain (by trivial))
      intro runtime
      split
      · exact Actor.keeps_ret stable _
      · apply Actor.keeps_bind stable
        · apply Actor.keeps_bind stable (plain (by trivial))
          intro _
          apply Actor.keeps_bind stable (keeps_processCommand command)
          intro result
          exact Actor.keeps_bind stable (plain (by trivial)) fun _ => Actor.keeps_ret stable _
        · exact fun _ => Actor.keeps_ret stable _
    · exact fun _ => Actor.keeps_ret stable _
  · exact fun _ => healthy

theorem keeps_whileTrue {round : Bridge (Option α)} {I : World → Prop}
    (stable : (control env since).Stable I)
    (plain : ∀ {op : BridgeOp}, op.Plain → (control env since).Keeps I (Prog.perform op))
    (h : (control env since).Keeps I round) : (control env since).Keeps I (whileTrue round) := by
  apply Actor.keeps_bind stable (plain (by trivial))
  intro rounds
  induction rounds with
  | zero => exact Actor.keeps_bind stable (plain (by trivial)) nofun
  | succ n ih =>
      apply Actor.keeps_bind stable h
      intro result
      cases result with
      | some value => exact Actor.keeps_ret stable value
      | none => exact ih

theorem keeps_controlLoop (py : Builtins) (maxCycles : Option Nat) :
    (control env since).Keeps (At (RuntimeFacts env since))
      (Command.controlLoop py env.device maxCycles) := by
  have stable : (control env since).Stable (At (RuntimeFacts env since)) :=
    stable_at lasting_runtimeFacts
  have plain : ∀ {op : BridgeOp}, op.Plain →
      (control env since).Keeps (At (RuntimeFacts env since)) (Prog.perform op) :=
    fun plain => keeps_at_of_plain lasting_runtimeFacts (Prog.calls_perform plain)
  cases maxCycles with
  | some cycles =>
      show (control env since).Keeps _ (Command.finiteCycles py env.device cycles)
      induction cycles with
      | zero => exact Actor.keeps_ret stable _
      | succ n ih =>
          cases n with
          | zero => exact keeps_runOnce py
          | succ n =>
              apply Actor.keeps_bind stable (keeps_runOnce py)
              intro _
              exact Actor.keeps_bind stable (plain (by trivial)) fun _ => ih
  | none =>
      apply keeps_whileTrue stable plain
      apply Actor.keeps_bind stable
      · apply Actor.keeps_handle (keeps_runOnce py)
        intro outcome
        cases outcome with
        | ok _ => exact Actor.keeps_ret stable _
        | error exc =>
            dsimp only [Command.retryTransport]
            split
            · exact Actor.keeps_ret stable _
            · exact Actor.keeps_raise stable _
      · intro _
        exact Actor.keeps_bind stable (plain (by trivial)) fun _ => Actor.keeps_ret stable _

/-- The control loop and the shutdown behind it. -/
theorem sat_runWorker (py : Builtins) (maxCycles : Option Nat)
    (h : At (RuntimeFacts env since) w) :
    (control env since).Sat (Command.runWorker py env.device maxCycles)
      (fun _ => At (RuntimeFacts env since)) w := by
  have stable : (control env since).Stable (At (RuntimeFacts env since)) :=
    stable_at lasting_runtimeFacts
  have loop : (control env since).Keeps (At (RuntimeFacts env since))
      ((Command.untilInterrupted (Command.controlLoop py env.device maxCycles)).tryFinally do
        let _ ← Command.safeShutdownReader env.device
        pure ()) := by
    apply Actor.keeps_handle
    · apply Actor.keeps_handle (keeps_controlLoop py maxCycles)
      intro outcome
      cases outcome with
      | ok _ => exact Actor.keeps_ret stable _
      | error exc =>
          dsimp only
          split
          · exact Actor.keeps_ret stable _
          · exact Actor.keeps_raise stable _
    · intro outcome
      apply Actor.keeps_bind stable
      · apply keeps_at_of_captures lasting_runtimeFacts
        exact Prog.calls_bind captures_safeShutdownReader fun _ => Prog.calls_pure _ _
      · exact fun _ => Actor.keeps_ofExcept stable _
  have marked : (control env since).Keeps (At (RuntimeFacts env since))
      (markReaderVerifiedIdle (FinalWorkerCycle.collaborators env.device)) := by
    intro w h
    apply Actor.Sat.handle
    apply (sat_runtimeRead lasting_runtimeFacts h).mono
    intro outcome w₁ post
    cases outcome with
    | error exc => exact Actor.keeps_raise stable exc w₁ post
    | ok runtime =>
        dsimp only
        split
        · exact Actor.keeps_raise stable _ w₁ post.1
        · have written : (control env since).Sat (Prog.perform (BridgeOp.writeRuntime {
                readerCode := runtime.readerCode
                state := .idle
                lastCommandRevision := runtime.lastCommandRevision }))
              (upTo (fun _ => RuntimeFacts env since) (PlannedFacts env since runtime)) w₁ := by
            refine sat_writeRuntime lasting_plannedFacts lasting_runtimeFacts ?_ post
            rintro r db ⟨facts, rfl⟩
            exact facts.forget rfl nofun rfl
          apply written.mono
          intro outcome w₂ post
          cases outcome with
          | ok _ => exact post
          | error _ => exact post.1
  exact Actor.keeps_bind stable marked (fun _ => loop) w h

/-- What the startup knows before it has looked for a stale session. -/
structure BootFacts (env : BridgeEnv) (since : Nat) (r : LocalReaderRuntime) (db : Database) :
    Prop where
  sound : StoreSound since db
  reader : db.enabledReader env.device.code = some env.device
  runtime : r = offlineRuntime env.device.code

theorem lasting_bootFacts : Lasting env.sha (BootFacts env since) := by
  intro r db db' evolves facts
  refine ⟨facts.sound.evolves evolves, ?_, facts.runtime⟩
  rw [Database.enabledReader, devices_evolve evolves]
  exact facts.reader

/-- A count of zero: no session of an earlier process is active. -/
theorem sat_countActiveSessions (h : At (BootFacts env since) w) :
    (control env since).Sat (store (.countActiveSessions env.device.id))
      (upTo (fun existingActive r db => BootFacts env since r db ∧
          (existingActive = 0 → RuntimeFacts env since r db))
        (BootFacts env since)) w := by
  refine sat_store trivial rfl lasting_bootFacts ?_ ?_ h
  · exact fun value r db db' evolves both => ⟨lasting_bootFacts r db db' evolves both.1,
      fun zero => lasting_runtimeFacts r db db' evolves (both.2 zero)⟩
  · intro r db db' now value before after ran
    simp only [StoreOp.run, answered, Except.ok.injEq, Prod.mk.injEq] at ran
    obtain ⟨counted, rfl⟩ := ran
    refine ⟨after, fun zero => ?_⟩
    have none : db.activeSessions env.device.id = [] :=
      List.length_eq_zero_iff.mp (counted.trans zero)
    refine ⟨⟨after.sound, after.reader, ?_⟩, by rw [after.runtime]; rfl, ?_, ?_⟩
    · intro s hs device active
      have listed := Database.mem_activeSessions.mpr ⟨hs, device, active⟩
      rw [none] at listed
      cases listed
    · rw [after.runtime]
      intro executing
      cases executing
    · rw [after.runtime]
      intro closing
      cases closing

/-- A check in front of the startup. -/
theorem sat_check {x : Except PyException α} (lasting : Lasting env.sha P) (h : At P w) :
    (control env since).Sat (Prog.ofExcept x)
      (Actor.ends (fun value w => x = .ok value ∧ At P w) fun _ _ => True) w := by
  cases x with
  | ok value => exact Actor.Sat.ret fun w₁ rely => ⟨rfl, stable_at lasting w w₁ h rely⟩
  | error exc => exact Actor.Sat.raise fun _ _ => trivial

theorem sat_startWorker (py : Builtins) (maxCycles : Option Nat)
    (h : At (BootFacts env since) w) :
    (control env since).Sat (Command.startWorker py env.device maxCycles)
      (Actor.ends (fun _ _ => True) fun _ _ => True) w := by
  have verified : (control env since).Sat (PersistentActiveReaderExecutor.verifyIdle env.device)
      (Actor.ends (fun _ => At (BootFacts env since)) fun _ _ => True) w := by
    apply (keeps_at_of_captures lasting_bootFacts captures_verifyIdle w h).mono
    intro outcome w₁ post
    cases outcome with
    | ok _ => exact post
    | error _ => trivial
  apply Actor.Sat.seq (fun _ _ _ _ _ => trivial) verified
  intro _ w₁ h
  apply Actor.Sat.handle
  apply (sat_countActiveSessions h).mono
  intro outcome w₂ post
  cases outcome with
  | error _ => exact Actor.Sat.raise fun _ _ => trivial
  | ok existingActive =>
      dsimp only
      split
      · exact Actor.Sat.raise fun _ _ => trivial
      · rename_i zero
        apply (sat_runWorker py maxCycles (post.2 (not_not.mp zero))).mono
        intro outcome w₃ _
        cases outcome <;> trivial

/-- The whole command of the control thread. -/
theorem sat_handle (py : Builtins) (settings : CommandSettings)
    (h : At (BootFacts env since) w) :
    (control env since).Sat (Command.handle py settings (some env.device)) (fun _ _ => True) w := by
  have done : (control env since).Sat (Command.handle py settings (some env.device))
      (Actor.ends (fun _ _ => True) fun _ _ => True) w := by
    apply Actor.Sat.seq (fun _ _ _ _ _ => trivial) (sat_check lasting_bootFacts h)
    rintro maxCycles w₁ ⟨-, h⟩
    apply Actor.Sat.seq (fun _ _ _ _ _ => trivial) (sat_check lasting_bootFacts h)
    rintro _ w₂ ⟨-, h⟩
    apply Actor.Sat.seq (fun _ _ _ _ _ => trivial) (sat_check lasting_bootFacts h)
    rintro device w₃ ⟨found, h⟩
    rw [Command.requireReader_eq_ok found]
    exact sat_startWorker py maxCycles h
  exact done.mono fun _ _ _ => trivial

end

section
variable {env : BridgeEnv} {since : Nat} {settings : CommandSettings} {c c' : BridgePool}

/-- The store of the process and the history of its deliveries. -/
def DeliverySound (env : BridgeEnv) (since : Nat) (w : World) : Prop :=
  StoreSound since w.db ∧ Correlated env since w.trace w.db

theorem deliverySound_of_guarantee {t : Thread} {w w' : World}
    (h : (deliveryView env since t).guarantee w w') (sound : DeliverySound env since w) :
    DeliverySound env since w' := by
  obtain ⟨op, answer, step, lawful, -⟩ := h
  have grows := grows_of_step step
  cases op with
  | store op =>
      obtain ⟨w₁, effect | ⟨-, rfl⟩, rfl⟩ := step.effect
      · obtain ⟨now, value, db', -, ran, rfl⟩ | ⟨-, rfl⟩ := effect
        · obtain ⟨store, correlated⟩ := correlated_run lawful.1 lawful.2 ran sound.1 sound.2
          exact ⟨store, correlated.mono grows⟩
        · exact ⟨sound.1, sound.2.mono grows⟩
      · exact ⟨sound.1, sound.2.mono grows⟩
  | _ =>
      have same : w'.db = w.db := step.frame.1.db nofun
      exact ⟨same ▸ sound.1, same ▸ sound.2.mono grows⟩

/-- Every program of the bridge is sound in the view of delivery. -/
theorem bodies_deliverySound (t : Thread) (p : Bridge Unit) (w : World)
    (body : BridgeBody env t p) (_ : True) :
    (deliveryView env since t).Sat p (fun _ _ => True) w := by
  cases body with
  | capture n =>
      exact keeps_of_plain ((captures_threadMain n).mono fun _ => plain_of_captures) w trivial
  | delivery n settings => exact keeps_deliveryCycle settings w trivial
  | reader => exact keeps_of_plain (Prog.calls_perform (by trivial)) w trivial

theorem started_deliverySound (started : Started env settings c)
    (sound : StoreSound c.state.db.sessions.nextKey c.state.db) :
    c.Sound (deliveryView env c.state.db.sessions.nextKey) fun _ _ _ => True := by
  intro t
  by_cases main : t = .control
  · subst main
    rw [started.control]
    apply sat_handle
    have named : env.device.code = strip settings.readerCode := by
      have found := List.find?_some started.registered
      simp only [Bool.and_eq_true, beq_iff_eq] at found
      exact found.1
    exact ⟨sound, named ▸ started.registered, started.runtime⟩
  · rw [started.idle t main]
    exact Actor.Sat.ret fun _ _ => trivial

/-- When the success acknowledgement of a STOP is sent, by whichever path, every final
event of the session is SENT, through an attempt whose answer from Odoo accepted that very
event; and from then on the final events of the session stay exactly as they are. -/
theorem stop_success_delivered {c₀ c c' : BridgePool} {request : AckRequest} {t : Thread}
    {next : Except PyException ApiResult → Bridge Unit} (started : Started env settings c₀)
    (sound : StoreSound c₀.state.db.sessions.nextKey c₀.state.db) (run : BridgeSteps env c₀ c)
    (sending : c.code t = .call (.ack request) next) (success : request.success = true)
    (stop : request.command = .stop) (later : BridgeSteps env c c') :
    (∀ e ∈ c.state.db.finalEvents request.sessionKey request.readerCode,
      e.queueState = .sent ∧ ∃ a ∈ (c.state.db.attemptsOf e.id).getLast?,
        a.outcome = .sent ∧ Confirmed env c.state.trace a.id e.id) ∧
    c'.state.db.finalEvents request.sessionKey request.readerCode =
      c.state.db.finalEvents request.sessionKey request.readerCode := by
  let since := c₀.state.db.sessions.nextKey
  have start := started_deliverySound started sound
  have compatible : Pool.Compatible (deliveryView env since) := deliveryView_compatible
  have now : c.Sound (deliveryView env since) fun _ _ _ => True :=
    Pool.sound_steps compatible bodies_deliverySound run start
  -- the next operation of the thread is lawful
  have settled : Settled since request.sessionKey request.readerCode c.state.db := by
    have mine := now t
    rw [sending] at mine
    have sent : BridgeStep env t (.ack request) c.state (.ok [])
        (c.state.log ⟨t, .ack request, .ok []⟩) :=
      ⟨⟨c.state, .inl rfl, rfl⟩, nofun⟩
    obtain ⟨op, answer, step, lawful, -⟩ := mine.step sent
    have same := step.frame.2.symm.trans sent.frame.2
    simp only [List.cons.injEq, Entry.mk.injEq, and_true, true_and] at same
    obtain ⟨rfl, -⟩ := same
    exact lawful success stop
  have delivered : DeliverySound env since c.state := by
    have steps := Pool.guarantee_steps (T := fun w w' => DeliverySound env since w →
      DeliverySound env since w') compatible bodies_deliverySound
      (fun t w w' => deliverySound_of_guarantee) (fun _ => id)
      (fun _ _ _ first second sound => second (first sound)) run start
    refine steps ⟨sound, ?_⟩
    intro a ha sent e he mine id assigned after
    exact absurd (sound.references e he id assigned) (Nat.not_lt.mpr after)
  have evolves : Evolves env.sha c.state.db c'.state.db :=
    Pool.guarantee_steps (T := fun w w' => Evolves env.sha w.db w'.db) compatible
      bodies_deliverySound
      (fun t w w' ⟨_, _, step, lawful, _⟩ => evolves_of_step step lawful) (fun _ => .refl)
      (fun _ _ _ first second => first.trans second) later now
  refine ⟨?_, (settled.evolves evolves delivered.1).2⟩
  intro e final
  obtain ⟨he, -, -, s, found, named⟩ := Database.mem_finalEvents.mp final
  obtain ⟨hs, assigned⟩ := Database.sessionOf_eq_some.mp found
  obtain ⟨row, member, same, after, -⟩ := settled.finished
  have mine : row = s := delivered.1.keys.sessionKeys row member s hs (same.trans named.symm)
  have ledger := eventLedger_of_ledger (delivered.1.ledger.ledger e he)
  obtain ⟨a, last, sent⟩ := ledger.sent (settled.sent e final)
  obtain ⟨ha, owner⟩ := Database.mem_attemptsOf.mp (List.mem_of_getLast? last)
  exact ⟨settled.sent e final, a, last, sent,
    delivered.2 a ha sent e he owner.symm s.id assigned (mine ▸ after)⟩

end

open Installation in
/-- One session with one tag: the capture thread stores it, a delivery worker hands it to
Odoo, and the STOP success is about to be acknowledged. -/
theorem stop_success_delivered_session : ∃ c request next, BridgeSteps env pool c ∧
    c.code .control = .call (.ack request) next ∧ request.success = true ∧
    request.command = .stop ∧
    (c.state.db.finalEvents request.sessionKey request.readerCode).map (·.queueState) = [.sent] ∧
    ∀ e ∈ c.state.db.finalEvents request.sessionKey request.readerCode,
      e.queueState = .sent ∧ ∃ a ∈ (c.state.db.attemptsOf e.id).getLast?,
        a.outcome = .sent ∧ Confirmed env c.state.trace a.id e.id := by
  have seen : (runSchedule env deliverySettings session
      [(.control, 3), (.reader, 2), (.control, 20), (.reader, 2), (.control, 20), (.capture 0, 16),
        (.delivery 0, 7), (.control, 6), (.capture 0, 4), (.control, 10), (.reader, 2),
        (.control, 14)] pool).map
        (fun c => (pendingAck (c.code .control),
          (c.state.db.finalEvents "S1" "GATE-1").map (·.queueState))) =
      some (some ⟨"S1", "GATE-1", .stop, 2, true, "Reader stopped successfully."⟩, [.sent]) := by
    decide +kernel
  obtain ⟨c, ran, same⟩ := Option.map_eq_some_iff.mp seen
  simp only [Prod.mk.injEq] at same
  obtain ⟨next, sending⟩ := code_of_pendingAck same.1
  refine ⟨c, _, next, bridgeSteps_of_runSchedule ran, sending, rfl, rfl, same.2, ?_⟩
  exact (stop_success_delivered started_pool (storeSound_empty (by decide))
    (bridgeSteps_of_runSchedule ran) sending rfl rfl .refl).1

end RfidBridge
