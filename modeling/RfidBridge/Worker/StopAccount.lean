import RfidBridge.Worker.SessionAccount

/-!
The account at the success of a STOP. The command stops the capture thread and the reader and
drains the buffer, so nothing that was handed out is on its way any more; but it does not ask
whether the capture thread has failed.
-/

namespace RfidBridge
open FinalRuntimeOrchestrator PersistentActiveReaderExecutor

namespace Watch
variable {env : BridgeEnv} {command : OdooRFIDCommand} {w w' : World} {P P' : World → Prop}

/-- The account is that of this session, and it is closed. -/
def Closed (env : BridgeEnv) (key : Option String) (w : World) : Prop :=
  (accountAt env w).session = key ∧ Drained env w

/-- Between two commands: a session that is read is watched, and one whose STOP is recorded as
completed is closed. -/
structure Rested (env : BridgeEnv) (w : World) : Prop where
  reading : w.runtime.state = .reading →
    (accountAt env w).session = w.runtime.sessionKey ∧ Watched env w
  stopped : w.runtime.completedCommand = some .stop →
    Closed env w.runtime.completedSessionKey w

/-- A STOP watches the accounts of its session. -/
def Watching (env : BridgeEnv) (command : OdooRFIDCommand) (w : World) : Prop :=
  command.command = .stop →
    (accountAt env w).session = some command.sessionKey ∧ Watched env w

/-- A command has been planned, and the runtime says so. -/
structure Planned (env : BridgeEnv) (command : OdooRFIDCommand) (w : World) : Prop where
  key : w.runtime.sessionKey = some command.sessionKey
  start : command.command = .start → ¬ Custody.Active w
  stop : Watching env command w

/-- The try block of a command has returned. -/
structure Done (env : BridgeEnv) (command : OdooRFIDCommand) (w : World) : Prop where
  reading : w.runtime.state = .reading →
    (accountAt env w).session = w.runtime.sessionKey ∧ Watched env w
  stopped : command.command = .stop → Closed env (some command.sessionKey) w

/-- The command is recorded as completed. -/
structure Completed (env : BridgeEnv) (command : OdooRFIDCommand) (w : World) : Prop
    extends Rested env w where
  closed : command.command = .stop → Closed env (some command.sessionKey) w

theorem lasts_closed {key : Option String} : Actor.Lasts (Calm env) (Closed env key) :=
  fun w w' calm h => ⟨calm.session.trans h.1, lasts_drained w w' calm h.2⟩

theorem lasts_rested : Actor.Lasts (Calm env) (Rested env) := by
  intro w w' calm h
  refine ⟨?_, ?_⟩
  · rw [calm.runtime, calm.session]
    exact fun reading => ⟨(h.reading reading).1,
      lasts_watched w w' calm.toPlacid (h.reading reading).2⟩
  · rw [calm.runtime]
    exact fun stopped => lasts_closed w w' calm (h.stopped stopped)

theorem lasts_inactive : Actor.Lasts (Calm env) fun w => ¬ Custody.Active w := by
  intro w w' calm off
  rw [Custody.Active, calm.connection, calm.key]
  exact off

theorem lasts_watching : Actor.Lasts (Placid env) (Watching env command) :=
  fun w w' placid h stop => ⟨placid.session.trans (h stop).1,
    lasts_watched w w' placid (h stop).2⟩

theorem lasts_planned : Actor.Lasts (Calm env) (Planned env command) := by
  intro w w' calm h
  refine ⟨?_, fun start => lasts_inactive w w' calm (h.start start),
    lasts_watching w w' calm.toPlacid h.stop⟩
  rw [calm.runtime]
  exact h.key

theorem lasts_done : Actor.Lasts (Calm env) (Done env command) := by
  intro w w' calm h
  refine ⟨?_, fun stop => lasts_closed w w' calm (h.stopped stop)⟩
  rw [calm.runtime, calm.session]
  exact fun reading => ⟨(h.reading reading).1,
    lasts_watched w w' calm.toPlacid (h.reading reading).2⟩

theorem lasts_completed : Actor.Lasts (Calm env) (Completed env command) :=
  fun w w' calm h => ⟨lasts_rested w w' calm h.toRested,
    fun stop => lasts_closed w w' calm (h.closed stop)⟩

/-- What a change of the runtime leaves alone. -/
structure Apart (env : BridgeEnv) (w w' : World) : Prop where
  kept : Kept env w w'
  threads : w'.threads = w.threads
  buffer : w'.executor.pendingTagFrames = w.executor.pendingTagFrames

theorem watched_of_apart (apart : Apart env w w') (h : Watched env w) : Watched env w' :=
  fun none => accounts_of_kept apart.kept (h ((noneRunning_of_threads apart.threads).mp none))

theorem drained_of_apart (apart : Apart env w w') (h : Drained env w) : Drained env w' :=
  ⟨(noneRunning_of_threads apart.threads).mpr h.none, accounts_of_kept apart.kept h.accounts,
    apart.buffer.trans h.buffer⟩

theorem closed_of_apart {key : Option String} (apart : Apart env w w') (h : Closed env key w) :
    Closed env key w' :=
  ⟨by rw [apart.kept.account]; exact h.1, drained_of_apart apart h.2⟩

theorem apart_of_write {runtime : LocalReaderRuntime} {answer : Except PyException Unit}
    (step : BridgeStep env .control (.writeRuntime runtime) w answer w') : Apart env w w' :=
  ⟨kept_of_unrecorded (.writeRuntime runtime) rfl (by rintro ⟨⟩) step,
    step.frame.1.threads (by rintro ⟨⟩), step.frame.1.pendingTagFrames (by rintro ⟨⟩)⟩

theorem triple_updates {change : LocalReaderRuntime → Except PyException LocalReaderRuntime}
    (lasts : Actor.Lasts (Calm env) P) (lasts' : Actor.Lasts (Calm env) P')
    (moves : ∀ w runtime w', P w → change w.runtime = .ok runtime → Apart env w w' →
      w'.runtime = runtime → P' w') :
    (keeper env).Triple (Holds P)
      (updateRuntime (FinalWorkerCycle.collaborators env.device) change) (fun _ => Holds P')
      fun exc w => Holds P w ∧
        (exc.isException = true → ∃ runtime, change runtime = .error exc) := by
  refine triple_change controlActor discipline lasts lasts' (harmless_of_off .readRuntime trivial)
    ?_ (fun _ _ _ _ => trivial) ?_
  · intro runtime w answer w' step same
    have frame := step.1.1.frame.1
    exact ⟨placid_of_kept same (frame.busy (by rintro ⟨⟩)) (frame.threads (by rintro ⟨⟩))
      (apart_of_write step.1.1).kept, frame.session (by rintro ⟨⟩),
      frame.activeSessionKey (by rintro ⟨⟩), fun _ => frame.pendingTagFrames (by rintro ⟨⟩)⟩
  · intro runtime w w' h changed step
    refine moves w runtime w' h.2 changed (apart_of_write step) ?_
    obtain ⟨_, ⟨-, rfl⟩, rfl⟩ := step.effect_of_ok
    rfl

/-- The end of STOP and ABORT behind the verified stop. -/
theorem triple_closing {p : Bridge Unit} (calls : p.Calls BridgeOp.offReader) :
    (keeper env).Triple (Holds (Watching env command))
      (do
        updateRuntime (FinalWorkerCycle.collaborators env.device)
          LocalReaderRuntime.markReaderStopped
        runHook (FinalWorkerCycle.collaborators env.device).beforeSessionClose command
        p)
      (fun _ => Holds (Done env command)) fun _ _ => True := by
  let S : Option String → LocalReaderRuntime → Prop := fun session runtime =>
    (command.command = .stop → session = some command.sessionKey) ∧ runtime.state ≠ .reading
  have marks : (keeper env).Triple (Holds (Watching env command))
      (updateRuntime (FinalWorkerCycle.collaborators env.device)
        LocalReaderRuntime.markReaderStopped)
      (fun _ => Holds fun w => (command.command = .stop → Watched env w) ∧
        S (accountAt env w).session w.runtime) fun _ _ => True := by
    refine (triple_updates (lasts_calm lasts_watching) (lasts_calm (Actor.lasts_and
      (Actor.lasts_imp lasts_watched) lasts_label)) ?_).conseq (fun _ => id) (fun _ _ => id)
      fun _ _ _ => trivial
    rintro w runtime w' watching marked apart rfl
    simp only [LocalReaderRuntime.markReaderStopped, guard_eq_ok, Except.ok.injEq] at marked
    obtain ⟨-, same⟩ := marked
    refine ⟨fun stop => watched_of_apart apart (watching stop).2,
      fun stop => by rw [apart.kept.account]; exact (watching stop).1, ?_⟩
    simp [← same]
  apply Actor.Triple.seq stable_true marks
  intro _
  apply Actor.Triple.seq stable_true (Q := fun _ => Holds (Done env command))
  · refine (triple_drain (c := command.command = .stop) (S := S) command.sessionKey
      command.readerCode).conseq (fun _ => id) ?_ fun _ _ => id
    rintro _ w ⟨-, drained, session, off⟩
    exact ⟨trivial, fun reading => absurd reading off, fun stop => ⟨session stop, drained stop⟩⟩
  · exact fun _ => triple_off lasts_done calls

theorem triple_stopReader :
    (keeper env).Triple (Holds (Watching env command))
      (stopReader (FinalWorkerCycle.collaborators env.device) command)
      (fun _ => Holds (Done env command)) fun _ _ => True := by
  apply Actor.Triple.seq stable_true (triple_placid lasts_watching
    (offAccount_stopCapture (some command.sessionKey) (some command.readerCode)))
  intro _
  apply Actor.Triple.seq stable_true (triple_placid lasts_watching (offAccount_stop _ _))
  intro _
  apply triple_closing
  exact Prog.calls_bind (Prog.calls_perform trivial) fun _ => Prog.calls_pure _ _

theorem triple_abortReader :
    (keeper env).Triple (Holds (Watching env command))
      (abortReader (FinalWorkerCycle.collaborators env.device) command)
      (fun _ => Holds (Done env command)) fun _ _ => True := by
  apply Actor.Triple.seq stable_true (triple_placid lasts_watching
    (offAccount_stopCapture (some command.sessionKey) (some command.readerCode)))
  intro _
  apply Actor.Triple.seq stable_true (triple_placid lasts_watching offAccount_isActive)
  intro active
  apply Actor.Triple.seq stable_true (Q := fun _ => Holds (Watching env command))
  · split
    · exact triple_placid lasts_watching (offAccount_stop _ _)
    · exact triple_placid lasts_watching offAccount_verifyIdle
  intro _
  apply triple_closing
  apply Prog.calls_tryExcept (Prog.calls_bind (Prog.calls_perform trivial)
    fun _ => Prog.calls_pure _ _)
  intro exc
  split
  · exact Prog.calls_pure _ _
  · exact Prog.calls_raise _ _

/-- A START leads to a session that is read and watched. -/
theorem triple_startReader (kind : command.command = .start) :
    (keeper env).Triple (Holds (Planned env command))
      (startReader (FinalWorkerCycle.collaborators env.device) command)
      (fun _ => Holds (Done env command)) fun _ _ => True := by
  apply Actor.Triple.seq stable_true ((triple_start (R := fun runtime =>
    runtime.sessionKey = some command.sessionKey) command.sessionKey_clean.1
    command.readerCode).conseq (fun w h => ⟨trivial, h.2.start kind, h.2.key⟩) (fun _ _ => id)
    fun _ _ => id)
  intro _
  have marks : (keeper env).Triple
      (Holds fun w => Begun env command.sessionKey w ∧
        w.runtime.sessionKey = some command.sessionKey)
      (updateRuntime (FinalWorkerCycle.collaborators env.device)
        LocalReaderRuntime.markReaderStarted)
      (fun _ => Holds fun w => Begun env command.sessionKey w ∧
        w.runtime.sessionKey = some command.sessionKey) fun _ _ => True := by
    refine (triple_updates (lasts_calm (lasts_begunFor (R := fun runtime =>
      runtime.sessionKey = some command.sessionKey))) (lasts_calm (lasts_begunFor
      (R := fun runtime => runtime.sessionKey = some command.sessionKey))) ?_).conseq (fun _ => id)
      (fun _ _ => id) fun _ _ _ => trivial
    rintro w runtime w' ⟨begun, named⟩ marked apart rfl
    simp only [LocalReaderRuntime.markReaderStarted, guard_eq_ok, Except.ok.injEq] at marked
    obtain ⟨-, -, same⟩ := marked
    have account := apart.kept.account
    refine ⟨⟨(noneRunning_of_threads apart.threads).mpr begun.none, ?_, ?_, ?_⟩, ?_⟩
    · rw [account]
      exact begun.session
    · rw [account]
      exact begun.handed
    · rw [account]
      exact begun.sound
    · rw [← same]
      exact named
  apply Actor.Triple.seq stable_true marks
  intro _
  refine (triple_startCapture (R := fun runtime => runtime.sessionKey = some command.sessionKey)
    command.sessionKey_clean.1 command.readerCode).conseq (fun _ => id) ?_ fun _ _ => id
  rintro _ w ⟨-, ⟨session, named⟩, watched⟩
  refine ⟨trivial, fun _ => ⟨session.trans named.symm, watched⟩, fun stop => ?_⟩
  cases kind.symm.trans stop

/-- The rest of a failed START. -/
theorem triple_emergencyStop :
    (keeper env).Triple (fun _ => True)
      (emergencyStop (FinalWorkerCycle.collaborators env.device) command)
      (fun _ _ => True) fun _ _ => True := by
  apply Actor.Triple.seq stable_true (triple_lawful
    (offAccount_stopCapture (some command.sessionKey) (some command.readerCode)))
  intro _
  apply Actor.Triple.seq stable_true (triple_lawful (offAccount_stop _ _))
  intro _
  exact (triple_drain (c := False) (S := fun _ _ => True) _ _).conseq
    (fun _ _ => ⟨trivial, False.elim, trivial⟩) (fun _ _ _ => trivial) fun _ _ => id

theorem triple_degrade (message : String) :
    (keeper env).Triple (fun _ => True)
      (updateRuntime (FinalWorkerCycle.collaborators env.device)
        fun runtime => runtime.markDegraded message)
      (fun _ => Holds (Rested env)) (Escapes fun _ => True) := by
  refine (triple_updates (P := fun _ => True) Actor.lasts_true lasts_rested ?_).conseq
    (fun _ _ => ⟨trivial, trivial⟩) (fun _ _ => id)
    fun _ _ h => escapes_of_change (fun _ _ => LocalReaderRuntime.markDegraded_eq_error) trivial h.2
  rintro w runtime w' - marked - rfl
  simp only [LocalReaderRuntime.markDegraded, guard_eq_ok, Except.ok.injEq] at marked
  obtain ⟨-, same⟩ := marked
  refine ⟨?_, ?_⟩ <;> simp [← same]

theorem triple_complete :
    (keeper env).Triple (Holds (Done env command))
      (updateRuntime (FinalWorkerCycle.collaborators env.device)
        fun runtime => runtime.markCommandCompleted command)
      (fun _ => Holds (Completed env command)) (Escapes fun _ => True) := by
  refine (triple_updates lasts_done lasts_completed ?_).conseq (fun _ => id) (fun _ _ => id)
    fun _ _ h => escapes_of_change
      (fun _ _ => LocalReaderRuntime.markCommandCompleted_eq_error) trivial h.2
  rintro w runtime w' done marked apart rfl
  simp only [LocalReaderRuntime.markCommandCompleted, guard_eq_ok, Except.ok.injEq] at marked
  obtain ⟨-, -, same⟩ := marked
  have closed : command.command = .stop → Closed env (some command.sessionKey) w' :=
    fun stop => closed_of_apart apart (done.stopped stop)
  refine ⟨⟨?_, ?_⟩, closed⟩
  · rw [← same, apart.kept.account]
    exact fun reading => ⟨(done.reading reading).1,
      watched_of_apart apart (done.reading reading).2⟩
  · rw [← same]
    exact fun stop => closed (Option.some.inj stop)

/-- A command begins from the runtime that an earlier one has left. -/
def Between (env : BridgeEnv) (w : World) : Prop :=
  Rested env w ∧ (w.runtime.state = .idle → ¬ Custody.Active w)

theorem lasts_between : Actor.Lasts (Calm env) (Between env) := by
  rintro w w' calm ⟨rested, off⟩
  refine ⟨lasts_rested w w' calm rested, ?_⟩
  rw [calm.runtime]
  exact fun idle => lasts_inactive w w' calm (off idle)

theorem lasts_known {runtime : LocalReaderRuntime} :
    Actor.Lasts (Calm env) fun w => Between env w ∧ w.runtime = runtime :=
  Actor.lasts_and lasts_between fun _ _ calm same => calm.runtime.trans same

theorem triple_begins {runtime : LocalReaderRuntime} {transition : RuntimeTransition}
    (plan : runtime.planNew command = .ok transition) :
    (keeper env).Triple (Holds fun w => Between env w ∧ w.runtime = runtime)
      (Prog.perform (BridgeOp.writeRuntime transition.after)) (fun _ => Holds (Planned env command))
      (Escapes fun _ => True) := by
  apply discipline.triple_perform (.writeRuntime transition.after)
    (Q := fun _ => Planned env command) lasts_known (fun _ => lasts_planned)
    (fun _ _ _ h _ => h) (fun _ _ => trivial)
  · rintro w _ w' ⟨-, ⟨rested, off⟩, rfl⟩ step
    have apart := apart_of_write step.1.1
    refine ⟨?_, fun start active => ?_, fun stop => ?_⟩
    · obtain ⟨_, ⟨-, rfl⟩, rfl⟩ := step.1.1.effect_of_ok
      rw [LocalReaderRuntime.planNew_eq_ok plan]
      rfl
    · rw [Custody.Active, step.1.1.frame.1.session (by rintro ⟨⟩),
        step.1.1.frame.1.activeSessionKey (by rintro ⟨⟩)] at active
      exact off (Ownership.idle_of_planNew plan start) active
    · simp only [LocalReaderRuntime.planNew, stop, LocalReaderRuntime.planStop, guard_eq_ok,
        not_not] at plan
      obtain ⟨reading, named, -⟩ := plan
      obtain ⟨session, watched⟩ := rested.reading reading
      exact ⟨by rw [apart.kept.account, session, named], watched_of_apart apart watched⟩
  · intro w exc w' _ step _
    obtain ⟨rfl, -⟩ := step.1.1.interrupted rfl
    exact ⟨trivial, by rintro ⟨⟩⟩

theorem calm_of_ack {request : AckRequest} {answer : Except PyException ApiResult}
    (step : BridgeStep env .control (.ack request) w answer w') : Calm env w w' := by
  have frame := step.frame.1
  refine ⟨placid_of_kept (frame.runtime (by rintro ⟨⟩)) (frame.busy (by rintro ⟨⟩))
    (frame.threads (by rintro ⟨⟩)) (kept_of_unrecorded (.ack request) rfl (by rintro ⟨⟩) step),
    frame.session (by rintro ⟨⟩), frame.activeSessionKey (by rintro ⟨⟩),
    fun _ => frame.pendingTagFrames (by rintro ⟨⟩)⟩

theorem keeps_successAck :
    (keeper env).Keeps (Holds (Completed env command))
      (sendCompletedSuccessAck (FinalWorkerCycle.collaborators env.device) command) := by
  have calls : (sendCompletedSuccessAck (FinalWorkerCycle.collaborators env.device) command).Calls
      fun op => op.offReader ∨
        op = .ack (ackRequest command true (successAckMessage command.command)) :=
    calls_sendCompletedSuccessAck env.device command (fun _ _ => .inl trivial) (.inr rfl)
  apply Actor.keeps_of_calls (stable_holds lasts_completed) _ calls
  rintro op w answer w' (off | rfl) h step
  · exact ⟨⟨op, answer, step, law_of_off (offAccount_of_offReader off)⟩, trivial,
      lasts_completed w w' (calm_of_off op off step.1.1) h.2⟩
  · exact ⟨⟨_, answer, step, fun _ stop => h.2.closed stop⟩, trivial,
      lasts_completed w w' (calm_of_ack step.1.1) h.2⟩

/-- A success of STOP is reported of a closed account. -/
theorem triple_successAck :
    (keeper env).Triple (Holds (Completed env command))
      (sendCompletedSuccessAck (FinalWorkerCycle.collaborators env.device) command)
      (fun _ => Holds (Rested env)) (Fails (fun _ => True) (Holds (Rested env))) :=
  keeps_successAck.triple.conseq (fun _ => id) (fun _ _ h => ⟨trivial, h.2.toRested⟩)
    fun _ _ h => ⟨trivial, fun _ => ⟨trivial, h.2.toRested⟩⟩

/-- A completed command that is received again. -/
theorem completed_of_known {runtime : LocalReaderRuntime} (known : Rested env w)
    (same : w.runtime = runtime) (completed : runtime.isCompleted command = true) :
    Completed env command w := by
  refine ⟨known, fun stop => ?_⟩
  simp only [LocalReaderRuntime.isCompleted, Bool.and_eq_true, beq_iff_eq, stop] at completed
  rw [completed.2, ← same]
  exact known.stopped (by rw [same]; exact completed.1.2.symm)

/-- What process_command knows of the account. -/
def commandContract (env : BridgeEnv) (command : OdooRFIDCommand) :
    CommandContract (keeper env) (FinalWorkerCycle.collaborators env.device) command where
  entered := Holds (Between env)
  knows runtime := Holds fun w => Between env w ∧ w.runtime = runtime
  ready := Holds (Rested env)
  cut _ := True
  begun := Holds (Planned env command)
  synchronized _ := Holds (Planned env command)
  startFailed _ _ := True
  failed _ := True
  done := Holds (Done env command)
  completed := Holds (Completed env command)
  stable_ready := stable_holds lasts_rested
  stable_cut := fun _ _ _ _ => trivial
  stable_startFailed _ := fun _ _ _ _ => trivial
  stable_failed := fun _ _ _ _ => trivial
  ready_of_knows _ _ h := ⟨h.1, h.2.1.1⟩
  readEntered := by
    apply (triple_readRuntime controlActor (stable_holds lasts_between) ?_).conseq (fun _ => id)
    · exact fun runtime w h => ⟨h.1.1, h.1.2, h.2⟩
    · exact fun _ _ h => CommandContract.escapes_of_interrupt h.2 trivial
    · intro w answer w' h step
      obtain ⟨law, calm⟩ := harmless_of_off .readRuntime trivial w answer w' step
      exact ⟨⟨_, answer, step, law⟩, trivial, lasts_between w w' calm h.2⟩
  readReady := (triple_quiet controlActor discipline lasts_rested .readRuntime
    (harmless_of_off _ trivial) rfl).conseq (fun _ => id) (fun _ _ => id)
    fun _ _ h => CommandContract.escapes_of_interrupt h.2 trivial
  failureAck message := (triple_ignoring (stable_holds lasts_rested)
    (keeps_harmless discipline lasts_rested (p := Prog.perform (BridgeOp.ack _))
      (Prog.calls_perform fun _ _ _ step => ⟨by rintro ⟨⟩, calm_of_ack step.1.1⟩))).conseq
      (fun _ => id) (fun _ _ => id) fun _ _ h => CommandContract.escapes_of_interrupt h.2 trivial
  resend runtime completed := triple_successAck.conseq
    (fun _ h => ⟨h.1, completed_of_known h.2.1.1 h.2.2 completed⟩) (fun _ _ => id) fun _ _ => id
  begins _ _ _ _ plan := triple_begins plan
  synchronize _ := (triple_offOp (.store (.synchronizeStartCommand command)) trivial
    lasts_planned).conseq (fun _ => id) (fun _ _ => id) fun _ _ _ => ⟨trivial, fun _ => trivial⟩
  startReader kind _ := (triple_startReader kind).conseq (fun _ => id) (fun _ _ => id)
    fun _ _ _ => ⟨trivial, fun _ => trivial⟩
  readerIsActive _ := (RfidBridge.triple_isActive controlActor discipline Actor.lasts_true
    (harmless_of_off _ trivial) (harmless_of_off _ trivial)).conseq
    (fun _ _ => ⟨trivial, trivial⟩) (fun _ _ _ => trivial)
    fun _ _ h => CommandContract.escapes_of_interrupt h.2 trivial
  emergencyStop _ := triple_emergencyStop.conseq (fun _ => id) (fun _ _ => id)
    fun _ _ _ => ⟨trivial, fun _ => trivial⟩
  cancelCreated _ _ := by
    refine (triple_lawful ?_).conseq (fun _ => id) (fun _ _ => id)
      fun _ _ _ => ⟨trivial, fun _ => trivial⟩
    exact Prog.calls_bind (Prog.calls_perform trivial) fun _ => Prog.calls_pure _ _
  degradeStart _ message := triple_degrade message
  stopReader kind := triple_stopReader.conseq (fun _ h => ⟨h.1, h.2.stop⟩) (fun _ _ => id)
    fun _ _ _ => ⟨trivial, fun _ => trivial⟩
  abortReader kind := triple_abortReader.conseq (fun _ h => ⟨h.1, h.2.stop⟩) (fun _ _ => id)
    fun _ _ _ => ⟨trivial, fun _ => trivial⟩
  degrade message := triple_degrade message
  completes := triple_complete
  successAck := triple_successAck

end Watch
end RfidBridge
