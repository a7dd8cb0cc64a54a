import RfidBridge.Worker.CaptureCustody
import RfidBridge.Worker.ExecutorCustody

/-!
What an idle runtime says. Every branch of START, STOP and ABORT that ends in process_command
leaves the buffer and the executor to the session of the runtime, and an idle runtime has
been paid for by an answered STOP.
-/

namespace RfidBridge
open FinalRuntimeOrchestrator PersistentActiveReaderExecutor

namespace Custody
variable {env : BridgeEnv} {command : OdooRFIDCommand} {w w' : World}

/-- The runtime executes the command. -/
def Serves (env : BridgeEnv) (command : OdooRFIDCommand) (runtime : LocalReaderRuntime) : Prop :=
  command.readerCode = env.device.code ∧ runtime.readerCode = env.device.code ∧
    runtime.sessionKey = some command.sessionKey

/-- The runtime has let the session go. -/
def Freed (env : BridgeEnv) (command : OdooRFIDCommand) (runtime : LocalReaderRuntime) : Prop :=
  command.readerCode = env.device.code ∧ runtime.readerCode = env.device.code ∧
    runtime.sessionKey = none

/-- Whatever is left belongs to the session of the runtime. -/
structure Owed (env : BridgeEnv) (w : World) : Prop where
  code : w.runtime.readerCode = env.device.code
  held : ∀ key, w.runtime.sessionKey = some key → key ≠ "" ∧ Working key w
  free : w.runtime.sessionKey = none → Cleared w

/-- The same between two commands, where an idle runtime has an idle reader. -/
def Rested (env : BridgeEnv) (w : World) : Prop :=
  Owed env w ∧ (w.runtime.state = .idle → w.line.Quiet ∧ w.runtime.sessionKey = none)

theorem lasts_owed : Actor.Lasts Placid (Owed env) := by
  intro w w' placid h
  refine ⟨?_, ?_, ?_⟩
  · rw [placid.same.runtime]
    exact h.code
  · rw [placid.same.runtime]
    exact fun key named => ⟨(h.held key named).1, lasts_working w w' placid (h.held key named).2⟩
  · rw [placid.same.runtime]
    exact fun none => lasts_cleared w w' placid (h.free none)

theorem lasts_rested : Actor.Lasts Placid (Rested env) := by
  intro w w' placid h
  refine ⟨lasts_owed w w' placid h.1, ?_⟩
  rw [placid.same.runtime]
  exact fun idle => ⟨placid.line.quiet (h.2 idle).1, (h.2 idle).2⟩

theorem lasts_busy : Actor.Lasts Placid fun w => w.busy = true := by
  intro w w' placid h
  exact placid.same.busy.trans h

theorem lasts_busyRested : Actor.Lasts Calm fun w => w.busy = true ∧ Rested env w :=
  lasts_calm (Actor.lasts_and lasts_busy lasts_rested)

theorem lasts_busyOwed : Actor.Lasts Calm fun w => w.busy = true ∧ Owed env w :=
  lasts_calm (Actor.lasts_and lasts_busy lasts_owed)

theorem working_of_cleared {key : String} (h : Cleared w) : Working key w := by
  refine ⟨⟨?_, ?_⟩, .inl h.2⟩
  · rw [PendingOf, h.1]
    simp
  · rw [h.2.2]
    simp

theorem returned_of_rested (h : Rested env w) : Returned w := by
  obtain ⟨⟨-, held, free⟩, idle⟩ := h
  refine ⟨fun x buffered => ?_, fun connection key session active => ?_, idle⟩
  · cases named : w.runtime.sessionKey with
    | none =>
        rw [(free named).1] at buffered
        cases buffered
    | some key => exact ⟨key, rfl, (held key named).2.1.1 x buffered⟩
  · cases named : w.runtime.sessionKey with
    | none => cases (free named).2.1.symm.trans session
    | some other => rw [(held other named).2.1.2 key active]

theorem owed_of_serves (working : Working command.sessionKey w)
    (serves : Serves env command w.runtime) : Owed env w := by
  obtain ⟨-, code, named⟩ := serves
  refine ⟨code, fun key same => ?_, fun none => ?_⟩
  · obtain rfl := Option.some.inj (named.symm.trans same)
    exact ⟨command.sessionKey_clean.2, working⟩
  · cases named.symm.trans none

theorem owed_of_freed (cleared : Cleared w) (freed : Freed env command w.runtime) : Owed env w := by
  obtain ⟨-, code, none⟩ := freed
  refine ⟨code, fun key named => ?_, fun _ => cleared⟩
  cases none.symm.trans named

/-- The session of the command is worked on. -/
def Inside (env : BridgeEnv) (command : OdooRFIDCommand) (w : World) : Prop :=
  Working command.sessionKey w ∧ w.busy = true ∧ Serves env command w.runtime

theorem lasts_working_inside : Actor.Lasts Placid (Inside env command) :=
  Actor.lasts_and lasts_working (lasts_aside (lasts_inside (P := Serves env command)))

theorem owed_of_inside (h : Inside env command w) : w.busy = true ∧ Owed env w :=
  ⟨h.2.1, owed_of_serves h.1 h.2.2⟩

/-- A change of the runtime inside a command. -/
theorem triple_updates {P P' : World → Prop}
    {change : LocalReaderRuntime → Except PyException LocalReaderRuntime}
    (lasts : Actor.Lasts Placid P) (lasts' : Actor.Lasts Placid P')
    (inside : ∀ w, P w → w.busy = true)
    (moves : ∀ runtime w entry, P w → change w.runtime = .ok runtime →
      entry = ⟨.control, .writeRuntime runtime, .ok ()⟩ → P' (World.log { w with runtime } entry)) :
    (keeper env).Triple (Holds P)
      (updateRuntime (FinalWorkerCycle.collaborators env.device) change) (fun _ => Holds P')
      fun exc w => Holds P w ∧
        (exc.isException = true → ∃ runtime, change runtime = .error exc) := by
  refine triple_change controlActor discipline (lasts_calm lasts) (lasts_calm lasts')
    (harmless_of_off .readRuntime trivial) ?_ ?_ ?_
  · rintro runtime w answer w' ⟨step, -⟩ same
    have frame := step.frame.1
    have untouched := untouched_of_step (.writeRuntime runtime) nofun nofun step
    have traced := provenance_of_untraced rfl step
    refine ⟨⟨⟨frame.session nofun, frame.activeSessionKey nofun, same, frame.busy nofun,
      untouched.started, ?_⟩, ?_, .inl untouched.pending⟩, frame.captureSessionKey nofun, ?_,
      by rw [traced], by rw [traced]⟩
    · rw [frame.threads nofun]
      exact fun _ => id
    · rw [untouched.line]
      exact .refl _
    · rw [untouched.line]
      exact fun _ => id
  · intro runtime w h _ free
    cases (inside w h.2).symm.trans free
  · intro runtime w w' h changed step
    obtain ⟨_, ⟨-, rfl⟩, rfl⟩ := step.effect_of_ok
    exact moves runtime w _ h.2 changed rfl

theorem stable_cut : (keeper env).Stable (Holds fun _ => True) := stable_holds Actor.lasts_true

/-- Between a verified stop and the end of a STOP or an ABORT. -/
def Stopped (env : BridgeEnv) (command : OdooRFIDCommand) (w : World) : Prop :=
  (w.busy = true ∧ Freed env command w.runtime) ∧ w.line.Quiet

theorem lasts_stopped : Actor.Lasts Aside (Stopped env command) :=
  Actor.lasts_and (lasts_inside (P := Freed env command)) lasts_quiet

theorem rested_of_stopped (cleared : Cleared w) (stopped : Stopped env command w) :
    w.busy = true ∧ Rested env w :=
  ⟨stopped.1.1, owed_of_freed cleared stopped.1.2, fun _ => ⟨stopped.2, stopped.1.2.2.2⟩⟩

theorem triple_markReaderStopped :
    (keeper env).Triple
      (Holds fun w => ((Kept command.sessionKey w ∧ Off w) ∧
        w.busy = true ∧ Serves env command w.runtime) ∧ w.line.Quiet)
      (updateRuntime (FinalWorkerCycle.collaborators env.device)
        LocalReaderRuntime.markReaderStopped)
      (fun _ => Holds fun w => (Kept command.sessionKey w ∧ Off w) ∧ Stopped env command w)
      (Raised fun w => w.busy = true ∧ Owed env w) := by
  have off : Actor.Lasts Placid fun w => Kept command.sessionKey w ∧ Off w :=
    Actor.lasts_and lasts_kept lasts_off
  refine (triple_updates (Actor.lasts_and (Actor.lasts_and off
    (lasts_aside (lasts_inside (P := Serves env command)))) (lasts_aside lasts_quiet))
    (Actor.lasts_and off (lasts_aside lasts_stopped)) (fun _ h => h.1.2.1) ?_).conseq (fun _ => id)
    (fun _ _ => id) fun _ w h => raised_of_holds ⟨h.1.1, h.1.2.1.2.1, ?_⟩
  · rintro runtime w _ ⟨⟨off, busy, serves⟩, quiet⟩ marked rfl
    simp only [LocalReaderRuntime.markReaderStopped, guard_eq_ok, Except.ok.injEq] at marked
    obtain ⟨-, rfl⟩ := marked
    exact ⟨off, ⟨busy, serves.1, serves.2.1, rfl⟩, quiet⟩
  · exact owed_of_serves ⟨h.1.2.1.1.1, .inl h.1.2.1.1.2⟩ h.1.2.1.2.2

/-- The end of a STOP or an ABORT, behind the verified stop. -/
theorem triple_closing {p : Bridge Unit} (calls : p.Calls BridgeOp.offCustody) :
    (keeper env).Triple
      (Holds fun w => ((Kept command.sessionKey w ∧ Off w) ∧
        w.busy = true ∧ Serves env command w.runtime) ∧ w.line.Quiet)
      (do
        updateRuntime (FinalWorkerCycle.collaborators env.device)
          LocalReaderRuntime.markReaderStopped
        runHook (FinalWorkerCycle.collaborators env.device).beforeSessionClose command
        p)
      (fun _ => Holds fun w => w.busy = true ∧ Rested env w)
      (Raised fun w => w.busy = true ∧ Owed env w) := by
  have stable : ∀ exc, (keeper env).Stable (Raised (fun w => w.busy = true ∧ Owed env w) exc) :=
    stable_raised lasts_busyOwed
  have stopped : Actor.Lasts Calm fun w => Cleared w ∧ Stopped env command w :=
    lasts_calm (Actor.lasts_and lasts_cleared (lasts_aside lasts_stopped))
  have owed : ∀ w, Cleared w ∧ Stopped env command w → w.busy = true ∧ Owed env w :=
    fun w h => ⟨h.2.1.1, owed_of_freed h.1 h.2.1.2⟩
  apply Actor.Triple.seq stable triple_markReaderStopped
  rintro _ w ⟨facts, off, stop⟩
  have mine := stop.1.2.1
  have drains : (keeper env).Triple
      (Holds fun w => (Kept command.sessionKey w ∧ Off w) ∧ Stopped env command w)
      (do
        runHook (FinalWorkerCycle.collaborators env.device).beforeSessionClose command
        p) (fun _ => Holds fun w => w.busy = true ∧ Rested env w)
      (Raised fun w => w.busy = true ∧ Owed env w) := by
    apply Actor.Triple.seq stable ((triple_drainPendingTags lasts_stopped
      command.sessionKey_clean.1 mine).conseq (fun _ => id) (fun _ _ => id)
      fun _ _ h => raised_mono h owed)
    exact fun _ => (triple_off stopped calls).conseq (fun _ => id)
      (fun _ _ h => ⟨h.1, rested_of_stopped h.2.1 h.2.2⟩) fun _ _ h => raised_mono h owed
  exact drains w ⟨facts, off, stop⟩

/-- The capture thread is stopped in front of the reader. -/
theorem triple_beforeReaderStop :
    (keeper env).Triple (Holds (Inside env command))
      (runHook (FinalWorkerCycle.collaborators env.device).beforeReaderStop command)
      (fun _ => Holds (Inside env command)) (Raised (Inside env command)) :=
  (triple_stopCapture lasts_working_inside _ _).conseq (fun _ => id) (fun _ _ h => ⟨h.1, h.2.1⟩)
    fun _ _ => id

theorem triple_readerStop :
    (keeper env).Triple (Holds (Inside env command))
      (PersistentActiveReaderExecutor.stop env.device command.sessionKey command.readerCode)
      (fun _ => Holds fun w => ((Kept command.sessionKey w ∧ Off w) ∧
        w.busy = true ∧ Serves env command w.runtime) ∧ w.line.Quiet)
      (Raised (Inside env command)) :=
  triple_stop (lasts_inside (P := Serves env command)) _ _

theorem triple_stopReader :
    (keeper env).Triple (Holds (Inside env command))
      (stopReader (FinalWorkerCycle.collaborators env.device) command)
      (fun _ => Holds fun w => w.busy = true ∧ Rested env w)
      (Raised fun w => w.busy = true ∧ Owed env w) := by
  have stable : ∀ exc, (keeper env).Stable (Raised (fun w => w.busy = true ∧ Owed env w) exc) :=
    stable_raised lasts_busyOwed
  apply Actor.Triple.seq stable (triple_beforeReaderStop.conseq (fun _ => id) (fun _ _ => id)
    fun _ _ h => raised_mono h fun _ => owed_of_inside)
  intro _
  apply Actor.Triple.seq stable (triple_readerStop.conseq (fun _ => id) (fun _ _ => id)
    fun _ _ h => raised_mono h fun _ => owed_of_inside)
  intro _
  apply triple_closing
  exact Prog.calls_bind (Prog.calls_perform trivial) fun _ => Prog.calls_pure _ _

theorem triple_abortReader :
    (keeper env).Triple (Holds (Inside env command))
      (abortReader (FinalWorkerCycle.collaborators env.device) command)
      (fun _ => Holds fun w => w.busy = true ∧ Rested env w)
      (Raised fun w => w.busy = true ∧ Owed env w) := by
  have stable : ∀ exc, (keeper env).Stable (Raised (fun w => w.busy = true ∧ Owed env w) exc) :=
    stable_raised lasts_busyOwed
  have inside : Actor.Lasts Calm (Inside env command) := lasts_calm lasts_working_inside
  apply Actor.Triple.seq stable (triple_beforeReaderStop.conseq (fun _ => id) (fun _ _ => id)
    fun _ _ h => raised_mono h fun _ => owed_of_inside)
  intro _
  apply Actor.Triple.seq stable ((Custody.triple_isActive inside).conseq (fun _ => id)
    (fun _ _ => id) fun _ _ h => raised_of_holds ⟨h.1, owed_of_inside h.2⟩)
  intro active
  apply Actor.Triple.seq stable (Q := fun _ => Holds fun w =>
    ((Kept command.sessionKey w ∧ Off w) ∧ w.busy = true ∧ Serves env command w.runtime) ∧
      w.line.Quiet)
  · split
    · exact triple_readerStop.conseq (fun w h => ⟨h.1, h.2.1⟩) (fun _ _ => id)
        fun _ _ h => raised_mono h fun _ => owed_of_inside
    · rename_i inactive
      have off : Actor.Lasts Placid fun w => (Kept command.sessionKey w ∧ Off w) ∧
          w.busy = true ∧ Serves env command w.runtime :=
        Actor.lasts_and (Actor.lasts_and lasts_kept lasts_off)
          (lasts_aside (lasts_inside (P := Serves env command)))
      refine (triple_verifyIdle off).conseq ?_ (fun _ _ => id) ?_
      · rintro w ⟨facts, ⟨⟨kept, is⟩, rest⟩, known⟩
        refine ⟨facts, ⟨kept, is.resolve_right fun on => inactive ?_⟩, rest⟩
        apply known.mpr
        rw [Active, on.2]
        exact ⟨on.1, by rintro ⟨⟩⟩
      · rintro exc w ⟨facts, ⟨kept, off⟩, busy, serves⟩
        exact raised_of_holds ⟨facts, busy, owed_of_serves ⟨kept, .inl off⟩ serves⟩
  intro _
  apply triple_closing
  apply Prog.calls_tryExcept (Prog.calls_bind (Prog.calls_perform trivial)
    fun _ => Prog.calls_pure _ _)
  intro exc
  split
  · exact Prog.calls_pure _ _
  · exact Prog.calls_raise _ _

/-- The session of a START is being read. -/
def Reads (env : BridgeEnv) (command : OdooRFIDCommand) (runtime : LocalReaderRuntime) : Prop :=
  Serves env command runtime ∧ runtime.state = .reading

theorem rested_of_reads (ready : Ready command.sessionKey (Reads env command) w) :
    w.busy = true ∧ Rested env w := by
  obtain ⟨⟨kept, on⟩, busy, serves, reading⟩ := ready
  refine ⟨busy, owed_of_serves ⟨kept, .inr on⟩ serves, fun idle => ?_⟩
  cases reading.symm.trans idle

theorem inside_of_ready {P : LocalReaderRuntime → Prop}
    (serves : ∀ runtime, P runtime → Serves env command runtime)
    (ready : Ready command.sessionKey P w) : Inside env command w :=
  ⟨⟨ready.1.1, .inr ready.1.2⟩, ready.2.1, serves _ ready.2.2⟩

theorem triple_markReaderStarted :
    (keeper env).Triple
      (Holds fun w => (Kept command.sessionKey w ∧ On command.sessionKey w) ∧
        Begun (Serves env command) w)
      (updateRuntime (FinalWorkerCycle.collaborators env.device)
        LocalReaderRuntime.markReaderStarted)
      (fun _ => Holds fun w => Ready command.sessionKey (Reads env command) w ∧ NoneRunning w)
      (Raised (Inside env command)) := by
  refine (triple_updates (Actor.lasts_and (Actor.lasts_and lasts_kept lasts_on)
    (lasts_aside lasts_begun)) (Actor.lasts_and lasts_ready (lasts_aside lasts_noneRunning))
    (fun _ h => h.2.1.1) ?_).conseq (fun _ => id) (fun _ _ => id)
    fun _ w h => raised_of_holds ⟨h.1.1, ?_⟩
  · rintro runtime w _ ⟨on, ⟨busy, serves⟩, none⟩ marked rfl
    simp only [LocalReaderRuntime.markReaderStarted, guard_eq_ok, Except.ok.injEq] at marked
    obtain ⟨-, -, rfl⟩ := marked
    exact ⟨⟨on, busy, serves, rfl⟩, none⟩
  · exact ⟨⟨h.1.2.1.1, .inr h.1.2.1.2⟩, h.1.2.2.1⟩

theorem triple_startReader :
    (keeper env).Triple
      (Holds fun w => (Kept command.sessionKey w ∧ Off w) ∧ Begun (Serves env command) w)
      (startReader (FinalWorkerCycle.collaborators env.device) command)
      (fun _ => Holds fun w => w.busy = true ∧ Rested env w) (Raised (Inside env command)) := by
  have stable : ∀ exc, (keeper env).Stable (Raised (Inside env command) exc) :=
    stable_raised (lasts_calm lasts_working_inside)
  apply Actor.Triple.seq stable ((triple_start command.sessionKey_clean.1 _).conseq (fun _ => id)
    (fun _ _ => id) fun _ _ h => raised_mono h fun w off => ⟨⟨off.1.1, .inl off.1.2⟩, off.2.1⟩)
  intro _
  apply Actor.Triple.seq stable triple_markReaderStarted
  exact fun _ => (triple_startCapture command.sessionKey_clean.1 _).conseq (fun _ => id)
    (fun _ w h => ⟨h.1, rested_of_reads h.2⟩)
    fun _ _ h => raised_mono h fun _ => inside_of_ready fun _ => And.left

theorem triple_emergencyStop :
    (keeper env).Triple (Holds (Inside env command))
      (emergencyStop (FinalWorkerCycle.collaborators env.device) command)
      (fun _ => Holds (Inside env command)) (Raised (Inside env command)) := by
  have stable : ∀ exc, (keeper env).Stable (Raised (Inside env command) exc) :=
    stable_raised (lasts_calm lasts_working_inside)
  have inside : Actor.Lasts Aside fun w => w.busy = true ∧ Serves env command w.runtime :=
    lasts_inside (P := Serves env command)
  have drained : ∀ w, Cleared w ∧ w.busy = true ∧ Serves env command w.runtime →
      Inside env command w :=
    fun w h => ⟨working_of_cleared h.1, h.2⟩
  apply Actor.Triple.seq stable triple_beforeReaderStop
  intro _
  apply Actor.Triple.seq stable triple_readerStop
  rintro _ w ⟨facts, ⟨off, busy, serves⟩, -⟩
  exact ((triple_drainPendingTags inside command.sessionKey_clean.1 serves.1).conseq (fun _ => id)
    (fun _ _ h => ⟨h.1, drained _ h.2⟩) fun _ _ h => raised_mono h drained) w
    ⟨facts, off, busy, serves⟩

theorem triple_degrade (message : String) :
    (keeper env).Triple (Holds fun w => w.busy = true ∧ Owed env w)
      (updateRuntime (FinalWorkerCycle.collaborators env.device)
        fun runtime => runtime.markDegraded message)
      (fun _ => Holds fun w => w.busy = true ∧ Rested env w)
      (Escapes (Holds fun _ => True)) := by
  refine (triple_updates (Actor.lasts_and lasts_busy lasts_owed)
    (Actor.lasts_and lasts_busy lasts_rested) (fun _ h => h.1) ?_).conseq (fun _ => id)
    (fun _ _ => id) fun _ _ h => escapes_of_change
      (fun _ _ => LocalReaderRuntime.markDegraded_eq_error) h.1.weaken h.2
  rintro runtime w _ ⟨busy, owed⟩ marked rfl
  simp only [LocalReaderRuntime.markDegraded, guard_eq_ok, Except.ok.injEq] at marked
  obtain ⟨-, rfl⟩ := marked
  exact ⟨busy, ⟨owed.code, owed.held, owed.free⟩, by rintro ⟨⟩⟩

theorem triple_complete :
    (keeper env).Triple (Holds fun w => w.busy = true ∧ Rested env w)
      (updateRuntime (FinalWorkerCycle.collaborators env.device)
        fun runtime => runtime.markCommandCompleted command)
      (fun _ => Holds fun w => w.busy = true ∧ Rested env w)
      (Escapes (Holds fun _ => True)) := by
  refine (triple_updates (Actor.lasts_and lasts_busy lasts_rested)
    (Actor.lasts_and lasts_busy lasts_rested) (fun _ h => h.1) ?_).conseq (fun _ => id)
    (fun _ _ => id) fun _ _ h => escapes_of_change
      (fun _ _ => LocalReaderRuntime.markCommandCompleted_eq_error) h.1.weaken h.2
  rintro runtime w _ ⟨busy, owed, idle⟩ marked rfl
  simp only [LocalReaderRuntime.markCommandCompleted, guard_eq_ok, Except.ok.injEq] at marked
  obtain ⟨-, -, rfl⟩ := marked
  exact ⟨busy, ⟨owed.code, owed.held, owed.free⟩, idle⟩

theorem triple_begins {runtime : LocalReaderRuntime} {transition : RuntimeTransition}
    (mine : command.readerCode = runtime.readerCode)
    (plan : runtime.planNew command = .ok transition) :
    (keeper env).Triple
      (Holds fun w => (w.busy = true ∧ Rested env w) ∧ w.runtime = runtime)
      (Prog.perform (BridgeOp.writeRuntime transition.after))
      (fun _ => Holds fun w => Inside env command w ∧
        (command.command = .start → Off w ∧ NoneRunning w))
      (Escapes (Holds fun _ => True)) := by
  have same := LocalReaderRuntime.planNew_eq_ok plan
  have free : Actor.Lasts Placid fun w => Off w ∧ NoneRunning w :=
    Actor.lasts_and lasts_off (lasts_aside lasts_noneRunning)
  have known : Actor.Lasts Placid fun w => w.runtime = runtime :=
    lasts_aside (lasts_runtime (P := fun _ r => r = runtime))
  apply discipline.triple_perform (.writeRuntime transition.after)
    (Q := fun _ w => Inside env command w ∧ (command.command = .start → Off w ∧ NoneRunning w))
    (Actor.lasts_and lasts_busyRested (lasts_calm known))
    fun _ => Actor.lasts_and (lasts_calm lasts_working_inside) (Actor.lasts_imp (lasts_calm free))
  · exact fun exc w w' h rely => ⟨stable_cut w w' h.1 rely, h.2⟩
  · intro w h free
    cases h.2.1.1.symm.trans free
  · rintro w _ w' ⟨-, ⟨busy, owed, idle⟩, rfl⟩ ⟨step, -, owns⟩
    have none : command.command = .start → w.runtime.sessionKey = none ∧ NoneRunning w :=
      fun start => ⟨(idle (Ownership.idle_of_planNew plan start)).2,
        owns.rests (Ownership.idle_of_planNew plan start)⟩
    have working : Working command.sessionKey w := by
      cases named : w.runtime.sessionKey with
      | none => exact working_of_cleared (owed.free named)
      | some key =>
          obtain ⟨given, working⟩ := owed.held key named
          have same : key = command.sessionKey := by
            cases kind : command.command with
            | start => cases named.symm.trans (none kind).1
            | stop =>
                simp only [LocalReaderRuntime.planNew, kind, LocalReaderRuntime.planStop,
                  guard_eq_ok, not_not] at plan
                exact Option.some.inj (named.symm.trans plan.2.1)
            | abort =>
                simp only [LocalReaderRuntime.planNew, kind, LocalReaderRuntime.planAbort,
                  guard_eq_ok] at plan
                by_contra other
                refine plan.1 ⟨?_, ?_⟩
                · simpa [named, present] using given
                · rw [named]
                  exact fun eq => other (Option.some.inj eq)
          exact same ▸ working
    obtain ⟨_, ⟨-, rfl⟩, rfl⟩ := step.effect_of_ok
    rw [same]
    refine ⟨⟨working, busy, mine.trans owed.code, owed.code, rfl⟩, fun start => ?_⟩
    exact ⟨(owed.free (none start).1).2, (none start).2⟩
  · intro w exc w' _ step facts
    obtain ⟨rfl, -⟩ := step.1.interrupted rfl
    exact ⟨⟨facts, trivial⟩, by rintro ⟨⟩⟩

/-- What each step of process_command knows of the session and the buffer. -/
def commandContract (env : BridgeEnv) (command : OdooRFIDCommand) :
    CommandContract (keeper env) (FinalWorkerCycle.collaborators env.device) command where
  entered := Holds fun w => w.busy = true ∧ Rested env w
  knows runtime := Holds fun w => (w.busy = true ∧ Rested env w) ∧ w.runtime = runtime
  ready := Holds fun w => w.busy = true ∧ Rested env w
  cut := Holds fun _ => True
  begun := Holds fun w => Inside env command w ∧
    (command.command = .start → Off w ∧ NoneRunning w)
  synchronized _ := Holds fun w => (Kept command.sessionKey w ∧ Off w) ∧
    Begun (Serves env command) w
  startFailed _ := Holds (Inside env command)
  failed := Holds fun w => w.busy = true ∧ Owed env w
  done := Holds fun w => w.busy = true ∧ Rested env w
  completed := Holds fun w => w.busy = true ∧ Rested env w
  stable_ready := stable_holds lasts_busyRested
  stable_cut := stable_cut
  stable_startFailed _ := stable_holds (lasts_calm lasts_working_inside)
  stable_failed := stable_holds lasts_busyOwed
  ready_of_knows _ _ h := ⟨h.1, h.2.1⟩
  readEntered := by
    apply (triple_readRuntime controlActor (stable_holds lasts_busyRested) ?_).conseq (fun _ => id)
    · exact fun runtime w h => ⟨h.1.1, h.1.2, h.2⟩
    · exact fun _ _ h => CommandContract.escapes_of_interrupt h.2 h.1.weaken
    · intro w answer w' h step
      obtain ⟨law, calm⟩ := harmless_of_off .readRuntime trivial w answer w' step
      exact ⟨⟨_, answer, step, law⟩, of_step law step.2.1 step.1 h.1,
        lasts_busyRested w w' calm h.2⟩
  readReady := (triple_quiet controlActor discipline lasts_busyRested .readRuntime
    (harmless_of_off _ trivial) rfl).conseq (fun _ => id) (fun _ _ => id)
    fun _ _ h => CommandContract.escapes_of_interrupt h.2 h.1.weaken
  failureAck message := (triple_ignoring (stable_holds lasts_busyRested)
    (keeps_harmless discipline lasts_busyRested (p := Prog.perform (BridgeOp.ack _))
      (Prog.calls_perform (harmless_of_off _ trivial)))).conseq (fun _ => id) (fun _ _ => id)
      fun _ _ h => CommandContract.escapes_of_interrupt h.2 h.1.weaken
  resend _ _ := (triple_off lasts_busyRested (calls_sendCompletedSuccessAck env.device command
    (fun _ _ => trivial) trivial)).conseq (fun _ h => ⟨h.1, h.2.1⟩) (fun _ _ => id) fun _ _ => id
  begins _ _ _ mine plan := triple_begins mine plan
  synchronize start := by
    have all : Actor.Lasts Calm fun w => (Kept command.sessionKey w ∧ Off w) ∧
        Begun (Serves env command) w :=
      lasts_calm (Actor.lasts_and (Actor.lasts_and lasts_kept lasts_off) (lasts_aside lasts_begun))
    refine (triple_offOp (.store (.synchronizeStartCommand command)) trivial all).conseq ?_
      (fun _ _ => id)
      fun _ _ h => raised_mono h fun w off => ⟨⟨off.1.1, .inl off.1.2⟩, off.2.1⟩
    rintro w ⟨facts, ⟨working, inside⟩, free⟩
    exact ⟨facts, ⟨working.1, (free start).1⟩, inside, (free start).2⟩
  startReader _ _ := triple_startReader
  readerIsActive _ := (RfidBridge.triple_isActive controlActor discipline
    (lasts_calm lasts_working_inside) (harmless_of_off _ trivial)
    (harmless_of_off _ trivial)).conseq (fun _ => id) (fun _ _ => id)
    fun _ _ h => CommandContract.escapes_of_interrupt h.2 h.1.weaken
  emergencyStop _ := triple_emergencyStop
  cancelCreated _ _ := triple_off (lasts_calm lasts_working_inside)
    (Prog.calls_bind (Prog.calls_perform trivial) fun _ => Prog.calls_pure _ _)
  degradeStart _ message := (triple_degrade message).conseq
    (fun _ h => ⟨h.1, owed_of_inside h.2⟩) (fun _ _ => id) fun _ _ => id
  stopReader _ := triple_stopReader.conseq (fun _ h => ⟨h.1, h.2.1⟩) (fun _ _ => id) fun _ _ => id
  abortReader _ := triple_abortReader.conseq (fun _ h => ⟨h.1, h.2.1⟩) (fun _ _ => id)
    fun _ _ => id
  degrade message := triple_degrade message
  completes := triple_complete
  successAck := triple_off lasts_busyRested (calls_sendCompletedSuccessAck env.device command
    (fun _ _ => trivial) trivial)

theorem stable_ending (_ : PyException) : (keeper env).Stable fun _ => True :=
  fun _ _ _ _ => trivial

/-- Outside process_command an exception ends the worker. -/
theorem triple_ending {α : Type} {p : Bridge α} {P : World → Prop} {Q : α → World → Prop}
    {E : PyException → World → Prop} (h : (keeper env).Triple P p Q E) :
    (keeper env).Triple P p Q fun _ _ => True :=
  h.conseq (fun _ => id) (fun _ _ => id) fun _ _ _ => trivial

/-- A close is lawful wherever the control thread owns the reader. -/
theorem triple_closeAny :
    (keeper env).Triple (Holds fun _ => True) close (fun _ => Holds fun _ => True)
      fun _ _ => True := by
  have writes : ∀ op : BridgeOp, (∀ w, CustodyLaw .control op w) →
      (keeper env).Triple (Holds fun _ => True) (Prog.perform op : Bridge op.Answer)
        (fun _ => Holds fun _ => True) fun _ _ => True :=
    fun op lawful => discipline.triple_perform op (Q := fun _ _ => True) Actor.lasts_true
      (fun _ => Actor.lasts_true) stable_ending (fun w _ => lawful w) (fun _ _ _ _ _ => trivial)
      fun _ _ _ _ _ _ => trivial
  have closes : (keeper env).Triple (Holds fun _ => True) closeOpenSession
      (fun _ => Holds fun _ => True) fun _ _ => True := by
    apply triple_ending (triple_off Actor.lasts_true _)
    apply Prog.calls_bind (Prog.calls_perform trivial)
    intro session
    split
    · exact Prog.calls_pure _ _
    · exact calls_withSession trivial fun connection => Prog.calls_perform trivial
  apply Actor.Triple.seq stable_ending closes
  intro _
  apply Actor.Triple.seq stable_ending (writes (.writeSession none) fun _ => nofun)
  exact fun _ => writes (.writeActiveSessionKey none) fun _ => nofun

theorem triple_shutdownActiveReader {key : String} (clean : strip key = key) :
    (keeper env).Triple (Holds (Working key)) (Command.shutdownActiveReader env.device key)
      (fun _ _ => True) fun _ _ => True := by
  have none : Actor.Lasts Aside fun _ => True := Actor.lasts_true
  have off : Actor.Lasts Calm fun w => (Kept key w ∧ Off w) ∧ True :=
    lasts_calm (Actor.lasts_and (Actor.lasts_and lasts_kept lasts_off) Actor.lasts_true)
  have checked : ∀ {P Q : World → Prop} {p : Bridge Unit} (message : String),
      Actor.Lasts Calm Q → (keeper env).Triple (Holds P) p (fun _ => Holds Q) (fun _ _ => True) →
      (keeper env).Triple (Holds P) (tryElse p (Command.commandErrorFrom message) pure)
        (fun _ => Holds Q) fun _ _ => True := by
    intro P Q p message lasts h
    refine triple_tryElse h ?_ ?_ fun _ => Actor.triple_ret (stable_holds lasts) fun _ => id
    · exact fun exc _ => Actor.triple_raise (stable_ending exc) fun _ => id
    · exact fun exc _ => Actor.triple_raise (stable_ending exc) fun _ => id
  have stops : (keeper env).Triple (Holds (Working key)) (Command.stopForShutdown env.device key)
      (fun _ => Holds fun w => (Kept key w ∧ Off w) ∧ True) fun _ _ => True := by
    apply Actor.Triple.seq stable_ending (triple_ending (triple_stopCapture lasts_working _ _))
    exact fun _ => triple_ending ((triple_stop none key env.device.code).conseq
      (fun w h => ⟨h.1, h.2.1, trivial⟩) (fun _ w h => ⟨h.1, h.2.1⟩) fun _ _ => id)
  apply Actor.Triple.seq stable_ending (checked _ off stops)
  intro _
  apply Actor.Triple.seq stable_ending (checked _
    (lasts_calm (Actor.lasts_and lasts_cleared Actor.lasts_true))
    (triple_ending (triple_drainPendingTags none clean rfl)))
  exact fun _ => Actor.triple_ret (stable_holds (lasts_calm
    (Actor.lasts_and lasts_cleared Actor.lasts_true))) fun _ _ => trivial

/-- The shutdown stops the session that is active, whatever the command it has cut off. -/
theorem triple_safeShutdownReader :
    (keeper env).Triple (Holds fun _ => True) (Command.safeShutdownReader env.device)
      (fun _ _ => True) fun _ _ => True := by
  apply Actor.Triple.seq stable_ending (triple_ending (Custody.triple_isActive Actor.lasts_true))
  intro active
  cases active with
  | false =>
      apply Actor.Triple.seq stable_ending (triple_ending ((triple_stopCapture Actor.lasts_true
        none none).conseq (fun _ => Actor.Under.weaken) (fun _ _ => Actor.Under.weaken)
        fun _ _ => id))
      intro _
      apply Actor.Triple.seq stable_ending triple_closeAny
      exact fun _ => Actor.triple_ret (stable_holds Actor.lasts_true) fun _ _ => trivial
  | true =>
      have known : Actor.Lasts Calm fun w => True ∧ (true = true ↔ Active w) :=
        Actor.lasts_and Actor.lasts_true (lasts_calm lasts_active)
      apply Actor.Triple.seq stable_ending (triple_ending (triple_readActiveSessionKey known))
      rintro key w ⟨facts, ⟨-, isActive⟩, same⟩
      obtain ⟨open_, active⟩ := isActive.mp rfl
      obtain ⟨held, active⟩ := Option.ne_none_iff_exists'.mp active
      obtain rfl : some held = key := active.symm.trans same
      obtain ⟨clean, mine, -⟩ := facts.held held active
      rw [Option.getD_some, clean]
      split
      · have raises : (keeper env).Triple (Holds fun _ => True) (do
            close
            raising .commandError
              "RFID reader shutdown found an active connection without a session key.")
            (fun (_ : Bool) _ => True) fun _ _ => True :=
          Actor.Triple.seq stable_ending triple_closeAny fun _ =>
            Actor.triple_raise (stable_holds Actor.lasts_true) fun _ _ => trivial
        exact raises w ⟨facts, trivial⟩
      · refine triple_shutdownActiveReader clean w ⟨facts, ⟨mine, ?_⟩, .inr ⟨open_, active⟩⟩
        rw [active]
        rintro k ⟨⟩
        rfl

theorem triple_markReaderVerifiedIdle :
    (keeper env).Triple
      (Holds fun w => (Cleared w ∧ w.runtime.readerCode = env.device.code) ∧ w.line.Quiet)
      (markReaderVerifiedIdle (FinalWorkerCycle.collaborators env.device))
      (fun _ => Holds (Rested env)) fun _ _ => True := by
  have clean : Actor.Lasts Calm fun w =>
      (Cleared w ∧ w.runtime.readerCode = env.device.code) ∧ w.line.Quiet :=
    lasts_calm (Actor.lasts_and (Actor.lasts_and lasts_cleared (lasts_aside
      (lasts_runtime (P := fun _ r => r.readerCode = env.device.code)))) (lasts_aside lasts_quiet))
  have reads : (keeper env).Triple
      (Holds fun w => (Cleared w ∧ w.runtime.readerCode = env.device.code) ∧ w.line.Quiet)
      (FinalWorkerCycle.collaborators env.device).readRuntime
      (fun runtime w => Holds (fun w => (Cleared w ∧ w.runtime.readerCode = env.device.code) ∧
        w.line.Quiet) w ∧ w.runtime = runtime) fun _ _ => True := by
    apply triple_ending (triple_readRuntime controlActor (stable_holds clean) _)
    intro w answer w' h step
    obtain ⟨law, calm⟩ := harmless_of_off .readRuntime trivial w answer w' step
    exact ⟨⟨_, answer, step, law⟩, of_step law step.2.1 step.1 h.1, clean w w' calm h.2⟩
  apply Actor.Triple.seq stable_ending reads
  intro runtime
  split
  · exact fun _ _ => Actor.Sat.raise fun _ _ => trivial
  have lasts : Actor.Lasts Calm fun w => ((Cleared w ∧ w.runtime.readerCode = env.device.code) ∧
      w.line.Quiet) ∧ w.runtime = runtime :=
    Actor.lasts_and clean (lasts_calm (lasts_aside (lasts_runtime (P := fun _ r => r = runtime))))
  have rested : ∀ w, (Cleared w ∧ w.runtime.readerCode = env.device.code) ∧ w.line.Quiet →
      Rested env { w with runtime := {
        readerCode := w.runtime.readerCode
        state := .idle
        lastCommandRevision := w.runtime.lastCommandRevision } } :=
    fun w h => ⟨⟨h.1.2, nofun, fun _ => h.1.1⟩, fun _ => ⟨h.2, rfl⟩⟩
  apply (discipline.triple_perform (.writeRuntime _) (Q := fun _ => Rested env) lasts
    (fun _ => lasts_calm lasts_rested) stable_ending ?_ ?_ ?_).conseq
    (fun w h => ⟨h.1.1, h.1.2, h.2⟩) (fun _ _ => id) fun _ _ => id
  · rintro w ⟨facts, clean, rfl⟩ free
    exact returned_of_rested (rested w clean)
  · rintro w _ w' ⟨facts, clean, rfl⟩ step
    obtain ⟨_, ⟨-, rfl⟩, rfl⟩ := step.1.effect_of_ok
    have later := rested w clean
    exact ⟨⟨later.1.code, later.1.held, later.1.free⟩, later.2⟩
  · exact fun _ _ _ _ _ _ => trivial

theorem stable_leaving (exc : PyException) :
    (keeper env).Stable (LeavesLoop (Holds fun _ => True) (Holds (Rested env)) exc) :=
  fun w w' h rely => ⟨stable_cut w w' h.1 rely,
    fun transport => stable_holds (lasts_calm lasts_rested) w w' (h.2 transport) rely⟩

theorem triple_enters (command : OdooRFIDCommand) :
    (keeper env).Triple (Holds (Rested env)) (Prog.perform (BridgeOp.commandEntered command))
      (fun _ => Holds fun w => w.busy = true ∧ Rested env w)
      (LeavesLoop (Holds fun _ => True) (Holds (Rested env))) := by
  apply discipline.triple_perform (.commandEntered command)
    (Q := fun _ w => w.busy = true ∧ Rested env w) (lasts_calm lasts_rested)
    (fun _ => lasts_busyRested) stable_leaving
  · exact fun _ _ => trivial
  · rintro w _ w' ⟨-, owed, idle⟩ step
    obtain ⟨_, ⟨-, rfl⟩, rfl⟩ := step.1.effect_of_ok
    exact ⟨rfl, ⟨owed.code, owed.held, owed.free⟩, idle⟩
  · intro w exc w' _ step _
    obtain ⟨-, -, mark, -⟩ := step.1.interrupted rfl
    cases mark

theorem triple_returns (command : OdooRFIDCommand) :
    (keeper env).Triple (Holds fun w => w.busy = true ∧ Rested env w)
      (Prog.perform (BridgeOp.commandReturned command)) (fun _ => Holds (Rested env))
      (LeavesLoop (Holds fun _ => True) (Holds (Rested env))) := by
  apply discipline.triple_perform (.commandReturned command) (Q := fun _ => Rested env)
    lasts_busyRested (fun _ => lasts_calm lasts_rested) stable_leaving
  · exact fun _ h => returned_of_rested h.2.2
  · rintro w _ w' ⟨-, -, owed, idle⟩ step
    obtain ⟨_, ⟨-, rfl⟩, rfl⟩ := step.1.effect_of_ok
    exact ⟨⟨owed.code, owed.held, owed.free⟩, idle⟩
  · intro w exc w' _ step _
    obtain ⟨-, -, mark, -⟩ := step.1.interrupted rfl
    cases mark

theorem off_of_between {op : BridgeOp} (between : op.betweenCommands = true) : op.offCustody := by
  cases op <;> trivial

/-- What each part of the worker knows of the session and the buffer. -/
def workerContract (env : BridgeEnv) : WorkerContract (keeper env) env where
  inCommand := commandContract env
  booting := Holds fun w => Cleared w ∧ w.runtime.readerCode = env.device.code
  verified := Holds fun w => (Cleared w ∧ w.runtime.readerCode = env.device.code) ∧ w.line.Quiet
  clean := Holds fun w => (Cleared w ∧ w.runtime.readerCode = env.device.code) ∧ w.line.Quiet
  waiting := Holds (Rested env)
  stopped := Holds fun _ => True
  stable_booting := stable_holds (lasts_calm (Actor.lasts_and lasts_cleared (lasts_aside
    (lasts_runtime (P := fun _ r => r.readerCode = env.device.code)))))
  stable_waiting := stable_holds (lasts_calm lasts_rested)
  stable_stopped := stable_cut
  stopped_of_waiting _ := Actor.Under.weaken
  stopped_of_cut _ _ := id
  verifyIdle := triple_ending (triple_verifyIdle (Actor.lasts_and lasts_cleared (lasts_aside
    (lasts_runtime (P := fun _ r => r.readerCode = env.device.code)))))
  countActiveSessions := by
    have clean : Actor.Lasts Calm fun w =>
        (Cleared w ∧ w.runtime.readerCode = env.device.code) ∧ w.line.Quiet :=
      lasts_calm (Actor.lasts_and (Actor.lasts_and lasts_cleared (lasts_aside
        (lasts_runtime (P := fun _ r => r.readerCode = env.device.code))))
        (lasts_aside lasts_quiet))
    exact (triple_offOp (.store (.countActiveSessions env.device.id)) trivial clean).conseq
      (fun _ => id) (fun _ _ h _ => h) fun _ _ _ => trivial
  markReaderVerifiedIdle := triple_markReaderVerifiedIdle
  between op between := keeps_harmless discipline (lasts_calm lasts_rested)
    ((Prog.calls_perform (off_of_between between)).mono harmless_of_off)
  enters := triple_enters
  returns := triple_returns
  safeShutdownReader := triple_safeShutdownReader

section
variable {settings : CommandSettings} {c₀ c : BridgePool} {t : Thread}

theorem stable_custody : (Actor.member (ownedExec env) CustodyLaw t).Stable Custody :=
  Actor.stable_member fun _ _ _ _ _ _ step law facts => of_step law step.2.1 step.1 facts

theorem keeps_lawful {allowed : BridgeOp → Prop} {p : Bridge Unit}
    (lawful : ∀ op, allowed op → ∀ w, CustodyLaw t op w) (calls : p.Calls allowed) :
    (Actor.member (ownedExec env) CustodyLaw t).Keeps Custody p := by
  refine Actor.keeps_of_calls stable_custody ?_ calls
  intro op w answer w' mine facts step
  have law := lawful op mine w
  exact ⟨⟨op, answer, step, law⟩, of_step law step.2.1 step.1 facts⟩

theorem lawful_of_delivers {n : Nat} (op : BridgeOp) (delivers : op.delivers) (w : World) :
    CustodyLaw (.delivery n) op w := by
  cases op with
  | store op =>
      cases op with
      | ingestFinalActiveTagFrames _ _ _ => cases delivers.2 <;> contradiction
      | _ => trivial
  | _ => first | exact delivers.elim | trivial

/-- What a thread other than the control thread runs keeps the custody. -/
theorem sat_body {p : Bridge Unit} (body : BridgeBody env t p) (w : World)
    (facts : t = .control ∨ Custody w) :
    (Actor.member (ownedExec env) CustodyLaw t).Sat p (fun _ w => t = .control ∨ Custody w) w := by
  have calls := belongs_of_body t p body
  cases body with
  | capture n => exact (sat_threadMain (facts.resolve_left nofun)).mono fun _ _ => .inr
  | delivery n settings =>
      exact (keeps_lawful lawful_of_delivers calls w (facts.resolve_left nofun)).mono
        fun _ _ => .inr
  | reader =>
      refine (keeps_lawful ?_ calls w (facts.resolve_left nofun)).mono fun _ _ => .inr
      rintro op rfl w
      trivial

theorem custody_of_started (started : Started env settings c₀) : Custody c₀.state where
  numbered := ⟨started.fresh.1, started.fresh.2⟩
  started := by
    rw [World.provenance, started.history]
    rintro _ _ ⟨⟩
  mirrors := by
    rw [World.provenance, started.history, started.executor]
    rfl
  session := by
    rw [started.executor]
    simp
  held := by
    rw [started.executor]
    simp
  manned n := by
    rw [started.threads n]
    simp
  returned _ := by
    refine ⟨?_, ?_, ?_⟩
    · rw [World.provenance, started.history]
      rintro _ ⟨⟩
    · rw [started.executor]
      simp
    · rw [started.runtime]
      rintro ⟨⟩

theorem sound_of_started (started : Started env settings c₀) :
    c₀.Sound (Actor.member (ownedExec env) CustodyLaw) fun t _ w => t = .control ∨ Custody w := by
  have facts := custody_of_started started
  intro t
  by_cases main : t = .control
  · subst main
    rw [started.control]
    have cleared : Cleared c₀.state := by
      rw [Cleared, Off, World.provenance, started.history, started.executor]
      exact ⟨rfl, rfl, rfl⟩
    refine ((workerContract env).handle env.py settings c₀.state ⟨facts, cleared, ?_⟩).mono
      fun _ _ _ => .inl rfl
    rw [started.runtime]
    rfl
  · rw [started.idle t main]
    exact Actor.Sat.ret fun w rely => .inr (stable_custody _ w facts rely)

/-- Every state of every run has the custody. -/
theorem custody_of_run (started : Started env settings c₀) (run : BridgeSteps env c₀ c) :
    Custody c.state := by
  refine Pool.invariant_steps Actor.compatible_member (fun _ _ w body => sat_body body w) ?_
    (ownedSteps_of_run started run) (sound_of_started started) (custody_of_started started)
  rintro t _ w _ w' - ⟨op, answer, step, law⟩ facts
  exact of_step law step.2.1 step.1 facts

end

end Custody

/-- In every run, an idle runtime outside process_command has an idle reader, no session
and nothing left in the buffer, and no capture thread is alive. -/
theorem idle_runtime_rests {env : BridgeEnv} {settings : CommandSettings} {c₀ c : BridgePool}
    (started : Started env settings c₀) (run : BridgeSteps env c₀ c)
    (returned : c.state.busy = false) (idle : c.state.runtime.state = .idle) :
    c.state.line.inventorying = false ∧ ¬ Custody.Active c.state ∧ NoneRunning c.state ∧
      c.state.executor.pendingTagFrames = [] ∧ c.state.runtime.sessionKey = none := by
  have facts := Custody.custody_of_run started run
  have rests := facts.returned returned
  obtain ⟨quiet, none⟩ := rests.idle idle
  refine ⟨quiet.idle, ?_, (Ownership.ownership_of_run started run).rests idle, ?_, none⟩
  · rintro ⟨session, active⟩
    obtain ⟨connection, session⟩ := Option.ne_none_iff_exists'.mp session
    obtain ⟨key, active⟩ := Option.ne_none_iff_exists'.mp active
    cases none.symm.trans (rests.active connection key session active)
  · rw [← facts.mirrors, List.map_eq_nil_iff, List.eq_nil_iff_forall_not_mem]
    intro x buffered
    obtain ⟨key, named, -⟩ := rests.pending x buffered
    cases none.symm.trans named

open Installation in
/-- After a session of START, one tag and STOP, and one more pass of the loop, the worker is
outside process_command with an idle runtime. -/
theorem idle_runtime_rests_stopped :
    ∃ c, BridgeSteps env pool c ∧ c.state.busy = false ∧ c.state.runtime.state = .idle ∧
      c.state.line.inventorying = false ∧ ¬ Custody.Active c.state ∧ NoneRunning c.state ∧
      c.state.executor.pendingTagFrames = [] ∧ c.state.runtime.sessionKey = none := by
  have seen : (runSchedule env deliverySettings session
      [(.control, 3), (.reader, 2), (.control, 19), (.reader, 2), (.control, 27), (.capture 0, 8),
        (.control, 9), (.reader, 2), (.control, 18)] pool).map
      (fun c => (c.state.busy, c.state.runtime.state)) = some (false, .idle) := by
    decide +kernel
  obtain ⟨c, ran, same⟩ := Option.map_eq_some_iff.mp seen
  have run : BridgeSteps env pool c := bridgeSteps_of_runSchedule ran
  have returned : c.state.busy = false := congrArg Prod.fst same
  have idle : c.state.runtime.state = .idle := congrArg Prod.snd same
  exact ⟨c, run, returned, idle, idle_runtime_rests started_pool run returned idle⟩

end RfidBridge
