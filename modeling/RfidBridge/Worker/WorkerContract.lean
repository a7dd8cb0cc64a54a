import RfidBridge.Library.Discipline
import RfidBridge.Runtime.CommandContract
import RfidBridge.Worker.WorkerCycle

/-!
The same for the command of the worker: its startup, its control loop and its shutdown
around the calls of process_command.
-/

namespace RfidBridge
open FinalRuntimeOrchestrator

/-- The control thread: nobody else writes the runtime. -/
structure ControlActor (env : BridgeEnv) (a : Actor BridgeOp BridgeOp.Answer PyException World) :
    Prop where
  steps : ∀ op w answer w', a.exec op w answer w' → BridgeStep env .control op w answer w'
  runtime : ∀ w w', a.rely w w' → w'.runtime = w.runtime

section
variable {env : BridgeEnv} {a : Actor BridgeOp BridgeOp.Answer PyException World}
  {P P' : World → Prop}

/-- What an interruption leaves. -/
def Interrupts (P : World → Prop) (exc : PyException) (w : World) : Prop :=
  P w ∧ exc.isException = false

theorem triple_readRuntime (own : ControlActor env a) (stable : a.Stable P)
    (reads : ∀ w answer w', P w → a.exec .readRuntime w answer w' → a.guarantee w w' ∧ P w') :
    a.Triple P (Prog.perform BridgeOp.readRuntime) (fun runtime w => P w ∧ w.runtime = runtime)
      (Interrupts P) := by
  intro w before
  apply Actor.Sat.perform
  intro w₁ rely answer w₂ step
  obtain ⟨kept, after⟩ := reads w₁ answer w₂ (stable w w₁ before rely) step
  refine ⟨kept, fun w₃ rely' => ?_⟩
  have last := stable w₂ w₃ after rely'
  cases answer with
  | error exc =>
      obtain ⟨rfl, -⟩ := (own.steps _ _ _ _ step).interrupted rfl
      exact ⟨last, rfl⟩
  | ok runtime =>
      refine ⟨last, (own.runtime w₂ w₃ rely').trans ?_⟩
      obtain ⟨_, ⟨same, rfl⟩, rfl⟩ := (own.steps _ _ _ _ step).effect_of_ok
      exact (Except.ok.inj same).symm

/-- A step of the runtime is taken in full or not at all. -/
theorem triple_updateRuntime {device : ReaderDevice}
    {change : LocalReaderRuntime → Except PyException LocalReaderRuntime}
    (own : ControlActor env a) (stable : a.Stable P) (stable' : a.Stable P')
    (reads : ∀ w answer w', P w → a.exec .readRuntime w answer w' → a.guarantee w w' ∧ P w')
    (writes : ∀ runtime w answer w', P w → change w.runtime = .ok runtime →
      a.exec (.writeRuntime runtime) w answer w' →
      a.guarantee w w' ∧ (answer = .ok () → P' w') ∧ (w'.runtime = w.runtime → P w')) :
    a.Triple P (updateRuntime (FinalWorkerCycle.collaborators device) change) (fun _ => P')
      fun exc w => P w ∧ (exc.isException = true → ∃ runtime, change runtime = .error exc) := by
  have fails : ∀ exc, a.Stable fun w =>
      P w ∧ (exc.isException = true → ∃ runtime, change runtime = .error exc) :=
    fun exc w w' h rely => ⟨stable w w' h.1 rely, h.2⟩
  apply Actor.Triple.seq fails (Q := fun runtime w => P w ∧ w.runtime = runtime)
  · apply (triple_readRuntime own stable reads).conseq (fun _ => id) (fun _ _ => id)
    exact fun exc w h => ⟨h.1, fun caught => absurd caught (by simp [h.2])⟩
  intro runtime w known
  change a.Sat ((Prog.ofExcept (change runtime)).bind _) _ _
  cases changed : change runtime with
  | error exc =>
      exact Actor.Sat.raise fun w' rely => ⟨stable w w' known.1 rely, fun _ => ⟨runtime, changed⟩⟩
  | ok runtime' =>
      apply Actor.Sat.perform
      intro w₁ rely answer w₂ step
      have before := stable w w₁ known.1 rely
      have same : w₁.runtime = runtime := (own.runtime w w₁ rely).trans known.2
      obtain ⟨kept, returned, failed⟩ := writes runtime' w₁ answer w₂ before (same ▸ changed) step
      refine ⟨kept, fun w₃ rely' => ?_⟩
      cases answer with
      | ok _ => exact stable' w₂ w₃ (returned rfl) rely'
      | error exc =>
          obtain ⟨rfl, -, -, rfl⟩ := (own.steps _ _ _ _ step).interrupted rfl
          exact ⟨stable _ w₃ (failed rfl) rely', nofun⟩

end

section
variable {env : BridgeEnv} {exec : Pool.Exec Thread BridgeOp BridgeOp.Answer PyException World}
  {law : Thread → BridgeOp → World → Prop} {inv P P' : World → Prop}
  {calm : World → World → Prop}

/-- An operation of the control thread that is always lawful and disturbs nothing. -/
def Harmless (exec : Pool.Exec Thread BridgeOp BridgeOp.Answer PyException World)
    (law : Thread → BridgeOp → World → Prop) (calm : World → World → Prop) (op : BridgeOp) : Prop :=
  ∀ w answer w', exec .control op w answer w' → law .control op w ∧ calm w w'

theorem keeps_harmless {α : Type} {p : Bridge α} (d : Actor.Discipline exec law .control inv calm)
    (lasts : Actor.Lasts calm P) (calls : p.Calls (Harmless exec law calm)) :
    (Actor.member exec law .control).Keeps (Actor.Under inv P) p := by
  refine Actor.keeps_of_calls (d.stable lasts) ?_ calls
  intro op w answer w' harmless h step
  obtain ⟨may, calmly⟩ := harmless w answer w' step
  exact ⟨⟨op, answer, step, may⟩, d.keeps _ _ _ _ _ may step h.1, lasts w w' calmly h.2⟩

theorem stable_interrupts (d : Actor.Discipline exec law .control inv calm)
    (lasts : Actor.Lasts calm P) (exc : PyException) :
    (Actor.member exec law .control).Stable (Interrupts (Actor.Under inv P) exc) :=
  fun w w' h rely => ⟨d.stable lasts w w' h.1 rely, h.2⟩

/-- Such an operation, if it cannot fail. -/
theorem triple_quiet (own : ControlActor env (Actor.member exec law .control))
    (d : Actor.Discipline exec law .control inv calm) (lasts : Actor.Lasts calm P) (op : BridgeOp)
    (harmless : Harmless exec law calm op) (certain : op.certain = true) :
    (Actor.member exec law .control).Triple (Actor.Under inv P)
      (Prog.perform op : Bridge op.Answer) (fun _ => Actor.Under inv P)
      (Interrupts (Actor.Under inv P)) := by
  intro w before
  apply Actor.Sat.perform
  intro w₁ rely answer w₂ step
  have here := d.stable lasts w w₁ before rely
  obtain ⟨may, calmly⟩ := harmless w₁ answer w₂ step
  have after : Actor.Under inv P w₂ :=
    ⟨d.keeps _ _ _ _ _ may step here.1, lasts w₁ w₂ calmly here.2⟩
  refine ⟨⟨op, answer, step, may⟩, fun w₃ rely' => ?_⟩
  cases answer with
  | ok value => exact d.stable lasts w₂ w₃ after rely'
  | error exc =>
      obtain ⟨rfl, -⟩ := (own.steps _ _ _ _ step).interrupted certain
      exact ⟨d.stable lasts w₂ w₃ after rely', rfl⟩

theorem triple_isActive (own : ControlActor env (Actor.member exec law .control))
    (d : Actor.Discipline exec law .control inv calm) (lasts : Actor.Lasts calm P)
    (session : Harmless exec law calm .readSession)
    (key : Harmless exec law calm .readActiveSessionKey) :
    (Actor.member exec law .control).Triple (Actor.Under inv P)
      PersistentActiveReaderExecutor.isActive (fun _ => Actor.Under inv P)
      (Interrupts (Actor.Under inv P)) := by
  apply Actor.Triple.seq (stable_interrupts d lasts)
    (triple_quiet own d lasts .readSession session rfl)
  intro session
  split
  · exact Actor.triple_ret (d.stable lasts) fun _ => id
  · apply Actor.Triple.seq (stable_interrupts d lasts)
      (triple_quiet own d lasts .readActiveSessionKey key rfl)
    exact fun key => Actor.triple_ret (d.stable lasts) fun _ => id

/-- A change of the runtime under a law, taken in full or not at all. -/
theorem triple_change {device : ReaderDevice}
    {change : LocalReaderRuntime → Except PyException LocalReaderRuntime}
    (own : ControlActor env (Actor.member exec law .control))
    (d : Actor.Discipline exec law .control inv calm) (lasts : Actor.Lasts calm P)
    (lasts' : Actor.Lasts calm P')
    (reads : Harmless exec law calm .readRuntime)
    (unwritten : ∀ runtime w answer w', exec .control (.writeRuntime runtime) w answer w' →
      w'.runtime = w.runtime → calm w w')
    (lawful : ∀ runtime w, Actor.Under inv P w → change w.runtime = .ok runtime →
      law .control (.writeRuntime runtime) w)
    (moves : ∀ runtime w w', Actor.Under inv P w → change w.runtime = .ok runtime →
      BridgeStep env .control (.writeRuntime runtime) w (.ok ()) w' → P' w') :
    (Actor.member exec law .control).Triple (Actor.Under inv P)
      (updateRuntime (FinalWorkerCycle.collaborators device) change)
      (fun _ => Actor.Under inv P')
      fun exc w => Actor.Under inv P w ∧
        (exc.isException = true → ∃ runtime, change runtime = .error exc) := by
  apply triple_updateRuntime own (d.stable lasts) (d.stable lasts')
  · intro w answer w' h step
    obtain ⟨may, calmly⟩ := reads w answer w' step
    exact ⟨⟨_, answer, step, may⟩, d.keeps _ _ _ _ _ may step h.1, lasts w w' calmly h.2⟩
  · intro runtime w answer w' h changed step
    have may := lawful runtime w h changed
    have holds := d.keeps _ _ _ _ _ may step h.1
    refine ⟨⟨_, answer, step, may⟩, ?_, ?_⟩
    · rintro rfl
      exact ⟨holds, moves runtime w w' h changed (own.steps _ _ _ _ step)⟩
    · exact fun same => ⟨holds, lasts w w' (unwritten runtime w answer w' step same) h.2⟩

/-- An error of the runtime that leaves process_command is no failure of the transport. -/
theorem escapes_of_change {cut : World → Prop} {exc : PyException} {w : World}
    {change : LocalReaderRuntime → Except PyException LocalReaderRuntime}
    (own : ∀ runtime exc, change runtime = .error exc → exc.cls = .runtimeStateError)
    (after : cut w) (h : exc.isException = true → ∃ runtime, change runtime = .error exc) :
    Escapes cut exc w := by
  refine ⟨after, fun transport => ?_⟩
  obtain ⟨runtime, raised⟩ := h (by simp [PyException.isException, transport])
  cases (own runtime exc raised).symm.trans transport

end

/-- What the control loop does between two commands. -/
def BridgeOp.betweenCommands : BridgeOp → Bool
  | .readRuntime | .readCaptureError | .heartbeat _ | .commands | .sleep | .rounds | .beyond => true
  | _ => false

/-- An exception that leaves the control loop, or that the loop survives. -/
def LeavesLoop (stopped waiting : World → Prop) (exc : PyException) (w : World) : Prop :=
  stopped w ∧ (exc.cls = .odooRfidApiTransportError → waiting w)

structure WorkerContract (a : Actor BridgeOp BridgeOp.Answer PyException World) (env : BridgeEnv)
    where
  inCommand : ∀ command, CommandContract a (FinalWorkerCycle.collaborators env.device) command
  booting : World → Prop
  /-- The reader has answered the STOP of the startup. -/
  verified : World → Prop
  /-- No session of an earlier process is active. -/
  clean : World → Prop
  /-- In the control loop, outside process_command. -/
  waiting : World → Prop
  /-- The control loop has ended, in whatever way. -/
  stopped : World → Prop
  stable_booting : a.Stable booting
  stable_waiting : a.Stable waiting
  stable_stopped : a.Stable stopped
  stopped_of_waiting : ∀ w, waiting w → stopped w
  stopped_of_cut : ∀ command w, (inCommand command).cut w → stopped w
  verifyIdle : a.Triple booting (PersistentActiveReaderExecutor.verifyIdle env.device)
    (fun _ => verified) fun _ _ => True
  countActiveSessions : a.Triple verified (store (.countActiveSessions env.device.id))
    (fun existingActive w => existingActive = 0 → clean w) fun _ _ => True
  markReaderVerifiedIdle : a.Triple clean
    (FinalRuntimeOrchestrator.markReaderVerifiedIdle (FinalWorkerCycle.collaborators env.device))
    (fun _ => waiting) fun _ _ => True
  between : ∀ op : BridgeOp, op.betweenCommands = true → a.Keeps waiting (Prog.perform op)
  enters : ∀ command, a.Triple waiting (Prog.perform (BridgeOp.commandEntered command))
    (fun _ => (inCommand command).entered) (LeavesLoop stopped waiting)
  returns : ∀ command, a.Triple (inCommand command).ready
    (Prog.perform (BridgeOp.commandReturned command)) (fun _ => waiting)
    (LeavesLoop stopped waiting)
  safeShutdownReader : a.Triple stopped (Command.safeShutdownReader env.device)
    (fun _ _ => True) fun _ _ => True

namespace WorkerContract
variable {a : Actor BridgeOp BridgeOp.Answer PyException World} {env : BridgeEnv} {α β : Type}
  (C : WorkerContract a env)

theorem stable_leaves (exc : PyException) : a.Stable (LeavesLoop C.stopped C.waiting exc) :=
  fun w w' h rely => ⟨C.stable_stopped w w' h.1 rely,
    fun transport => C.stable_waiting w w' (h.2 transport) rely⟩

/-- A part of the loop that keeps it waiting however it ends. -/
theorem triple_of_keeps {p : Bridge α} (h : a.Keeps C.waiting p) :
    a.Triple C.waiting p (fun _ => C.waiting) (LeavesLoop C.stopped C.waiting) :=
  h.triple.conseq (fun _ => id) (fun _ _ => id)
    fun _ w waiting => ⟨C.stopped_of_waiting w waiting, fun _ => waiting⟩

theorem triple_between (op : BridgeOp) (between : op.betweenCommands = true) :
    a.Triple C.waiting (Prog.perform op : Bridge op.Answer) (fun _ => C.waiting)
      (LeavesLoop C.stopped C.waiting) :=
  C.triple_of_keeps (C.between op between)

theorem triple_waits {Q : α → World → Prop} {value : α} (post : ∀ w, C.waiting w → Q value w) :
    a.Triple C.waiting (.ret value) Q (LeavesLoop C.stopped C.waiting) :=
  Actor.triple_ret C.stable_waiting post

theorem triple_leaves {Q : α → World → Prop} {exc : PyException} :
    a.Triple C.waiting (.raise exc : Bridge α) Q (LeavesLoop C.stopped C.waiting) :=
  Actor.triple_raise C.stable_waiting
    fun w waiting => ⟨C.stopped_of_waiting w waiting, fun _ => waiting⟩

theorem requireHealthy :
    a.Triple C.waiting FinalCaptureService.requireHealthy (fun _ => C.waiting)
      (LeavesLoop C.stopped C.waiting) := by
  apply Actor.Triple.seq C.stable_leaves (C.triple_between .readCaptureError rfl)
  intro error
  cases error with
  | some error => exact C.triple_leaves
  | none => exact C.triple_waits fun _ => id

theorem processCommand (command : OdooRFIDCommand) :
    a.Triple C.waiting (FinalWorkerCycle.processCommand env.device command) (fun _ => C.waiting)
      (LeavesLoop C.stopped C.waiting) := by
  apply Actor.Triple.seq C.stable_leaves (C.enters command)
  intro _
  apply Actor.Triple.seq C.stable_leaves (Q := fun _ => (C.inCommand command).ready)
  · apply (C.inCommand command).processCommand.conseq (fun _ => id) (fun _ _ => id)
    exact fun exc w escapes =>
      ⟨C.stopped_of_cut command w escapes.1, fun transport => absurd transport escapes.2⟩
  intro result
  apply Actor.Triple.seq C.stable_leaves (C.returns command)
  exact fun _ => C.triple_waits fun _ => id

theorem pollCommands (py : Builtins) :
    a.Triple C.waiting (FinalRuntimeOrchestrator.pollCommands
        (FinalWorkerCycle.collaborators env.device) py
        (FinalWorkerCycle.processCommand env.device)) (fun _ => C.waiting)
      (LeavesLoop C.stopped C.waiting) := by
  apply Actor.Triple.seq C.stable_leaves (C.triple_between .commands rfl)
  intro payloads
  apply Actor.Triple.seq C.stable_leaves (Q := fun _ => C.waiting)
  · apply Actor.triple_forEach C.stable_waiting C.stable_leaves
    intro payload _
    apply Actor.Triple.seq C.stable_leaves (Q := fun _ => C.waiting)
    · exact C.triple_of_keeps (Actor.keeps_ofExcept C.stable_waiting _)
    intro command
    apply Actor.Triple.seq C.stable_leaves (C.triple_between .readRuntime rfl)
    intro runtime
    split
    · exact C.triple_waits fun _ => id
    · apply Actor.Triple.seq C.stable_leaves (C.processCommand command)
      exact fun result => C.triple_waits fun _ => id
  · exact fun results => C.triple_waits fun _ => id

theorem runOnce (py : Builtins) :
    a.Triple C.waiting (FinalWorkerCycle.runOnce env.device py) (fun _ => C.waiting)
      (LeavesLoop C.stopped C.waiting) := by
  apply Actor.Triple.seq C.stable_leaves C.requireHealthy
  intro _
  apply Actor.Triple.seq C.stable_leaves (Q := fun _ => C.waiting)
  · apply Actor.Triple.seq C.stable_leaves (C.triple_between .readRuntime rfl)
    exact fun runtime => C.triple_between (.heartbeat runtime) rfl
  intro _
  apply Actor.Triple.seq C.stable_leaves (C.pollCommands py)
  exact fun _ => C.requireHealthy

theorem whileTrue {round : Bridge (Option α)}
    (h : a.Triple C.waiting round (fun _ => C.waiting) (LeavesLoop C.stopped C.waiting)) :
    a.Triple C.waiting (whileTrue round) (fun _ => C.waiting)
      (LeavesLoop C.stopped C.waiting) := by
  apply Actor.Triple.seq C.stable_leaves (C.triple_between .rounds rfl)
  intro rounds
  induction rounds with
  | zero => exact Actor.Triple.seq C.stable_leaves (C.triple_between .beyond rfl) nofun
  | succ n ih =>
      apply Actor.Triple.seq C.stable_leaves h
      intro result
      cases result with
      | some value => exact C.triple_waits fun _ => id
      | none => exact ih

theorem finiteCycles (py : Builtins) (cycles : Nat) :
    a.Triple C.waiting (Command.finiteCycles py env.device cycles) (fun _ => C.waiting)
      (LeavesLoop C.stopped C.waiting) := by
  induction cycles with
  | zero => exact C.triple_waits fun _ => id
  | succ n ih =>
      cases n with
      | zero => exact C.runOnce py
      | succ n =>
          apply Actor.Triple.seq C.stable_leaves (C.runOnce py)
          intro _
          exact Actor.Triple.seq C.stable_leaves (C.triple_between .sleep rfl) fun _ => ih

theorem endlessCycle (py : Builtins) :
    a.Triple C.waiting (Command.endlessCycle py env.device) (fun _ => C.waiting)
      (LeavesLoop C.stopped C.waiting) := by
  apply Actor.Triple.seq C.stable_leaves (Q := fun _ => C.waiting)
  · apply Actor.Triple.handle (C.runOnce py)
    · exact fun _ => C.triple_waits fun _ => id
    · intro exc
      dsimp only [Command.retryTransport]
      split
      · rename_i transport
        exact Actor.triple_ret (C.stable_leaves exc) fun w leaves => leaves.2 transport
      · exact Actor.triple_raise (C.stable_leaves exc) fun _ => id
  · intro _
    apply Actor.Triple.seq C.stable_leaves (C.triple_between .sleep rfl)
    exact fun _ => C.triple_waits fun _ => id

theorem controlLoop (py : Builtins) (maxCycles : Option Nat) :
    a.Triple C.waiting (Command.controlLoop py env.device maxCycles) (fun _ => C.waiting)
      (LeavesLoop C.stopped C.waiting) := by
  cases maxCycles with
  | some cycles => exact C.finiteCycles py cycles
  | none => exact C.whileTrue (C.endlessCycle py)

/-- The control loop and the shutdown behind it. -/
theorem runWorker (py : Builtins) (maxCycles : Option Nat) :
    a.Triple C.clean (Command.runWorker py env.device maxCycles) (fun _ _ => True)
      fun _ _ => True := by
  have all : ∀ exc : PyException, a.Stable fun _ => True := fun _ _ _ _ _ => trivial
  have shutdown : a.Triple C.stopped (do
      let _ ← Command.safeShutdownReader env.device
      pure ()) (fun _ _ => True) fun _ _ => True :=
    Actor.Triple.seq all C.safeShutdownReader fun _ =>
      Actor.triple_ret (fun _ _ _ _ => trivial) fun _ => id
  apply Actor.Triple.seq all C.markReaderVerifiedIdle
  intro _
  apply Actor.Triple.handle (Q := fun _ => C.stopped) (E := fun _ => C.stopped)
  · apply Actor.Triple.handle (C.controlLoop py maxCycles)
    · exact fun _ => Actor.triple_ret C.stable_waiting C.stopped_of_waiting
    · intro exc
      dsimp only
      split
      · exact Actor.triple_ret (C.stable_leaves exc) fun _ leaves => leaves.1
      · exact Actor.triple_raise (C.stable_leaves exc) fun _ leaves => leaves.1
  · exact fun _ => Actor.Triple.seq all shutdown fun _ =>
      Actor.triple_ret (fun _ _ _ _ => trivial) fun _ => id
  · exact fun exc => Actor.Triple.seq all shutdown fun _ =>
      Actor.triple_raise (fun _ _ _ _ => trivial) fun _ => id

/-- The whole command. -/
theorem handle (py : Builtins) (settings : CommandSettings) :
    a.Triple C.booting (Command.handle py settings (some env.device)) (fun _ _ => True)
      fun _ _ => True := by
  have all : ∀ exc : PyException, a.Stable fun _ => True := fun _ _ _ _ _ => trivial
  have check : ∀ {α : Type} (x : Except PyException α),
      a.Triple C.booting (Prog.ofExcept x) (fun value w => x = .ok value ∧ C.booting w)
        fun _ _ => True := by
    intro α x
    cases x with
    | ok value => exact Actor.triple_ret C.stable_booting fun w boots => ⟨rfl, boots⟩
    | error exc => exact Actor.triple_raise C.stable_booting fun _ _ => trivial
  apply Actor.Triple.seq all (check _)
  rintro maxCycles w ⟨-, boots⟩
  revert w
  apply Actor.Triple.seq all (check _)
  rintro _ w ⟨-, boots⟩
  revert w
  apply Actor.Triple.seq all (check _)
  rintro device w ⟨found, boots⟩
  rw [Command.requireReader_eq_ok found]
  revert w
  apply Actor.Triple.seq all C.verifyIdle
  intro _
  apply Actor.Triple.seq all C.countActiveSessions
  intro existingActive w counted
  by_cases stale : existingActive ≠ 0
  · rw [if_pos stale]
    exact Actor.Sat.raise fun _ _ => trivial
  · rw [if_neg stale]
    exact C.runWorker py maxCycles w (counted (not_not.mp stale))

end WorkerContract
end RfidBridge
