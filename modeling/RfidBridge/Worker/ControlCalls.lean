import RfidBridge.Worker.ThreadCalls

/-!
What the control thread can call: everything but a request for an event, a step of a
delivery or a dead-letter pass. Whatever its collaborators keep to, the orchestrator keeps to.
-/

namespace RfidBridge
open FinalRuntimeOrchestrator

section
variable {ι : Type} {ρ : ι → Type} {allowed : ι → Prop}

/-- A hook that is set keeps to the allowed operations. -/
def HookCalls (allowed : ι → Prop) (hook : Option (String → String → Program ι ρ Unit)) : Prop :=
  ∀ run, hook = some run → ∀ sessionKey readerCode, (run sessionKey readerCode).Calls allowed

structure CollaboratorCalls (allowed : ι → Prop) (orch : Collaborators ι ρ) : Prop where
  readRuntime : orch.readRuntime.Calls allowed
  writeRuntime : ∀ runtime, (orch.writeRuntime runtime).Calls allowed
  heartbeat : ∀ runtime, (orch.heartbeat runtime).Calls allowed
  commands : orch.commands.Calls allowed
  ack : ∀ request, (orch.ack request).Calls allowed
  synchronizeStartCommand : ∀ command, (orch.synchronizeStartCommand command).Calls allowed
  closeLocalSession : ∀ key code, (orch.closeLocalSession key code).Calls allowed
  cancelLocalSession : ∀ key code, (orch.cancelLocalSession key code).Calls allowed
  readerStart : ∀ key code, (orch.readerStart key code).Calls allowed
  readerStop : ∀ key code, (orch.readerStop key code).Calls allowed
  readerVerifyIdle : orch.readerVerifyIdle.Calls allowed
  readerIsActive : orch.readerIsActive.Calls allowed
  afterReaderStart : HookCalls allowed orch.afterReaderStart
  beforeReaderStop : HookCalls allowed orch.beforeReaderStop
  beforeSessionClose : HookCalls allowed orch.beforeSessionClose
  beforeSuccessAck : HookCalls allowed orch.beforeSuccessAck

theorem calls_attempt {α : Type} {body : Program ι ρ α} (h : body.Calls allowed) :
    (attempt body).Calls allowed :=
  calls_tryElse h (fun _ => Prog.calls_pure _ _) fun _ => Prog.calls_pure _ _

theorem calls_runHook {hook : Option (String → String → Program ι ρ Unit)}
    (h : HookCalls allowed hook) (command : OdooRFIDCommand) :
    (runHook hook command).Calls allowed := by
  cases hook with
  | some run => exact h run rfl _ _
  | none => exact Prog.calls_pure _ _

namespace CollaboratorCalls
variable {orch : Collaborators ι ρ} (h : CollaboratorCalls allowed orch)
  (command : OdooRFIDCommand)
include h

theorem updateRuntime (step : LocalReaderRuntime → Except PyException LocalReaderRuntime) :
    (FinalRuntimeOrchestrator.updateRuntime orch step).Calls allowed := by
  apply Prog.calls_bind h.readRuntime
  intro runtime
  exact Prog.calls_bind (Prog.calls_ofExcept _ _) h.writeRuntime

theorem resultNow (success : Bool) (message : String) :
    (FinalRuntimeOrchestrator.resultNow orch command success message).Calls allowed :=
  Prog.calls_bind h.readRuntime fun _ => Prog.calls_pure _ _

theorem sendFailureAck (message : String) :
    (FinalRuntimeOrchestrator.sendFailureAck orch command message).Calls allowed :=
  calls_tryElse (h.ack _) (fun _ => Prog.calls_pure _ _) fun _ => Prog.calls_pure _ _

theorem sendCompletedSuccessAck :
    (FinalRuntimeOrchestrator.sendCompletedSuccessAck orch command).Calls allowed := by
  apply Prog.calls_bind
  · cases command.command == RuntimeCommand.stop with
    | true => exact calls_runHook h.beforeSuccessAck command
    | false => exact Prog.calls_pure _ _
  intro _
  apply Prog.calls_bind (h.ack _)
  intro result
  cases !result.isOk with
  | true => exact Prog.calls_raise _ _
  | false => exact Prog.calls_pure _ _

theorem completeCommand (pending accepted : String) :
    (FinalRuntimeOrchestrator.completeCommand orch command pending accepted).Calls allowed := by
  apply Prog.calls_bind (h.updateRuntime _)
  intro _
  exact calls_tryElse (h.sendCompletedSuccessAck command) (fun _ => h.resultNow command _ _)
    fun _ => h.resultNow command _ _

theorem emergencyStop : (FinalRuntimeOrchestrator.emergencyStop orch command).Calls allowed := by
  apply Prog.calls_bind (calls_runHook h.beforeReaderStop command)
  intro _
  apply Prog.calls_bind (h.readerStop _ _)
  exact fun _ => calls_runHook h.beforeSessionClose command

theorem startFailed (sessionSync : Option SessionSyncResult) (exc : PyException) :
    (FinalRuntimeOrchestrator.startFailed orch command sessionSync exc).Calls allowed := by
  apply Prog.calls_bind h.readerIsActive
  intro active
  apply Prog.calls_bind
  · split
    · exact calls_attempt (h.emergencyStop command)
    · exact Prog.calls_pure _ _
  intro stopError
  apply Prog.calls_bind
  · split
    · exact calls_attempt (h.cancelLocalSession _ _)
    · exact Prog.calls_pure _ _
  intro cleanupError
  apply Prog.calls_bind (h.updateRuntime _)
  intro _
  exact Prog.calls_bind (h.sendFailureAck command _) fun _ => h.resultNow command _ _

theorem startReader : (FinalRuntimeOrchestrator.startReader orch command).Calls allowed := by
  apply Prog.calls_bind (h.readerStart _ _)
  intro _
  apply Prog.calls_bind (h.updateRuntime _)
  exact fun _ => calls_runHook h.afterReaderStart command

theorem executeStart (planned : LocalReaderRuntime) :
    (FinalRuntimeOrchestrator.executeStart orch command planned).Calls allowed := by
  apply Prog.calls_bind (h.writeRuntime _)
  intro _
  apply calls_tryElse (h.synchronizeStartCommand _) (h.startFailed command none)
  intro sessionSync
  exact calls_tryElse (h.startReader command) (h.startFailed command _)
    fun _ => h.completeCommand command _ _

theorem stopReader : (FinalRuntimeOrchestrator.stopReader orch command).Calls allowed := by
  apply Prog.calls_bind (calls_runHook h.beforeReaderStop command)
  intro _
  apply Prog.calls_bind (h.readerStop _ _)
  intro _
  apply Prog.calls_bind (h.updateRuntime _)
  intro _
  apply Prog.calls_bind (calls_runHook h.beforeSessionClose command)
  exact fun _ => h.closeLocalSession _ _

theorem executeStop (planned : LocalReaderRuntime) :
    (FinalRuntimeOrchestrator.executeStop orch command planned).Calls allowed := by
  apply Prog.calls_bind (h.writeRuntime _)
  intro _
  apply calls_tryElse (h.stopReader command)
  · intro exc
    apply Prog.calls_bind (h.updateRuntime _)
    intro _
    exact Prog.calls_bind (h.sendFailureAck command _) fun _ => h.resultNow command _ _
  · exact fun _ => h.completeCommand command _ _

theorem abortReader : (FinalRuntimeOrchestrator.abortReader orch command).Calls allowed := by
  apply Prog.calls_bind (calls_runHook h.beforeReaderStop command)
  intro _
  apply Prog.calls_bind h.readerIsActive
  intro active
  apply Prog.calls_bind
  · split
    · exact h.readerStop _ _
    · exact h.readerVerifyIdle
  intro _
  apply Prog.calls_bind (h.updateRuntime _)
  intro _
  apply Prog.calls_bind (calls_runHook h.beforeSessionClose command)
  intro _
  apply Prog.calls_tryExcept (h.cancelLocalSession _ _)
  intro exc
  split
  · exact Prog.calls_pure _ _
  · exact Prog.calls_raise _ _

theorem executeAbort (planned : LocalReaderRuntime) :
    (FinalRuntimeOrchestrator.executeAbort orch command planned).Calls allowed := by
  apply Prog.calls_bind (h.writeRuntime _)
  intro _
  apply calls_tryElse (h.abortReader command)
  · intro exc
    exact Prog.calls_bind (h.updateRuntime _) fun _ => h.resultNow command _ _
  · exact fun _ => h.completeCommand command _ _

theorem processCommand :
    (FinalRuntimeOrchestrator.processCommand orch command).Calls allowed := by
  apply Prog.calls_bind h.readRuntime
  intro runtime
  split
  · exact Prog.calls_bind (h.sendFailureAck command _) fun _ => h.resultNow command _ _
  split
  · exact calls_tryElse (h.sendCompletedSuccessAck command) (fun _ => h.resultNow command _ _)
      fun _ => h.resultNow command _ _
  split
  · exact h.executeStart command _
  · exact h.executeStop command _
  · exact h.executeAbort command _

theorem markReaderVerifiedIdle :
    (FinalRuntimeOrchestrator.markReaderVerifiedIdle orch).Calls allowed := by
  apply Prog.calls_bind h.readRuntime
  intro runtime
  split
  · exact Prog.calls_raise _ _
  · exact h.writeRuntime _

theorem pollCommands (py : Builtins)
    {process : OdooRFIDCommand → Program ι ρ CommandExecutionResult}
    (processes : ∀ command, (process command).Calls allowed) :
    (FinalRuntimeOrchestrator.pollCommands orch py process).Calls allowed := by
  apply Prog.calls_bind h.commands
  intro payloads
  apply Prog.calls_bind
  · apply Prog.calls_forEach
    intro payload _
    apply Prog.calls_bind (Prog.calls_ofExcept _ _)
    intro command
    apply Prog.calls_bind h.readRuntime
    intro runtime
    split
    · exact Prog.calls_pure _ _
    · exact Prog.calls_bind (processes command) fun _ => Prog.calls_pure _ _
  · exact fun _ => Prog.calls_pure _ _

end CollaboratorCalls
end

/-- What the parts of the command keep to, on its reader. -/
structure CommandCalls (allowed : BridgeOp → Prop) (device : ReaderDevice) : Prop where
  collaborators : CollaboratorCalls allowed (FinalWorkerCycle.collaborators device)
  requireHealthy : FinalCaptureService.requireHealthy.Calls allowed
  stopCapture : ∀ key code, (FinalWorkerCycle.stopCapture device key code).Calls allowed
  drainPendingTags : ∀ key code, (FinalWorkerCycle.drainPendingTags device key code).Calls allowed
  close : PersistentActiveReaderExecutor.close.Calls allowed
  readActiveSessionKey : allowed .readActiveSessionKey
  countActiveSessions : allowed (.store (.countActiveSessions device.id))
  marks : ∀ command, allowed (.commandEntered command) ∧ allowed (.commandReturned command)
  sleep : allowed .sleep
  rounds : allowed .rounds
  beyond : allowed .beyond

namespace CommandCalls
variable {allowed : BridgeOp → Prop} {device : ReaderDevice} (h : CommandCalls allowed device)
include h

theorem runOnce (py : Builtins) : (FinalWorkerCycle.runOnce device py).Calls allowed := by
  apply Prog.calls_bind h.requireHealthy
  intro _
  apply Prog.calls_bind
  · exact Prog.calls_bind h.collaborators.readRuntime h.collaborators.heartbeat
  intro _
  apply Prog.calls_bind
  · apply h.collaborators.pollCommands py
    intro command
    apply Prog.calls_bind (Prog.calls_perform (h.marks command).1)
    intro _
    apply Prog.calls_bind (h.collaborators.processCommand command)
    exact fun _ => Prog.calls_bind (Prog.calls_perform (h.marks command).2)
      fun _ => Prog.calls_pure _ _
  · exact fun _ => h.requireHealthy

theorem finiteCycles (py : Builtins) (cycles : Nat) :
    (Command.finiteCycles py device cycles).Calls allowed := by
  induction cycles with
  | zero => exact Prog.calls_pure _ _
  | succ n ih =>
      cases n with
      | zero => exact h.runOnce py
      | succ n =>
          apply Prog.calls_bind (h.runOnce py)
          intro _
          exact Prog.calls_bind (Prog.calls_perform h.sleep) fun _ => ih

theorem controlLoop (py : Builtins) (maxCycles : Option Nat) :
    (Command.controlLoop py device maxCycles).Calls allowed := by
  cases maxCycles with
  | some cycles => exact h.finiteCycles py cycles
  | none =>
      apply calls_whileTrue h.rounds h.beyond
      apply Prog.calls_bind
      · apply Prog.calls_tryExcept (h.runOnce py)
        intro exc
        unfold Command.retryTransport
        split
        · exact Prog.calls_pure _ _
        · exact Prog.calls_raise _ _
      · exact fun _ => Prog.calls_bind (Prog.calls_perform h.sleep) fun _ => Prog.calls_pure _ _

theorem shutdownActiveReader (sessionKey : String) :
    (Command.shutdownActiveReader device sessionKey).Calls allowed := by
  apply Prog.calls_bind
  · apply calls_tryElse
    · exact Prog.calls_bind (h.stopCapture _ _) fun _ => h.collaborators.readerStop _ _
    · exact fun _ => Prog.calls_raise _ _
    · exact fun _ => Prog.calls_pure _ _
  intro _
  apply Prog.calls_bind
  · apply calls_tryElse (h.drainPendingTags _ _)
    · exact fun _ => Prog.calls_raise _ _
    · exact fun _ => Prog.calls_pure _ _
  · exact fun _ => Prog.calls_pure _ _

theorem safeShutdownReader : (Command.safeShutdownReader device).Calls allowed := by
  apply Prog.calls_bind h.collaborators.readerIsActive
  intro active
  split
  · apply Prog.calls_bind (h.stopCapture _ _)
    intro _
    exact Prog.calls_bind h.close fun _ => Prog.calls_pure _ _
  · refine Prog.calls_bind (Prog.calls_perform h.readActiveSessionKey) ?_
    intro activeKey
    split
    · exact Prog.calls_bind h.close fun _ => Prog.calls_raise _ _
    · exact h.shutdownActiveReader _

theorem runWorker (py : Builtins) (maxCycles : Option Nat) :
    (Command.runWorker py device maxCycles).Calls allowed := by
  apply Prog.calls_bind h.collaborators.markReaderVerifiedIdle
  intro _
  apply Prog.calls_tryFinally
  · apply Prog.calls_tryExcept (h.controlLoop py maxCycles)
    intro exc
    split
    · exact Prog.calls_pure _ _
    · exact Prog.calls_raise _ _
  · exact Prog.calls_bind h.safeShutdownReader fun _ => Prog.calls_pure _ _

/-- The whole command. -/
theorem handle (py : Builtins) (settings : CommandSettings) :
    (Command.handle py settings (some device)).Calls allowed := by
  apply Prog.calls_bind (Prog.calls_ofExcept _ _)
  intro maxCycles
  apply Prog.calls_bind (Prog.calls_ofExcept _ _)
  intro _
  cases found : Command.requireReader settings (some device) with
  | error exc => exact Prog.calls_raise _ _
  | ok device' =>
      obtain rfl := Command.requireReader_eq_ok found
      apply Prog.calls_bind h.collaborators.readerVerifyIdle
      intro _
      apply Prog.calls_bind (Prog.calls_perform h.countActiveSessions)
      intro existingActive
      split
      · exact Prog.calls_raise _ _
      · exact h.runWorker py maxCycles

end CommandCalls

/-- The transactions of the control thread: sessions, final ingestion and queries. -/
def StoreOp.controls : StoreOp → Bool
  | .synchronizeStartCommand _ | .closeLocalSession .. | .cancelLocalSession ..
  | .countActiveSessions _ | .ingestFinalActiveTagFrames .. | .finalQueueStates .. => true
  | _ => false

/-- The operations of the control thread. -/
def BridgeOp.controls : BridgeOp → Prop
  | .events .. => False
  | .store op => op.controls = true
  | _ => True

section
variable {device : ReaderDevice}

theorem controls_of_captures {op : BridgeOp} (h : op.captures) : op.controls := by
  cases op with
  | store op => cases op <;> first | rfl | exact h.elim
  | events _ _ _ _ => exact h
  | _ => trivial

theorem controls_captures {α : Type} {p : Bridge α} (h : p.Calls BridgeOp.captures) :
    p.Calls BridgeOp.controls :=
  h.mono fun _ => controls_of_captures

theorem controls_store {op : StoreOp} (h : op.controls = true) :
    (store op).Calls BridgeOp.controls :=
  Prog.calls_perform h

theorem controls_collaborators :
    CollaboratorCalls BridgeOp.controls (FinalWorkerCycle.collaborators device) where
  readRuntime := Prog.calls_perform (by trivial)
  writeRuntime _ := Prog.calls_perform (by trivial)
  heartbeat _ := Prog.calls_perform (by trivial)
  commands := Prog.calls_perform (by trivial)
  ack _ := Prog.calls_perform (by trivial)
  synchronizeStartCommand _ := controls_store rfl
  closeLocalSession _ _ := Prog.calls_bind (controls_store rfl) fun _ => Prog.calls_pure _ _
  cancelLocalSession _ _ := Prog.calls_bind (controls_store rfl) fun _ => Prog.calls_pure _ _
  readerStart _ _ := controls_captures (captures_start _ _)
  readerStop _ _ := controls_captures (captures_stop _ _)
  readerVerifyIdle := controls_captures captures_verifyIdle
  readerIsActive := controls_captures captures_isActive
  afterReaderStart := by
    rintro _ ⟨⟩
    exact fun _ _ => controls_captures (captures_startCapture _ _)
  beforeReaderStop := by
    rintro _ ⟨⟩
    exact fun _ _ => controls_captures (captures_stopCapture _ _)
  beforeSessionClose := by
    rintro _ ⟨⟩
    exact fun _ _ => controls_captures (captures_drainPendingTags _ _)
  beforeSuccessAck := by
    rintro _ ⟨⟩ sessionKey readerCode
    unfold FinalWorkerCycle.requireStopDeliveryComplete
    split
    · exact Prog.calls_raise _ _
    · exact Prog.calls_bind (calls_requireFinalSessionDeliveryComplete fun _ _ =>
        controls_store rfl) fun _ => Prog.calls_pure _ _

theorem controls_command : CommandCalls BridgeOp.controls device where
  collaborators := controls_collaborators
  requireHealthy := controls_captures captures_requireHealthy
  stopCapture _ _ := controls_captures (captures_stopCapture _ _)
  drainPendingTags _ _ := controls_captures (captures_drainPendingTags _ _)
  close := controls_captures captures_close
  readActiveSessionKey := trivial
  countActiveSessions := rfl
  marks _ := ⟨trivial, trivial⟩
  sleep := trivial
  rounds := trivial
  beyond := trivial

end

/-- Which operations the code of a thread can call, the control thread's own included. -/
def BridgeOp.within : Thread → BridgeOp → Prop
  | .control, op => op.controls
  | t, op => op.belongs t

theorem within_of_body {env : BridgeEnv} (t : Thread) (p : Bridge Unit)
    (body : BridgeBody env t p) : p.Calls (BridgeOp.within t) := by
  have belongs := belongs_of_body t p body
  cases body <;> exact belongs

end RfidBridge
