import RfidBridge.Library.Actor
import RfidBridge.Runtime.Orchestrator

/-!
Runs of process_command with collaborators that may answer or raise anything. What
one call does to the runtime and which calls it makes decide what a whole run of
commands does: which are executed, and which acknowledgements are sent.
-/

namespace RfidBridge

inductive Hook
  | afterReaderStart
  | beforeReaderStop
  | beforeSessionClose
  | beforeSuccessAck
  deriving DecidableEq, Repr

inductive OrchestratorOp
  | readRuntime
  | writeRuntime (runtime : LocalReaderRuntime)
  | heartbeat (runtime : LocalReaderRuntime)
  | commands
  | ack (request : AckRequest)
  | synchronizeStartCommand (command : OdooRFIDCommand)
  | closeLocalSession (sessionKey readerCode : String)
  | cancelLocalSession (sessionKey readerCode : String)
  | readerStart (sessionKey readerCode : String)
  | readerStop (sessionKey readerCode : String)
  | readerVerifyIdle
  | readerIsActive
  | hook (hook : Hook) (sessionKey readerCode : String)
  deriving DecidableEq

namespace OrchestratorOp

abbrev Answer : OrchestratorOp → Type
  | .readRuntime => LocalReaderRuntime
  | .commands => List Json
  | .ack _ => ApiResult
  | .synchronizeStartCommand _ => SessionSyncResult
  | .readerIsActive => Bool
  | _ => Unit

/-- A call of a collaborator, not an access to the orchestrator's own runtime. -/
def IsCall : OrchestratorOp → Prop
  | .readRuntime | .writeRuntime _ => False
  | _ => True

/-- What a duplicate or a rejected command may still lead to. -/
def IsAnswer : OrchestratorOp → Prop
  | .ack _ | .hook .beforeSuccessAck _ _ => True
  | _ => False

end OrchestratorOp

/-- The runtime, and the calls made so far with the newest first. -/
structure OrchestratorState where
  runtime : LocalReaderRuntime
  history : List OrchestratorOp := []
  deriving DecidableEq

/-- A collaborator may answer or raise anything. -/
inductive OrchestratorExec :
    (op : OrchestratorOp) → OrchestratorState → Except PyException op.Answer →
      OrchestratorState → Prop
  | read {s} : OrchestratorExec .readRuntime s (.ok s.runtime) s
  | write {s runtime} : OrchestratorExec (.writeRuntime runtime) s (.ok ()) { s with runtime }
  | called {op s answer} : op.IsCall →
      OrchestratorExec op s answer { s with history := op :: s.history }

/-- Collaborators of which nothing is known, with every hook set. -/
def anyCollaborators : Collaborators OrchestratorOp OrchestratorOp.Answer where
  readRuntime := Prog.perform OrchestratorOp.readRuntime
  writeRuntime runtime := Prog.perform (OrchestratorOp.writeRuntime runtime)
  heartbeat runtime := Prog.perform (OrchestratorOp.heartbeat runtime)
  commands := Prog.perform OrchestratorOp.commands
  ack request := Prog.perform (OrchestratorOp.ack request)
  synchronizeStartCommand command := Prog.perform (OrchestratorOp.synchronizeStartCommand command)
  closeLocalSession key code := Prog.perform (OrchestratorOp.closeLocalSession key code)
  cancelLocalSession key code := Prog.perform (OrchestratorOp.cancelLocalSession key code)
  readerStart key code := Prog.perform (OrchestratorOp.readerStart key code)
  readerStop key code := Prog.perform (OrchestratorOp.readerStop key code)
  readerVerifyIdle := Prog.perform OrchestratorOp.readerVerifyIdle
  readerIsActive := Prog.perform OrchestratorOp.readerIsActive
  afterReaderStart := some fun key code =>
    Prog.perform (OrchestratorOp.hook .afterReaderStart key code)
  beforeReaderStop := some fun key code =>
    Prog.perform (OrchestratorOp.hook .beforeReaderStop key code)
  beforeSessionClose := some fun key code =>
    Prog.perform (OrchestratorOp.hook .beforeSessionClose key code)
  beforeSuccessAck := some fun key code =>
    Prog.perform (OrchestratorOp.hook .beforeSuccessAck key code)

abbrev orchestrator : Actor OrchestratorOp OrchestratorOp.Answer PyException OrchestratorState :=
  .alone OrchestratorExec

open FinalRuntimeOrchestrator

/-- The state after startup verification: mark_reader_verified_idle on a fresh process. -/
def verifiedIdle (readerCode : String) : OrchestratorState where
  runtime := { readerCode, state := .idle }

theorem markReaderVerifiedIdle_runs (readerCode : String) :
    (markReaderVerifiedIdle anyCollaborators).Runs OrchestratorExec
      ⟨offlineRuntime readerCode, []⟩ (.ok ()) (verifiedIdle readerCode) := by
  refine ⟨_, _, .read, ?_⟩
  exact ⟨_, _, .write, rfl, rfl⟩

/-- One call of process_command in a run. -/
structure Processed where
  command : OdooRFIDCommand
  before : OrchestratorState
  outcome : Except PyException CommandExecutionResult
  after : OrchestratorState

namespace Processed

/-- The call is one of process_command, for a command of this reader. -/
structure IsCall (p : Processed) : Prop where
  mine : p.command.readerCode = p.before.runtime.readerCode
  runs : (processCommand anyCollaborators p.command).Runs OrchestratorExec p.before p.outcome
    p.after

/-- The collaborator calls made, newest first. -/
def calls (p : Processed) : List OrchestratorOp :=
  p.after.history.take (p.after.history.length - p.before.history.length)

/-- The command was planned as new, neither rejected nor recognised as a duplicate. -/
def Executed (p : Processed) : Prop :=
  ∃ transition, p.before.runtime.planCommand p.command = .ok transition ∧
    transition.duplicate = false

instance (p : Processed) : Decidable p.Executed :=
  match h : p.before.runtime.planCommand p.command with
  | .ok transition => decidable_of_iff (transition.duplicate = false) (by simp [Executed, h])
  | .error _ => isFalse (by simp [Executed, h])

/-- The command was executed and recorded as completed. -/
def Completed (p : Processed) : Prop :=
  p.Executed ∧ p.after.runtime.isCompleted p.command = true

instance (p : Processed) : Decidable p.Completed :=
  inferInstanceAs (Decidable (_ ∧ _))

end Processed

/-- Calls of process_command one after another. -/
def IsRun : OrchestratorState → List Processed → Prop
  | _, [] => True
  | s, p :: rest => p.before = s ∧ p.IsCall ∧ IsRun p.after rest

/-- The acknowledgement is for exactly this command. -/
def AckRequest.IsFor (request : AckRequest) (command : OdooRFIDCommand) : Prop :=
  request.sessionKey = command.sessionKey ∧ request.command = command.command ∧
    request.revision = command.revision

/-- Since `base`, only calls that `A` allows were made, and the runtime satisfies `R`. -/
def Within (R : LocalReaderRuntime → Prop) (A : OrchestratorOp → Prop)
    (base : List OrchestratorOp) (s : OrchestratorState) : Prop :=
  R s.runtime ∧ ∃ calls, s.history = calls ++ base ∧ ∀ op ∈ calls, A op

section
variable {R R' : LocalReaderRuntime → Prop} {A A' : OrchestratorOp → Prop}
  {base : List OrchestratorOp} {α β : Type}

theorem Within.mono {s : OrchestratorState} (h : Within R A base s)
    (runtimes : ∀ r, R r → R' r) (calls : ∀ op, A op → A' op) : Within R' A' base s := by
  obtain ⟨runtime, made, history, allowed⟩ := h
  exact ⟨runtimes _ runtime, made, history, fun op hop => calls op (allowed op hop)⟩

theorem within_perform {op : OrchestratorOp} (isCall : op.IsCall) (allowed : A op) :
    orchestrator.Keeps (Within R A base) (Prog.perform op) := by
  apply Actor.keeps_perform Actor.stable_alone
  intro s answer s' inv ex
  refine ⟨trivial, ?_⟩
  obtain ⟨runtime, calls, history, all⟩ := inv
  cases ex with
  | read | write => exact isCall.elim
  | called _ =>
      refine ⟨runtime, op :: calls, by rw [history, List.cons_append], ?_⟩
      intro op' hop'
      cases List.mem_cons.mp hop' with
      | inl h => exact h ▸ allowed
      | inr h => exact all op' h

theorem within_read : orchestrator.Keeps (Within R A base) anyCollaborators.readRuntime := by
  apply Actor.keeps_perform Actor.stable_alone
  intro s answer s' inv ex
  cases ex with
  | read => exact ⟨trivial, inv⟩
  | called isCall => exact isCall.elim

theorem within_write {s : OrchestratorState} {runtime : LocalReaderRuntime} (h : R' runtime)
    (inv : Within R A base s) :
    orchestrator.Sat (anyCollaborators.writeRuntime runtime)
      (fun outcome s' => outcome = .ok () ∧ Within R' A base s') s := by
  apply Actor.Sat.perform
  rintro s₁ rfl answer s₂ ex
  cases ex with
  | write =>
      refine ⟨trivial, ?_⟩
      rintro s₃ rfl
      exact ⟨rfl, h, inv.2⟩
  | called isCall => exact isCall.elim

/-- A step of the runtime is taken in full or not at all. -/
theorem within_step {step : LocalReaderRuntime → Except PyException LocalReaderRuntime}
    (h : ∀ r r', R r → step r = .ok r' → R' r') {s : OrchestratorState}
    (inv : Within R A base s) :
    orchestrator.Sat (updateRuntime anyCollaborators step)
      (Actor.ends (fun _ => Within R' A base) fun _ => Within R A base) s := by
  apply Actor.Sat.bind fun exc s s' e r => Actor.stable_alone s s' e r
  apply Actor.Sat.perform
  rintro s₁ rfl answer s₂ ex
  cases ex with
  | called isCall => exact isCall.elim
  | read =>
      refine ⟨trivial, ?_⟩
      rintro s₃ rfl
      change orchestrator.Sat ((Prog.ofExcept (step s.runtime)).bind _) _ _
      cases hs : step s.runtime with
      | error exc =>
          apply Actor.Sat.raise
          rintro s₄ rfl
          exact inv
      | ok r' =>
          apply (within_write (h _ _ inv.1 hs) inv).mono
          rintro _ s₄ ⟨rfl, done⟩
          exact done

theorem within_update {step : LocalReaderRuntime → Except PyException LocalReaderRuntime}
    (h : ∀ r r', R r → step r = .ok r' → R r') :
    orchestrator.Keeps (Within R A base) (updateRuntime anyCollaborators step) := by
  intro s inv
  apply (within_step h inv).mono
  intro outcome s' post
  cases outcome <;> exact post

theorem within_resultNow (command : OdooRFIDCommand) (success : Bool) (message : String) :
    orchestrator.Keeps (Within R A base)
      (resultNow anyCollaborators command success message) :=
  Actor.keeps_bind Actor.stable_alone within_read fun _ =>
    Actor.keeps_ret Actor.stable_alone _

end

/-- Among the calls, the acknowledgements are restricted. -/
def AckOnly (P : AckRequest → Prop) (op : OrchestratorOp) : Prop :=
  ∀ request, op = .ack request → P request

section
variable {R : LocalReaderRuntime → Prop} {A : OrchestratorOp → Prop}
  {base : List OrchestratorOp} {command : OdooRFIDCommand}

/-- The success acknowledgement, with the hook in front of it. -/
theorem within_sendCompletedSuccessAck
    (hook : A (.hook .beforeSuccessAck command.sessionKey command.readerCode))
    (ack : A (.ack (ackRequest command true (successAckMessage command.command)))) :
    orchestrator.Keeps (Within R A base) (sendCompletedSuccessAck anyCollaborators command) := by
  apply Actor.keeps_bind Actor.stable_alone
  · exact keeps_when Actor.stable_alone (within_perform (by trivial) hook)
  intro _
  apply Actor.keeps_bind Actor.stable_alone (within_perform (by trivial) ack)
  intro _
  exact keeps_when Actor.stable_alone (Actor.keeps_raise Actor.stable_alone _)

theorem within_sendFailureAck {message : String}
    (ack : A (.ack (ackRequest command false message))) :
    orchestrator.Keeps (Within R A base)
      (sendFailureAck anyCollaborators command message) :=
  keeps_ignoring Actor.stable_alone (within_perform (by trivial) ack)

theorem within_rejectCommand {message : String}
    (ack : A (.ack (ackRequest command false message))) :
    orchestrator.Keeps (Within R A base) (rejectCommand anyCollaborators command message) :=
  Actor.keeps_bind Actor.stable_alone (within_sendFailureAck ack) fun _ =>
    within_resultNow command false message

theorem within_resendCompletedAck
    (hook : A (.hook .beforeSuccessAck command.sessionKey command.readerCode))
    (ack : A (.ack (ackRequest command true (successAckMessage command.command)))) :
    orchestrator.Keeps (Within R A base) (resendCompletedAck anyCollaborators command) :=
  keeps_tryElse Actor.stable_alone (within_sendCompletedSuccessAck hook ack)
    (fun _ => within_resultNow command false _) fun _ => within_resultNow command true _

end

end RfidBridge
