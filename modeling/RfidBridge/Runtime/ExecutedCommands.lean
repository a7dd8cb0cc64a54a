import RfidBridge.Runtime.OrchestratorRuns

/-!
What the runtime remembers of the commands it executed. The memory holds one
session key and one completed command; while it still holds a command's own, the
command cannot be executed again, nor answered with a failure once completed.
-/

namespace RfidBridge
open FinalRuntimeOrchestrator

/-- The runtime while a command is executed: it names no other session and no other
revision. Only STOP and ABORT take the session away. -/
structure Mine (command : OdooRFIDCommand) (r : LocalReaderRuntime) : Prop where
  reader : r.readerCode = command.readerCode
  revision : r.lastCommandRevision = command.revision
  session : r.sessionKey = some command.sessionKey ∨
    r.sessionKey = none ∧ command.command ≠ .start

structure Working (command : OdooRFIDCommand) (r : LocalReaderRuntime) : Prop
    extends Mine command r where
  completedCommand : r.completedCommand = none
  completedSessionKey : r.completedSessionKey = none

structure Done (command : OdooRFIDCommand) (r : LocalReaderRuntime) : Prop
    extends Mine command r where
  completed : r.isCompleted command = true

section
variable {command : OdooRFIDCommand} {r r' : LocalReaderRuntime}

theorem present_sessionKey (command : OdooRFIDCommand) :
    present (some command.sessionKey) = true := by
  simpa [present] using command.sessionKey_clean.2

theorem working_of_plan {transition : RuntimeTransition}
    (plan : r.planCommand command = .ok transition) (new : transition.duplicate = false) :
    Working command transition.after := by
  obtain ⟨mine, ⟨duplicate, -⟩ | ⟨-, planned⟩⟩ := LocalReaderRuntime.planCommand_eq_ok plan
  · rw [new] at duplicate
    cases duplicate
  · rw [LocalReaderRuntime.planNew_eq_ok planned]
    exact ⟨⟨mine.symm, rfl, .inl rfl⟩, rfl, rfl⟩

theorem working_started (w : Working command r) (h : r.markReaderStarted = .ok r') :
    Working command r' := by
  simp only [LocalReaderRuntime.markReaderStarted, guard_eq_ok, Except.ok.injEq] at h
  obtain ⟨-, -, rfl⟩ := h
  exact ⟨⟨w.reader, w.revision, w.session⟩, rfl, rfl⟩

theorem working_stopped (kind : command.command ≠ .start) (w : Working command r)
    (h : r.markReaderStopped = .ok r') : Working command r' := by
  simp only [LocalReaderRuntime.markReaderStopped, guard_eq_ok, Except.ok.injEq] at h
  obtain ⟨-, rfl⟩ := h
  exact ⟨⟨w.reader, w.revision, .inr ⟨rfl, kind⟩⟩, rfl, rfl⟩

theorem working_degraded {message : String} (w : Working command r)
    (h : r.markDegraded message = .ok r') : Working command r' := by
  simp only [LocalReaderRuntime.markDegraded, guard_eq_ok, Except.ok.injEq] at h
  obtain ⟨-, rfl⟩ := h
  exact ⟨⟨w.reader, w.revision, w.session⟩, rfl, rfl⟩

theorem done_completed (w : Working command r) (h : r.markCommandCompleted command = .ok r') :
    Done command r' := by
  simp only [LocalReaderRuntime.markCommandCompleted, guard_eq_ok, Except.ok.injEq] at h
  obtain ⟨-, -, rfl⟩ := h
  exact ⟨⟨w.reader, w.revision, w.session⟩, by simp [LocalReaderRuntime.isCompleted]⟩

end

/-- Nothing acknowledged yet. -/
abbrev NoAck : OrchestratorOp → Prop := AckOnly fun _ => False

/-- Acknowledgements for this command only. -/
abbrev OwnAcks (command : OdooRFIDCommand) : OrchestratorOp → Prop :=
  AckOnly fun request => request.IsFor command

abbrev SuccessAcks (command : OdooRFIDCommand) : OrchestratorOp → Prop :=
  AckOnly fun request => request.IsFor command ∧ request.success = true

/-- How the execution of a command ends: unfinished, with acknowledgements for this
command only, or completed, with only success acknowledgements for it. -/
def Ended (command : OdooRFIDCommand) (base : List OrchestratorOp) (s : OrchestratorState) :
    Prop :=
  Within (Working command) (OwnAcks command) base s ∨
  Within (Done command) (SuccessAcks command)
    base s

section
variable {command : OdooRFIDCommand} {base : List OrchestratorOp} {s : OrchestratorState}
  {α : Type}

theorem allowed_of_ne_ack {P : AckRequest → Prop} {op : OrchestratorOp}
    (h : ∀ request, op ≠ .ack request) : AckOnly P op :=
  fun request eq => (h request eq).elim

theorem ended_of_working
    (h : Within (Working command) NoAck base s) : Ended command base s :=
  .inl (h.mono (fun _ w => w) fun _ none request eq => (none request eq).elim)

theorem within_hook {R : LocalReaderRuntime → Prop} {P : AckRequest → Prop} (hook : Hook) :
    orchestrator.Keeps (Within R (AckOnly P) base)
      (Prog.perform (OrchestratorOp.hook hook command.sessionKey command.readerCode)) :=
  within_perform (by trivial) (allowed_of_ne_ack (by simp))

theorem ended_startFailed {sessionSync : Option SessionSyncResult} {exc : PyException}
    (h : Within (Working command) NoAck base s) :
    orchestrator.Sat (startFailed anyCollaborators command sessionSync exc)
      (fun _ => Ended command base) s := by
  have keeps : orchestrator.Keeps
      (Within (Working command) (OwnAcks command) base)
      (startFailed anyCollaborators command sessionSync exc) := by
    apply Actor.keeps_bind Actor.stable_alone
      (within_perform (by trivial) (allowed_of_ne_ack (by simp)))
    intro active
    apply Actor.keeps_bind Actor.stable_alone
    · split
      · apply keeps_attempt Actor.stable_alone
        apply Actor.keeps_bind Actor.stable_alone (within_hook _)
        intro _
        apply Actor.keeps_bind Actor.stable_alone
          (within_perform (by trivial) (allowed_of_ne_ack (by simp)))
        exact fun _ => within_hook _
      · exact Actor.keeps_ret Actor.stable_alone none
    intro stopError
    apply Actor.keeps_bind Actor.stable_alone
    · split
      · exact keeps_attempt Actor.stable_alone
          (within_perform (by trivial) (allowed_of_ne_ack (by simp)))
      · exact Actor.keeps_ret Actor.stable_alone none
    intro cleanupError
    apply Actor.keeps_bind Actor.stable_alone (within_update fun _ _ => working_degraded)
    intro _
    apply Actor.keeps_bind Actor.stable_alone
    · exact within_sendFailureAck fun _ eq => by cases eq; exact ⟨rfl, rfl, rfl⟩
    exact fun _ => within_resultNow command false _
  apply (keeps s (h.mono (fun _ w => w) fun _ none request eq => (none request eq).elim)).mono
  exact fun _ _ post => .inl post

theorem ended_completeCommand {pending accepted : String}
    (h : Within (Working command) NoAck base s) :
    orchestrator.Sat (completeCommand anyCollaborators command pending accepted)
      (fun _ => Ended command base) s := by
  apply Actor.Sat.handle
  apply (within_step (fun _ _ => done_completed) h).mono
  intro outcome s₁ post
  cases outcome with
  | error exc =>
      apply Actor.Sat.raise
      rintro s₂ rfl
      exact ended_of_working post
  | ok _ =>
      have keeps : orchestrator.Keeps
          (Within (Done command)
            (SuccessAcks command) base)
          (tryElse (sendCompletedSuccessAck anyCollaborators command)
            (fun exc => resultNow anyCollaborators command false (pending ++ exc.message))
            fun _ => resultNow anyCollaborators command true accepted) := by
        apply keeps_tryElse Actor.stable_alone
        · exact within_sendCompletedSuccessAck (allowed_of_ne_ack (by simp))
            fun _ eq => by cases eq; exact ⟨⟨rfl, rfl, rfl⟩, rfl⟩
        · exact fun _ => within_resultNow command false _
        · exact fun _ => within_resultNow command true _
      apply (keeps s₁ (post.mono (fun _ d => d) fun _ none request eq =>
        (none request eq).elim)).mono
      exact fun _ _ done => .inr done

/-- A procedure: while it works nothing is acknowledged, then it fails or completes. -/
theorem ended_tryElse {body : Program OrchestratorOp OrchestratorOp.Answer α}
    {failed : PyException → Program OrchestratorOp OrchestratorOp.Answer CommandExecutionResult}
    {passed : α → Program OrchestratorOp OrchestratorOp.Answer CommandExecutionResult}
    (hb : orchestrator.Keeps (Within (Working command) NoAck base) body)
    (hf : ∀ exc s, Within (Working command) NoAck base s →
      orchestrator.Sat (failed exc) (fun _ => Ended command base) s)
    (hp : ∀ value s, Within (Working command) NoAck base s →
      orchestrator.Sat (passed value) (fun _ => Ended command base) s)
    (h : Within (Working command) NoAck base s) :
    orchestrator.Sat (tryElse body failed passed) (fun _ => Ended command base) s := by
  apply Actor.Sat.handle
  apply (hb s h).mono
  intro outcome s₁ post
  cases outcome with
  | ok value => exact hp value s₁ post
  | error exc =>
      dsimp only
      split
      · exact hf exc s₁ post
      · apply Actor.Sat.raise
        rintro s₂ rfl
        exact ended_of_working post

theorem working_stopReader (kind : command.command ≠ .start) :
    orchestrator.Keeps (Within (Working command) NoAck base)
      (stopReader anyCollaborators command) := by
  apply Actor.keeps_bind Actor.stable_alone (within_hook _)
  intro _
  apply Actor.keeps_bind Actor.stable_alone
    (within_perform (by trivial) (allowed_of_ne_ack (by simp)))
  intro _
  apply Actor.keeps_bind Actor.stable_alone
    (within_update fun _ _ => working_stopped kind)
  intro _
  apply Actor.keeps_bind Actor.stable_alone (within_hook _)
  exact fun _ => within_perform (by trivial) (allowed_of_ne_ack (by simp))

theorem working_startReader :
    orchestrator.Keeps (Within (Working command) NoAck base)
      (startReader anyCollaborators command) := by
  apply Actor.keeps_bind Actor.stable_alone
    (within_perform (by trivial) (allowed_of_ne_ack (by simp)))
  intro _
  apply Actor.keeps_bind Actor.stable_alone
    (within_update fun _ _ => working_started)
  exact fun _ => within_hook _

theorem working_abortReader (kind : command.command ≠ .start) :
    orchestrator.Keeps (Within (Working command) NoAck base)
      (abortReader anyCollaborators command) := by
  apply Actor.keeps_bind Actor.stable_alone (within_hook _)
  intro _
  apply Actor.keeps_bind Actor.stable_alone
    (within_perform (by trivial) (allowed_of_ne_ack (by simp)))
  intro active
  apply Actor.keeps_bind Actor.stable_alone
  · split
    · exact within_perform (by trivial) (allowed_of_ne_ack (by simp))
    · exact within_perform (by trivial) (allowed_of_ne_ack (by simp))
  intro _
  apply Actor.keeps_bind Actor.stable_alone
    (within_update fun _ _ => working_stopped kind)
  intro _
  apply Actor.keeps_bind Actor.stable_alone (within_hook _)
  intro _
  apply Actor.keeps_handle (within_perform (by trivial) (allowed_of_ne_ack (by simp)))
  intro outcome
  cases outcome with
  | ok _ => exact Actor.keeps_ret Actor.stable_alone ()
  | error exc =>
      dsimp only
      split
      · exact Actor.keeps_ret Actor.stable_alone ()
      · exact Actor.keeps_raise Actor.stable_alone exc

/-- The failure branch of STOP, and with no acknowledgement that of ABORT. -/
theorem ended_degraded {message : String}
    {rest : Program OrchestratorOp OrchestratorOp.Answer CommandExecutionResult}
    (hr : orchestrator.Keeps
      (Within (Working command) (OwnAcks command) base) rest)
    (h : Within (Working command) NoAck base s) :
    orchestrator.Sat
      ((updateRuntime anyCollaborators fun r => r.markDegraded message).bind fun _ => rest)
      (fun _ => Ended command base) s := by
  have degraded : orchestrator.Keeps (Within (Working command) (OwnAcks command) base)
      (updateRuntime anyCollaborators fun r => r.markDegraded message) :=
    within_update fun _ _ => working_degraded
  have keeps := Actor.keeps_bind Actor.stable_alone degraded fun _ => hr
  apply (keeps s (h.mono (fun _ w => w) fun _ none request eq => (none request eq).elim)).mono
  exact fun _ _ post => .inl post

/-- Every procedure starts by writing its planned runtime. -/
theorem ended_planned {R : LocalReaderRuntime → Prop} {planned : LocalReaderRuntime}
    {rest : Program OrchestratorOp OrchestratorOp.Answer CommandExecutionResult}
    (hr : ∀ s, Within (Working command) NoAck base s →
      orchestrator.Sat rest (fun _ => Ended command base) s)
    (w : Working command planned) (h : Within R NoAck base s) :
    orchestrator.Sat ((anyCollaborators.writeRuntime planned).bind fun _ => rest)
      (fun _ => Ended command base) s := by
  apply Actor.Sat.handle
  apply (within_write w h).mono
  rintro _ s₁ ⟨rfl, post⟩
  exact hr s₁ post

/-- The execution of a command planned as new. -/
theorem ended_execute {R : LocalReaderRuntime → Prop} {planned : LocalReaderRuntime}
    (w : Working command planned) (h : Within R NoAck base s) :
    orchestrator.Sat
      (match command.command with
        | .start => executeStart anyCollaborators command planned
        | .stop => executeStop anyCollaborators command planned
        | .abort => executeAbort anyCollaborators command planned)
      (fun _ => Ended command base) s := by
  cases kind : command.command with
  | start =>
      refine ended_planned (fun s₁ working => ?_) w h
      apply ended_tryElse (within_perform (by trivial) (allowed_of_ne_ack (by simp)))
        (fun exc s => ended_startFailed) _ working
      intro sync s₂ working
      exact ended_tryElse working_startReader (fun exc s => ended_startFailed)
        (fun _ s => ended_completeCommand) working
  | stop =>
      refine ended_planned (fun s₁ working => ?_) w h
      apply ended_tryElse (working_stopReader (by simp [kind])) _
        (fun _ s => ended_completeCommand) working
      intro exc s₂ working
      apply ended_degraded _ working
      apply Actor.keeps_bind Actor.stable_alone
        (within_sendFailureAck fun _ eq => by cases eq; exact ⟨rfl, rfl, rfl⟩)
      exact fun _ => within_resultNow command false _
  | abort =>
      refine ended_planned (fun s₁ working => ?_) w h
      apply ended_tryElse (working_abortReader (by simp [kind])) _
        (fun _ s => ended_completeCommand) working
      intro exc s₂ working
      exact ended_degraded (within_resultNow command false _) working

end

theorem sat_readRuntime {s : OrchestratorState} {α : Type}
    {f : LocalReaderRuntime → Program OrchestratorOp OrchestratorOp.Answer α}
    {Q : Except PyException α → OrchestratorState → Prop}
    (h : orchestrator.Sat (f s.runtime) Q s) :
    orchestrator.Sat (anyCollaborators.readRuntime.bind f) Q s := by
  apply Actor.Sat.handle
  apply Actor.Sat.perform
  rintro s₁ rfl answer s₂ ex
  cases ex with
  | called isCall => exact isCall.elim
  | read =>
      refine ⟨trivial, ?_⟩
      rintro s₃ rfl
      exact h

namespace Processed
variable {p : Processed}

theorem within_self (p : Processed) (A : OrchestratorOp → Prop) :
    Within (· = p.before.runtime) A p.before.history p.before :=
  ⟨rfl, [], rfl, by simp⟩

theorem calls_of_within {R : LocalReaderRuntime → Prop} {A : OrchestratorOp → Prop}
    (h : Within R A p.before.history p.after) : ∀ op ∈ p.calls, A op := by
  obtain ⟨-, made, history, allowed⟩ := h
  have eq : p.calls = made := by simp [calls, history]
  exact eq ▸ allowed

theorem IsCall.ended (call : p.IsCall) (executed : p.Executed) :
    Ended p.command p.before.history p.after := by
  obtain ⟨transition, plan, new⟩ := executed
  refine call.runs.post (Q := fun _ => Ended p.command p.before.history) ?_
  apply sat_readRuntime
  simp only [plan, new]
  exact ended_execute (working_of_plan plan new) (within_self p NoAck)

theorem IsCall.rejected {exc : PyException} (call : p.IsCall)
    (plan : p.before.runtime.planCommand p.command = .error exc) :
    Within (· = p.before.runtime)
      (fun op => op.IsAnswer ∧ OwnAcks p.command op)
      p.before.history p.after := by
  refine call.runs.post (Q := fun _ => Within _ _ p.before.history) ?_
  apply sat_readRuntime
  simp only [plan]
  apply within_rejectCommand _ _ (within_self p _)
  exact ⟨trivial, fun _ eq => by cases eq; exact ⟨rfl, rfl, rfl⟩⟩

theorem IsCall.duplicate {transition : RuntimeTransition} (call : p.IsCall)
    (plan : p.before.runtime.planCommand p.command = .ok transition)
    (again : transition.duplicate = true) :
    Within (· = p.before.runtime)
      (fun op => op.IsAnswer ∧
        SuccessAcks p.command op)
      p.before.history p.after := by
  refine call.runs.post (Q := fun _ => Within _ _ p.before.history) ?_
  apply sat_readRuntime
  simp only [plan, again]
  apply within_resendCompletedAck _ _ _ (within_self p _)
  · exact ⟨trivial, allowed_of_ne_ack (by simp)⟩
  · exact ⟨trivial, fun _ eq => by cases eq; exact ⟨⟨rfl, rfl, rfl⟩, rfl⟩⟩

/-- A command that is not executed leaves the runtime, the reader and the sessions alone. -/
theorem IsCall.refused (call : p.IsCall) (idle : ¬ p.Executed) :
    Within (· = p.before.runtime)
      (fun op => op.IsAnswer ∧ OwnAcks p.command op)
      p.before.history p.after := by
  cases plan : p.before.runtime.planCommand p.command with
  | error exc => exact call.rejected plan
  | ok transition =>
      cases again : transition.duplicate with
      | false => exact (idle ⟨transition, plan, again⟩).elim
      | true =>
          apply (call.duplicate plan again).mono (fun _ r => r)
          exact fun op allowed => ⟨allowed.1, fun request eq => (allowed.2 request eq).1⟩

/-- Every acknowledgement is for the command of its own call. -/
theorem IsCall.acks (call : p.IsCall) :
    ∀ op ∈ p.calls, OwnAcks p.command op := by
  by_cases executed : p.Executed
  · cases call.ended executed with
    | inl unfinished => exact calls_of_within unfinished
    | inr done =>
        exact fun op made request eq => (calls_of_within done op made request eq).1
  · exact fun op made => (calls_of_within (call.refused executed) op made).2

end Processed

/-- The runtime still holds a session key, as its own or as that of its completed command. -/
def Remembers (key : String) (s : OrchestratorState) : Prop :=
  s.runtime.revisionSessionKey = some key

section
variable {command : OdooRFIDCommand} {base : List OrchestratorOp} {s : OrchestratorState}

theorem Ended.mine (h : Ended command base s) : Mine command s.runtime := by
  cases h with
  | inl h => exact h.1.toMine
  | inr h => exact h.1.toMine

theorem isCompleted_sessionKey {r : LocalReaderRuntime} (h : r.isCompleted command = true) :
    r.completedSessionKey = some command.sessionKey := by
  simp only [LocalReaderRuntime.isCompleted, Bool.and_eq_true, beq_iff_eq] at h
  exact h.2.symm

/-- An executed command leaves no session but its own in the memory. -/
theorem Ended.revisionSessionKey (h : Ended command base s) :
    s.runtime.revisionSessionKey = some command.sessionKey ∨
    s.runtime.sessionKey = none ∧ command.command ≠ .start ∧
      s.runtime.completedCommand = none ∧ s.runtime.revisionSessionKey = none := by
  cases h.mine.session with
  | inl own =>
      left
      rw [LocalReaderRuntime.revisionSessionKey, own, present_sessionKey command, if_pos rfl]
  | inr gone =>
      have memory : s.runtime.revisionSessionKey = s.runtime.completedSessionKey := by
        simp [LocalReaderRuntime.revisionSessionKey, gone.1, present]
      cases h with
      | inl h => exact .inr ⟨gone.1, gone.2, h.1.completedCommand,
          memory.trans h.1.completedSessionKey⟩
      | inr h => exact .inl (memory.trans (isCompleted_sessionKey h.1.completed))

end

section
variable {r : LocalReaderRuntime} {command : OdooRFIDCommand}

/-- While its session key is remembered, a command is only executed with a new revision. -/
theorem lastCommandRevision_lt_of_plan {transition : RuntimeTransition}
    (plan : r.planCommand command = .ok transition) (new : transition.duplicate = false)
    (remembered : r.revisionSessionKey = some command.sessionKey) :
    r.lastCommandRevision < command.revision := by
  simp only [LocalReaderRuntime.planCommand, bind_eq_ok] at plan
  obtain ⟨disposition, valid, planned⟩ := plan
  have same : r.sameRevisionSession command = true := by
    simp [LocalReaderRuntime.sameRevisionSession, remembered]
  simp only [LocalReaderRuntime.validateCommand, guard_eq_ok, same, true_and] at valid
  obtain ⟨-, notOlder, rest⟩ := valid
  by_contra notNewer
  have equal : command.revision = r.lastCommandRevision := by omega
  have positive : r.lastCommandRevision ≠ 0 := by have := command.revision_pos; omega
  rw [if_pos ⟨equal, positive⟩] at rest
  split at rest
  · cases rest
    cases planned
    cases new
  · cases rest

/-- The command recorded as completed is recognised. -/
theorem planCommand_of_isCompleted (mine : command.readerCode = r.readerCode)
    (revision : r.lastCommandRevision = command.revision)
    (remembered : r.revisionSessionKey = some command.sessionKey)
    (completed : r.isCompleted command = true) :
    r.planCommand command = .ok { before := r, after := r, command, duplicate := true } := by
  have positive : command.revision ≠ 0 := by have := command.revision_pos; omega
  have same : r.sameRevisionSession command = true := by
    simp [LocalReaderRuntime.sameRevisionSession, remembered]
  have valid : r.validateCommand command = .ok .duplicate := by
    simp [LocalReaderRuntime.validateCommand, mine, same, revision, positive, completed]
  rw [LocalReaderRuntime.planCommand, valid]
  rfl

/-- Completion depends on nothing of a command but its three identifying fields. -/
theorem isCompleted_congr {command' : OdooRFIDCommand}
    (key : command'.sessionKey = command.sessionKey) (kind : command'.command = command.command)
    (revision : command'.revision = command.revision) :
    r.isCompleted command' = r.isCompleted command := by
  simp only [LocalReaderRuntime.isCompleted, key, kind, revision]

end

namespace Processed
variable {p q : Processed} {key : String} {revision : Int}

/-- The call executed a command of another session, or took the session out of the
runtime without completing: a STOP or ABORT that failed behind the stopped reader. -/
def Forgets (p : Processed) (key : String) : Prop :=
  p.Executed ∧
    (p.command.sessionKey ≠ key ∨ p.after.runtime.sessionKey = none ∧ ¬ p.Completed)

instance (p : Processed) (key : String) : Decidable (p.Forgets key) :=
  inferInstanceAs (Decidable (_ ∧ _))

theorem IsCall.remembers_executed (call : p.IsCall) (executed : p.Executed)
    (kept : ¬ p.Forgets key) : p.command.sessionKey = key ∧ Remembers key p.after := by
  have same : p.command.sessionKey = key := by
    by_contra other
    exact kept ⟨executed, .inl other⟩
  refine ⟨same, ?_⟩
  cases (call.ended executed).revisionSessionKey with
  | inl remembered => exact remembered.trans (congrArg some same)
  | inr lost =>
      refine (kept ⟨executed, .inr ⟨lost.1, fun completed => ?_⟩⟩).elim
      have recorded := completed.2
      simp [LocalReaderRuntime.isCompleted, lost.2.2.1] at recorded

theorem IsCall.done (call : p.IsCall) (completed : p.Completed) :
    Within (Done p.command)
      (SuccessAcks p.command)
      p.before.history p.after := by
  cases call.ended completed.1 with
  | inr done => exact done
  | inl unfinished =>
      have recorded := completed.2
      simp [LocalReaderRuntime.isCompleted, unfinished.1.completedCommand] at recorded

/-- One call keeps the memory of a session key, and the revision never falls. -/
theorem IsCall.remembers (call : p.IsCall) (kept : ¬ p.Forgets key)
    (before : Remembers key p.before ∧ revision ≤ p.before.runtime.lastCommandRevision) :
    Remembers key p.after ∧ revision ≤ p.after.runtime.lastCommandRevision := by
  by_cases executed : p.Executed
  · obtain ⟨same, after⟩ := call.remembers_executed executed kept
    refine ⟨after, ?_⟩
    obtain ⟨transition, plan, new⟩ := executed
    have newer := lastCommandRevision_lt_of_plan plan new
      (before.1.trans (congrArg some same.symm))
    rw [(call.ended ⟨transition, plan, new⟩).mine.revision]
    omega
  · rw [Remembers, (call.refused executed).1]
    exact before

theorem IsCall.readerCode (call : p.IsCall) :
    p.after.runtime.readerCode = p.before.runtime.readerCode := by
  by_cases executed : p.Executed
  · rw [(call.ended executed).mine.reader, call.mine]
  · rw [(call.refused executed).1]

end Processed

theorem IsRun.append {s : OrchestratorState} {before rest : List Processed} {p : Processed}
    (run : IsRun s (before ++ p :: rest)) : p.IsCall ∧ IsRun p.after rest := by
  induction before generalizing s with
  | nil => exact run.2
  | cons r before ih => exact ih run.2.2

/-- Over calls that do not forget the key, the memory is kept up to the next call. -/
theorem IsRun.remembers {s : OrchestratorState} {middle after : List Processed}
    {q : Processed} {key : String} {revision : Int} (run : IsRun s (middle ++ q :: after))
    (kept : ∀ r ∈ middle, ¬ r.Forgets key)
    (start : Remembers key s ∧ revision ≤ s.runtime.lastCommandRevision) :
    Remembers key q.before ∧ revision ≤ q.before.runtime.lastCommandRevision := by
  induction middle generalizing s with
  | nil => exact run.1 ▸ start
  | cons r middle ih =>
      obtain ⟨rfl, call, rest⟩ := run
      apply ih rest fun r' hr' => kept r' (List.mem_cons_of_mem r hr')
      exact call.remembers (kept r (List.mem_cons_self ..)) start

/-- Collaborators with fixed answers. -/
def answeredBy (answers : (op : OrchestratorOp) → Except PyException op.Answer) :
    (op : OrchestratorOp) → OrchestratorState → Except PyException op.Answer × OrchestratorState
  | .readRuntime, s => (.ok s.runtime, s)
  | .writeRuntime runtime, s => (.ok (), { s with runtime })
  | op, s => (answers op, { s with history := op :: s.history })

theorem exec_answeredBy (answers : (op : OrchestratorOp) → Except PyException op.Answer)
    (op : OrchestratorOp) (s : OrchestratorState) :
    OrchestratorExec op s (answeredBy answers op s).1 (answeredBy answers op s).2 := by
  cases op with
  | readRuntime => exact .read
  | writeRuntime runtime => exact .write
  | _ => exact .called trivial

/-- process_command for one command after another. -/
def processAll (answers : (op : OrchestratorOp) → Except PyException op.Answer)
    (s : OrchestratorState) : List OdooRFIDCommand → List Processed
  | [] => []
  | command :: rest =>
      let result := (processCommand anyCollaborators command).eval (answeredBy answers) s
      ⟨command, s, result.1, result.2⟩ :: processAll answers result.2 rest

theorem isRun_processAll {answers : (op : OrchestratorOp) → Except PyException op.Answer}
    {s : OrchestratorState} {commands : List OdooRFIDCommand}
    (mine : ∀ command ∈ commands, command.readerCode = s.runtime.readerCode) :
    IsRun s (processAll answers s commands) := by
  induction commands generalizing s with
  | nil => trivial
  | cons command rest ih =>
      have runs := Prog.runs_eval (p := processCommand anyCollaborators command)
        (exec_answeredBy answers) s
      have call : Processed.IsCall ⟨command, s, _, _⟩ :=
        ⟨mine command (List.mem_cons_self ..), runs⟩
      refine ⟨rfl, call, ih fun c hc => ?_⟩
      rw [call.readerCode]
      exact mine c (List.mem_cons_of_mem command hc)

/-- Executed revisions of a session increase as long as the runtime does not forget the
session, and until then no executed revision, nor an older one, is executed again. -/
theorem executed_revisions_increase {readerCode : String} {before middle after : List Processed}
    {p q : Processed}
    (run : IsRun (verifiedIdle readerCode) (before ++ p :: (middle ++ q :: after)))
    (executed : p.Executed) (same : q.command.sessionKey = p.command.sessionKey)
    (kept : ∀ r ∈ p :: middle, ¬ r.Forgets p.command.sessionKey) :
    (q.Executed → p.command.revision < q.command.revision) ∧
    (q.command.revision ≤ p.command.revision →
      q.after.runtime = q.before.runtime ∧ ∀ op ∈ q.calls, op.IsAnswer) := by
  obtain ⟨callP, rest⟩ := run.append
  have start := callP.remembers_executed executed (kept p (List.mem_cons_self ..))
  have reached : p.command.revision ≤ p.after.runtime.lastCommandRevision :=
    Int.le_of_eq (callP.ended executed).mine.revision.symm
  have memory := rest.remembers (fun r hr => kept r (List.mem_cons_of_mem p hr))
    ⟨start.2, reached⟩
  obtain ⟨callQ, -⟩ := rest.append
  have newer : q.Executed → p.command.revision < q.command.revision := by
    rintro ⟨transition, plan, new⟩
    have := lastCommandRevision_lt_of_plan plan new (memory.1.trans (congrArg some same.symm))
    omega
  refine ⟨newer, fun old => ?_⟩
  have refused := callQ.refused fun again => absurd (newer again) (by omega)
  exact ⟨refused.1, fun op made => (Processed.calls_of_within refused op made).1⟩

/-- Everything succeeds, but delivery is never complete when a STOP is acknowledged. -/
def pendingDelivery : (op : OrchestratorOp) → Except PyException op.Answer
  | .readRuntime => .ok { readerCode := "GATE-1" }
  | .commands => .ok []
  | .ack _ => .ok [("ok", .bool true)]
  | .synchronizeStartCommand command =>
      let session := { id := 1, externalSessionKey := command.sessionKey, deviceId := 1,
                       operationType := .receipt, odooRecordId := 0 }
      .ok { session, created := true, reused := false }
  | .readerIsActive => .ok true
  | .hook .beforeSuccessAck _ _ => raised .finalDeliveryBarrierPending "Delivery is pending."
  | .hook .. | .writeRuntime _ | .heartbeat _ | .closeLocalSession .. | .cancelLocalSession ..
  | .readerStart .. | .readerStop .. | .readerVerifyIdle => .ok ()

def startOf (sessionKey : String) (clean : Clean sessionKey) : OdooRFIDCommand :=
  { sessionKey, readerCode := "GATE-1", command := .start, revision := 1,
    sessionKey_clean := clean }

def stopOf (sessionKey : String) (clean : Clean sessionKey) : OdooRFIDCommand :=
  { sessionKey, readerCode := "GATE-1", command := .stop, revision := 2,
    sessionKey_clean := clean }

def startA := startOf "A" (by decide)
def stopA := stopOf "A" (by decide)
def startB := startOf "B" (by decide)
def stopB := stopOf "B" (by decide)

theorem isRun_pendingDelivery (commands : List OdooRFIDCommand)
    (mine : ∀ command ∈ commands, command.readerCode = "GATE-1") :
    IsRun (verifiedIdle "GATE-1")
      (processAll pendingDelivery (verifiedIdle "GATE-1") commands) :=
  isRun_processAll mine

/-- The START of a session that has been stopped changes nothing when it comes again. -/
theorem executed_revisions_increase_restart : ∃ p middle q,
    IsRun (verifiedIdle "GATE-1") ([] ++ p :: (middle ++ q :: [])) ∧
    q.command = startA ∧ q.after.runtime = q.before.runtime ∧
    ∀ op ∈ q.calls, op.IsAnswer := by
  have run := isRun_pendingDelivery [startA, stopA, startA] (by decide)
  refine ⟨_, [_], _, run, rfl, ?_⟩
  exact (@executed_revisions_increase _ [] [_] [] _ _ run (by decide +kernel) rfl
    (by decide +kernel)).2 (by decide)

/-- A START that completed is executed again, down to the reader, when another session
has run in between. -/
theorem executed_revisions_not_increasing : ∃ before p middle q after,
    IsRun (verifiedIdle "GATE-1") (before ++ p :: (middle ++ q :: after)) ∧
    p.Completed ∧ q.Executed ∧ q.command = p.command ∧
    .readerStart q.command.sessionKey q.command.readerCode ∈ q.calls := by
  have run := isRun_pendingDelivery [startA, stopA, startB, stopB, startA] (by decide)
  refine ⟨[], _, [_, _, _], _, [], run, ?_, ?_, rfl, ?_⟩
  · decide +kernel
  · decide +kernel
  · decide +kernel

/-- Over refused calls the runtime does not change. -/
theorem IsRun.idle {s : OrchestratorState} {middle after : List Processed} {q : Processed}
    (run : IsRun s (middle ++ q :: after)) (idle : ∀ r ∈ middle, ¬ r.Executed) :
    q.before.runtime = s.runtime := by
  induction middle generalizing s with
  | nil => rw [run.1]
  | cons r middle ih =>
      obtain ⟨rfl, call, rest⟩ := run
      rw [ih rest fun r' hr' => idle r' (List.mem_cons_of_mem r hr')]
      exact (call.refused (idle r (List.mem_cons_self ..))).1

/-- Once a command has completed, and until another one is executed, it is never
acknowledged as failed. -/
theorem completed_never_refused {readerCode : String} {before middle after : List Processed}
    {p q : Processed}
    (run : IsRun (verifiedIdle readerCode) (before ++ p :: (middle ++ q :: after)))
    (completed : p.Completed) (last : ∀ r ∈ middle, ¬ r.Executed) {request : AckRequest}
    (made : .ack request ∈ p.calls ∨ .ack request ∈ q.calls)
    (same : request.IsFor p.command) : request.success = true := by
  obtain ⟨callP, rest⟩ := run.append
  obtain ⟨callQ, -⟩ := rest.append
  have done := callP.done completed
  cases made with
  | inl made => exact (Processed.calls_of_within done _ made request rfl).2
  | inr made =>
      obtain ⟨key, kind, revision⟩ := callQ.acks _ made request rfl
      have sameKey : q.command.sessionKey = p.command.sessionKey := key.symm.trans same.1
      have sameRevision : q.command.revision = p.command.revision :=
        revision.symm.trans same.2.2
      have runtime : q.before.runtime = p.after.runtime := rest.idle last
      have recorded : q.before.runtime.isCompleted q.command = true := by
        rw [runtime, isCompleted_congr sameKey (kind.symm.trans same.2.1) sameRevision]
        exact done.1.completed
      have remembered : q.before.runtime.revisionSessionKey = some q.command.sessionKey := by
        have ended : Ended p.command p.before.history p.after := .inr done
        cases ended.revisionSessionKey with
        | inl remembered => rw [runtime, remembered, sameKey]
        | inr lost =>
            have completedNow := done.1.completed
            simp [LocalReaderRuntime.isCompleted, lost.2.2.1] at completedNow
      have plan := planCommand_of_isCompleted callQ.mine
        (by rw [runtime, done.1.revision, sameRevision]) remembered recorded
      have again := callQ.duplicate plan rfl
      exact ((Processed.calls_of_within again _ made).2 request rfl).2

/-- A START that comes again at once is acknowledged as successful again. -/
theorem completed_never_refused_restart : ∃ p q request,
    IsRun (verifiedIdle "GATE-1") ([] ++ p :: ([] ++ q :: [])) ∧ q.command = startA ∧
    .ack request ∈ q.calls ∧ request.success = true := by
  have run := isRun_pendingDelivery [startA, startA] (by decide)
  refine ⟨_, _, _, run, rfl, List.mem_cons_self .., ?_⟩
  exact @completed_never_refused _ [] [] [] _ _ run (by decide +kernel) (by simp) _
    (.inr (List.mem_cons_self ..)) ⟨rfl, rfl, rfl⟩

/-- A STOP that completed with its acknowledgement withheld is refused when another
session was started before it came again. -/
theorem completed_refused_after_other_session : ∃ before p middle q after request,
    IsRun (verifiedIdle "GATE-1") (before ++ p :: (middle ++ q :: after)) ∧
    p.Completed ∧ .ack request ∈ q.calls ∧ request.IsFor p.command ∧
    request.success = false := by
  have run := isRun_pendingDelivery [startA, stopA, startB, stopA] (by decide)
  refine ⟨[_], _, [_], _, [], _, run, ?_, List.mem_cons_self .., ?_, ?_⟩
  · decide +kernel
  · exact ⟨rfl, rfl, rfl⟩
  · rfl

end RfidBridge
