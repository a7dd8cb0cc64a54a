import RfidBridge.Runtime.Orchestrator

/-!
What has to be shown of a reader, its hooks and its sessions so that every call of
process_command leads from one assertion back to it. The assertions in between follow
the three procedures; the contract says what each collaborator makes of them, and the
procedures themselves are gone through here, once.
-/

namespace RfidBridge
open FinalRuntimeOrchestrator

/-- A statement of a try block has raised. What an `except Exception` may go on with
holds only if the exception is one. -/
def Fails {σ : Type} (cut continues : σ → Prop) (exc : PyException) (s : σ) : Prop :=
  cut s ∧ (exc.isException = true → continues s)

/-- An exception that leaves process_command. It is no failure of the transport, so the
worker does not go on behind it. -/
def Escapes {σ : Type} (cut : σ → Prop) (exc : PyException) (s : σ) : Prop :=
  cut s ∧ exc.cls ≠ .odooRfidApiTransportError

section
variable {ι : Type} {ρ : ι → Type} {σ : Type}

structure CommandContract (a : Actor ι ρ PyException σ) (orch : Collaborators ι ρ)
    (command : OdooRFIDCommand) where
  /-- Where process_command begins. -/
  entered : σ → Prop
  /-- The same, with this runtime. -/
  knows : LocalReaderRuntime → σ → Prop
  /-- Where process_command returns. -/
  ready : σ → Prop
  /-- Where it has raised. -/
  cut : σ → Prop
  begun : σ → Prop
  synchronized : SessionSyncResult → σ → Prop
  /-- A START has failed, with the session that it had synchronized. -/
  startFailed : Option SessionSyncResult → σ → Prop
  /-- A STOP or ABORT has failed. -/
  failed : σ → Prop
  done : σ → Prop
  completed : σ → Prop
  stable_ready : a.Stable ready
  stable_cut : a.Stable cut
  stable_startFailed : ∀ sync, a.Stable (startFailed sync)
  stable_failed : a.Stable failed
  ready_of_knows : ∀ runtime s, knows runtime s → ready s
  readEntered : a.Triple entered orch.readRuntime knows (Escapes cut)
  readReady : a.Triple ready orch.readRuntime (fun _ => ready) (Escapes cut)
  failureAck : ∀ message,
    a.Triple ready (sendFailureAck orch command message) (fun _ => ready) (Escapes cut)
  resend : ∀ runtime, runtime.isCompleted command = true →
    a.Triple (knows runtime) (sendCompletedSuccessAck orch command) (fun _ => ready)
      (Fails cut ready)
  begins : ∀ runtime transition, runtime.planCommand command = .ok transition →
    command.readerCode = runtime.readerCode → runtime.planNew command = .ok transition →
    a.Triple (knows runtime) (orch.writeRuntime transition.after) (fun _ => begun) (Escapes cut)
  synchronize : command.command = .start →
    a.Triple begun (orch.synchronizeStartCommand command) synchronized
      (Fails cut (startFailed none))
  startReader : command.command = .start → ∀ sync,
    a.Triple (synchronized sync) (startReader orch command) (fun _ => done)
      (Fails cut (startFailed (some sync)))
  readerIsActive : ∀ sync,
    a.Triple (startFailed sync) orch.readerIsActive (fun _ => startFailed sync) (Escapes cut)
  emergencyStop : ∀ sync,
    a.Triple (startFailed sync) (emergencyStop orch command) (fun _ => startFailed sync)
      (Fails cut (startFailed sync))
  cancelCreated : ∀ sync, (sync.any (·.created)) = true →
    a.Triple (startFailed sync) (orch.cancelLocalSession command.sessionKey command.readerCode)
      (fun _ => startFailed sync) (Fails cut (startFailed sync))
  degradeStart : ∀ sync message,
    a.Triple (startFailed sync) (updateRuntime orch fun runtime => runtime.markDegraded message)
      (fun _ => ready) (Escapes cut)
  stopReader : command.command = .stop →
    a.Triple begun (stopReader orch command) (fun _ => done) (Fails cut failed)
  abortReader : command.command = .abort →
    a.Triple begun (abortReader orch command) (fun _ => done) (Fails cut failed)
  degrade : ∀ message,
    a.Triple failed (updateRuntime orch fun runtime => runtime.markDegraded message)
      (fun _ => ready) (Escapes cut)
  completes :
    a.Triple done (updateRuntime orch fun runtime => runtime.markCommandCompleted command)
      (fun _ => completed) (Escapes cut)
  successAck :
    a.Triple completed (sendCompletedSuccessAck orch command) (fun _ => ready) (Fails cut ready)

namespace CommandContract
variable {a : Actor ι ρ PyException σ} {orch : Collaborators ι ρ} {command : OdooRFIDCommand}
  {α β : Type}

theorem escapes_of_interrupt {cut : σ → Prop} {exc : PyException} {s : σ}
    (interrupt : exc.isException = false) (h : cut s) : Escapes cut exc s := by
  refine ⟨h, fun transport => ?_⟩
  simp [PyException.isException, transport] at interrupt

/-- A part of a procedure that keeps its assertion however it ends. -/
theorem fails_of_keeps {P cut : σ → Prop} {p : Program ι ρ α} (h : a.Keeps P p)
    (weaker : ∀ s, P s → cut s) : a.Triple P p (fun _ => P) (Fails cut P) :=
  h.triple.conseq (fun _ => id) (fun _ _ => id) fun _ s after => ⟨weaker s after, fun _ => after⟩

variable (C : CommandContract a orch command)

theorem stable_escapes (exc : PyException) : a.Stable (Escapes C.cut exc) :=
  fun s s' h rely => ⟨C.stable_cut s s' h.1 rely, h.2⟩

theorem stable_fails {F : σ → Prop} (stable : a.Stable F) (exc : PyException) :
    a.Stable (Fails C.cut F exc) :=
  fun s s' h rely => ⟨C.stable_cut s s' h.1 rely, fun caught => stable s s' (h.2 caught) rely⟩

/-- A try statement with `except Exception`. -/
theorem triple_try {body : Program ι ρ α} {failed : PyException → Program ι ρ β}
    {passed : α → Program ι ρ β} {P F : σ → Prop} {Q : α → σ → Prop} {R : β → σ → Prop}
    (stable : a.Stable F) (hb : a.Triple P body Q (Fails C.cut F))
    (hf : ∀ exc, a.Triple F (failed exc) R (Escapes C.cut))
    (hp : ∀ value, a.Triple (Q value) (passed value) R (Escapes C.cut)) :
    a.Triple P (tryElse body failed passed) R (Escapes C.cut) := by
  refine triple_tryElse hb ?_ ?_ hp
  · exact fun exc caught => (hf exc).conseq (fun _ post => post.2 caught) (fun _ _ => id)
      fun _ _ => id
  · exact fun exc interrupt => Actor.triple_raise (C.stable_fails stable exc)
      fun s post => escapes_of_interrupt interrupt post.1

theorem resultNow (success : Bool) (message : String) :
    a.Triple C.ready (resultNow orch command success message) (fun _ => C.ready)
      (Escapes C.cut) := by
  apply Actor.Triple.seq C.stable_escapes C.readReady
  exact fun runtime => Actor.triple_ret C.stable_ready fun _ => id

/-- The success ACK and the result that its outcome leads to. -/
theorem ackResult {P : σ → Prop} {pending accepted : String}
    (ack : a.Triple P (sendCompletedSuccessAck orch command) (fun _ => C.ready)
      (Fails C.cut C.ready)) :
    a.Triple P (tryElse (sendCompletedSuccessAck orch command)
        (fun exc => FinalRuntimeOrchestrator.resultNow orch command false (pending ++ exc.message))
        fun _ => FinalRuntimeOrchestrator.resultNow orch command true accepted)
      (fun _ => C.ready) (Escapes C.cut) :=
  C.triple_try C.stable_ready ack (fun _ => C.resultNow false _)
    fun _ => C.resultNow true accepted

theorem completeCommand (pending accepted : String) :
    a.Triple C.done (completeCommand orch command pending accepted) (fun _ => C.ready)
      (Escapes C.cut) :=
  Actor.Triple.seq C.stable_escapes C.completes fun _ =>
    C.ackResult C.successAck

/-- `try: body`, `except Exception as exc`. -/
theorem attempts {body : Program ι ρ Unit} {P : σ → Prop} (stable : a.Stable P)
    (h : a.Triple P body (fun _ => P) (Fails C.cut P)) :
    a.Triple P (attempt body) (fun _ => P) (Escapes C.cut) :=
  C.triple_try stable h (fun _ => Actor.triple_ret stable fun _ => id)
    fun _ => Actor.triple_ret stable fun _ => id

theorem recoverStart (sync : Option SessionSyncResult) (exc : PyException) :
    a.Triple (C.startFailed sync)
      (FinalRuntimeOrchestrator.startFailed orch command sync exc) (fun _ => C.ready)
      (Escapes C.cut) := by
  have stable : a.Stable (C.startFailed sync) := C.stable_startFailed sync
  apply Actor.Triple.seq C.stable_escapes (C.readerIsActive sync)
  intro active
  apply Actor.Triple.seq C.stable_escapes (Q := fun _ => C.startFailed sync)
  · split
    · exact C.attempts stable (C.emergencyStop sync)
    · exact Actor.triple_ret stable fun _ => id
  intro stopError
  apply Actor.Triple.seq C.stable_escapes (Q := fun _ => C.startFailed sync)
  · split
    · rename_i created
      exact C.attempts stable (C.cancelCreated sync created)
    · exact Actor.triple_ret stable fun _ => id
  intro cleanupError
  apply Actor.Triple.seq C.stable_escapes (C.degradeStart sync _)
  intro _
  exact Actor.Triple.seq C.stable_escapes (C.failureAck _) fun _ =>
    C.resultNow false _

theorem executeStart {runtime : LocalReaderRuntime} {transition : RuntimeTransition}
    (planned : runtime.planCommand command = .ok transition)
    (mine : command.readerCode = runtime.readerCode)
    (plan : runtime.planNew command = .ok transition) (kind : command.command = .start) :
    a.Triple (C.knows runtime) (executeStart orch command transition.after) (fun _ => C.ready)
      (Escapes C.cut) := by
  apply Actor.Triple.seq C.stable_escapes (C.begins runtime transition planned mine plan)
  intro _
  refine C.triple_try (C.stable_startFailed none) (C.synchronize kind)
    (C.recoverStart none) ?_
  exact fun sync => C.triple_try (C.stable_startFailed (some sync))
    (C.startReader kind sync) (C.recoverStart (some sync))
    fun _ => C.completeCommand _ _

theorem executeStop {runtime : LocalReaderRuntime} {transition : RuntimeTransition}
    (planned : runtime.planCommand command = .ok transition)
    (mine : command.readerCode = runtime.readerCode)
    (plan : runtime.planNew command = .ok transition) (kind : command.command = .stop) :
    a.Triple (C.knows runtime) (executeStop orch command transition.after) (fun _ => C.ready)
      (Escapes C.cut) := by
  apply Actor.Triple.seq C.stable_escapes (C.begins runtime transition planned mine plan)
  intro _
  refine C.triple_try C.stable_failed (C.stopReader kind) ?_
    fun _ => C.completeCommand _ _
  intro exc
  apply Actor.Triple.seq C.stable_escapes (C.degrade exc.message)
  intro _
  exact Actor.Triple.seq C.stable_escapes (C.failureAck exc.message) fun _ =>
    C.resultNow false exc.message

theorem executeAbort {runtime : LocalReaderRuntime} {transition : RuntimeTransition}
    (planned : runtime.planCommand command = .ok transition)
    (mine : command.readerCode = runtime.readerCode)
    (plan : runtime.planNew command = .ok transition) (kind : command.command = .abort) :
    a.Triple (C.knows runtime) (executeAbort orch command transition.after) (fun _ => C.ready)
      (Escapes C.cut) := by
  apply Actor.Triple.seq C.stable_escapes (C.begins runtime transition planned mine plan)
  intro _
  refine C.triple_try C.stable_failed (C.abortReader kind) ?_
    fun _ => C.completeCommand _ _
  intro exc
  exact Actor.Triple.seq C.stable_escapes (C.degrade exc.message) fun _ =>
    C.resultNow false exc.message

/-- One call of process_command. -/
theorem processCommand :
    a.Triple C.entered (processCommand orch command) (fun _ => C.ready) (Escapes C.cut) := by
  apply Actor.Triple.seq C.stable_escapes C.readEntered
  intro runtime
  split
  · rename_i exc _
    have rejected : a.Triple C.ready (rejectCommand orch command exc.message) (fun _ => C.ready)
        (Escapes C.cut) :=
      Actor.Triple.seq C.stable_escapes (C.failureAck exc.message) fun _ =>
        C.resultNow false exc.message
    exact rejected.conseq (C.ready_of_knows runtime) (fun _ _ => id) fun _ _ => id
  · rename_i transition planned
    obtain ⟨mine, ⟨duplicate, completed⟩ | ⟨new, plan⟩⟩ :=
      LocalReaderRuntime.planCommand_eq_ok planned
    · rw [if_pos duplicate]
      exact C.ackResult (C.resend runtime completed)
    · rw [if_neg (by simp [new])]
      cases kind : command.command with
      | start => exact C.executeStart planned mine plan kind
      | stop => exact C.executeStop planned mine plan kind
      | abort => exact C.executeAbort planned mine plan kind

end CommandContract
end
end RfidBridge
