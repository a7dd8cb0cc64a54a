import RfidBridge.Runtime.OrchestratorRuns

/-!
When process_command returns. Every procedure catches the exceptions of its collaborators
and degrades the runtime with the exception's text, which raises in turn when that text is
blank: then the runtime stays as the procedure left it, and the exception leaves the worker.
-/

namespace RfidBridge
open FinalRuntimeOrchestrator

/-- What the collaborators do during one command, which calls none of them twice. -/
abbrev Outcomes := (op : OrchestratorOp) → Except PyException op.Answer

namespace Outcomes

def respond (o : Outcomes) (op : OrchestratorOp) (runtime : LocalReaderRuntime) :
    Except PyException op.Answer × LocalReaderRuntime :=
  match op with
  | .readRuntime => (.ok runtime, runtime)
  | .writeRuntime runtime' => (.ok (), runtime')
  | op => (o op, runtime)

/-- The run of a program among these outcomes. -/
abbrev run {α : Type} (o : Outcomes) (p : Program OrchestratorOp OrchestratorOp.Answer α)
    (runtime : LocalReaderRuntime) : Except PyException α × LocalReaderRuntime :=
  p.eval o.respond runtime

/-- Nothing but exceptions is raised. -/
def RaisesExceptions (o : Outcomes) : Prop :=
  ∀ op exc, o op = .error exc → exc.isException = true

end Outcomes

def raisedBy {α : Type} : Except PyException α → Option PyException
  | .ok _ => none
  | .error exc => some exc

/-- The exception of the first step that raises. -/
def firstRaised (steps : List (Option PyException)) : Option PyException :=
  steps.findSome? id

theorem firstRaised_single (step : Option PyException) : firstRaised [step] = step := by
  cases step <;> rfl

namespace Outcomes
variable (o : Outcomes) (command : OdooRFIDCommand)

def raisedByHook (hook : Hook) : Option PyException :=
  raisedBy (o (.hook hook command.sessionKey command.readerCode))

def raisedByStop : Option PyException :=
  raisedBy (o (.readerStop command.sessionKey command.readerCode))

def raisedByCancel : Option PyException :=
  raisedBy (o (.cancelLocalSession command.sessionKey command.readerCode))

/-- What ends the try block of START. -/
def startFailure : Option PyException :=
  firstRaised [raisedBy (o (.synchronizeStartCommand command)),
    raisedBy (o (.readerStart command.sessionKey command.readerCode)),
    o.raisedByHook command .afterReaderStart]

/-- What ends the emergency STOP behind a failed START. -/
def emergencyFailure : Option PyException :=
  match o .readerIsActive with
  | .ok true => firstRaised [o.raisedByHook command .beforeReaderStop, o.raisedByStop command,
      o.raisedByHook command .beforeSessionClose]
  | _ => none

/-- What the cleanup of a session that START created ends with. -/
def cleanupFailure : Option PyException :=
  match o (.synchronizeStartCommand command) with
  | .ok sync => if sync.created then o.raisedByCancel command else none
  | .error _ => none

/-- What ends the try block of STOP. -/
def stopFailure : Option PyException :=
  firstRaised [o.raisedByHook command .beforeReaderStop, o.raisedByStop command,
    o.raisedByHook command .beforeSessionClose,
    raisedBy (o (.closeLocalSession command.sessionKey command.readerCode))]

/-- What ends the try block of ABORT, where a FinalSessionError of the cancellation does not. -/
def abortFailure : Option PyException :=
  firstRaised [o.raisedByHook command .beforeReaderStop, raisedBy (o .readerIsActive),
    match o .readerIsActive with
    | .ok true => o.raisedByStop command
    | _ => raisedBy (o .readerVerifyIdle),
    o.raisedByHook command .beforeSessionClose,
    (o.raisedByCancel command).filter fun exc => exc.cls ≠ .finalSessionError]

/-- The failure of the procedure, if there is one, comes with a text to degrade with. -/
def FailureHasText : RuntimeCommand → Prop
  | .start => ∀ exc ∈ o.startFailure command, (∃ active, o .readerIsActive = .ok active) ∧
      (strip exc.message ≠ "" ∨ (o.emergencyFailure command).isSome ∨
        (o.cleanupFailure command).isSome)
  | .stop => ∀ exc ∈ o.stopFailure command, strip exc.message ≠ ""
  | .abort => ∀ exc ∈ o.abortFailure command, strip exc.message ≠ ""

end Outcomes

/-- The command is neither rejected nor a duplicate. -/
def Executes (runtime : LocalReaderRuntime) (command : OdooRFIDCommand) : Prop :=
  ∃ transition, runtime.planCommand command = .ok transition ∧ transition.duplicate = false

/-- What a process_command that returns has done. -/
structure ResolvedCommand (command : OdooRFIDCommand) (before : LocalReaderRuntime)
    (run : Except PyException CommandExecutionResult × LocalReaderRuntime) : Prop where
  returned : ∃ result, run.1 = .ok result ∧ result.runtime = run.2
  executed : Executes before command →
    (run.2.state = .reading ∨ run.2.state = .idle) ∧ run.2.isCompleted command = true ∨
    run.2.state = .degraded ∧ ∃ error ∈ run.2.error, error ≠ ""
  unchanged : ¬ Executes before command → run.2 = before

/-- What process_command owes its caller. -/
structure SettledCommand (command : OdooRFIDCommand) (before : LocalReaderRuntime)
    (run : Except PyException CommandExecutionResult × LocalReaderRuntime) : Prop
    extends ResolvedCommand command before run where
  notBetween : run.2.state ≠ .starting ∧ run.2.state ≠ .stopping

theorem ResolvedCommand.settled {command : OdooRFIDCommand} {before : LocalReaderRuntime}
    {run : Except PyException CommandExecutionResult × LocalReaderRuntime}
    (h : ResolvedCommand command before run)
    (between : before.state ≠ .starting ∧ before.state ≠ .stopping) :
    SettledCommand command before run := by
  refine ⟨h, ?_⟩
  by_cases executes : Executes before command
  · rcases h.executed executes with ⟨reading | idle, -⟩ | ⟨degraded, -⟩
    · exact reading ▸ ⟨nofun, nofun⟩
    · exact idle ▸ ⟨nofun, nofun⟩
    · exact degraded ▸ ⟨nofun, nofun⟩
  · rw [h.unchanged executes]
    exact between

section
variable {o : Outcomes} {command : OdooRFIDCommand} {before runtime : LocalReaderRuntime}
  {α β : Type}

theorem run_call (op : OrchestratorOp) (isCall : op.IsCall) :
    o.run (Prog.perform op) runtime = (o op, runtime) := by
  rw [Outcomes.run, Prog.eval_perform]
  cases op with
  | readRuntime | writeRuntime => exact isCall.elim
  | _ => rfl

theorem run_then_ok {p : Program OrchestratorOp OrchestratorOp.Answer α}
    {f : α → Program OrchestratorOp OrchestratorOp.Answer β} {value : α}
    {runtime' : LocalReaderRuntime} (ran : o.run p runtime = (.ok value, runtime')) :
    o.run (p >>= f) runtime = o.run (f value) runtime' := by
  change (p.bind f).eval o.respond runtime = _
  rw [Prog.eval_bind, show p.eval o.respond runtime = _ from ran]

theorem run_then_error {p : Program OrchestratorOp OrchestratorOp.Answer α}
    {f : α → Program OrchestratorOp OrchestratorOp.Answer β} {exc : PyException}
    (ran : (o.run p runtime).1 = .error exc) : (o.run (p >>= f) runtime).1 = .error exc := by
  change ((p.bind f).eval o.respond runtime).1 = _
  rw [Prog.eval_bind]
  cases evaluated : p.eval o.respond runtime with
  | mk outcome runtime' =>
      rw [Outcomes.run, evaluated] at ran
      cases ran
      rfl

theorem run_tryElse_ok {body : Program OrchestratorOp OrchestratorOp.Answer α}
    {failed : PyException → Program OrchestratorOp OrchestratorOp.Answer β}
    {passed : α → Program OrchestratorOp OrchestratorOp.Answer β} {value : α}
    {runtime' : LocalReaderRuntime} (ran : o.run body runtime = (.ok value, runtime')) :
    o.run (tryElse body failed passed) runtime = o.run (passed value) runtime' := by
  rw [Outcomes.run, eval_tryElse, show body.eval o.respond runtime = _ from ran]

theorem run_tryElse_error {body : Program OrchestratorOp OrchestratorOp.Answer α}
    {failed : PyException → Program OrchestratorOp OrchestratorOp.Answer β}
    {passed : α → Program OrchestratorOp OrchestratorOp.Answer β} {exc : PyException}
    (ran : (o.run body runtime).1 = .error exc) (caught : exc.isException = true) :
    o.run (tryElse body failed passed) runtime =
      o.run (failed exc) (o.run body runtime).2 := by
  rw [Outcomes.run, eval_tryElse]
  cases evaluated : body.eval o.respond runtime with
  | mk outcome runtime' =>
      rw [Outcomes.run, evaluated] at ran
      cases ran
      dsimp only
      rw [if_pos caught, show o.run body runtime = _ from evaluated]

theorem run_update_ok {step : LocalReaderRuntime → Except PyException LocalReaderRuntime}
    {runtime' : LocalReaderRuntime} (stepped : step runtime = .ok runtime') :
    o.run (updateRuntime anyCollaborators step) runtime = (.ok (), runtime') := by
  change ((Prog.ofExcept (step runtime)).bind _).eval o.respond runtime = _
  rw [stepped]
  rfl

theorem run_update_error {step : LocalReaderRuntime → Except PyException LocalReaderRuntime}
    {exc : PyException} (raises : step runtime = .error exc) :
    o.run (updateRuntime anyCollaborators step) runtime = (.error exc, runtime) := by
  change ((Prog.ofExcept (step runtime)).bind _).eval o.respond runtime = _
  rw [raises]
  rfl

theorem run_resultNow (success : Bool) (message : String) :
    o.run (resultNow anyCollaborators command success message) runtime =
      (.ok { runtime, command, success, message }, runtime) := rfl

/-- An outcome without a KeyboardInterrupt. -/
def OrException (outcome : Except PyException α) : Prop :=
  ∀ exc, outcome = .error exc → exc.isException = true

/-- The program leaves the runtime alone and raises nothing but exceptions. -/
def Spares (o : Outcomes) (p : Program OrchestratorOp OrchestratorOp.Answer α) : Prop :=
  ∀ runtime, ∃ outcome, OrException outcome ∧ o.run p runtime = (outcome, runtime)

theorem spares_call (exceptions : o.RaisesExceptions) (op : OrchestratorOp)
    (isCall : op.IsCall) : Spares o (Prog.perform op) :=
  fun _ => ⟨o op, exceptions op, run_call op isCall⟩

theorem spares_pure (value : α) : Spares o (pure value) :=
  fun _ => ⟨.ok value, nofun, rfl⟩

theorem spares_raise {exc : PyException} (h : exc.isException = true) :
    Spares o (.raise exc : Program OrchestratorOp OrchestratorOp.Answer α) :=
  fun _ => ⟨.error exc, fun _ eq => Except.error.inj eq ▸ h, rfl⟩

theorem spares_when {condition : Bool} {p : Program OrchestratorOp OrchestratorOp.Answer Unit}
    (h : Spares o p) : Spares o (when_ condition p) := by
  cases condition with
  | true => exact h
  | false => exact spares_pure ()

theorem spares_then {p : Program OrchestratorOp OrchestratorOp.Answer α}
    {f : α → Program OrchestratorOp OrchestratorOp.Answer β} (hp : Spares o p)
    (hf : ∀ value, Spares o (f value)) : Spares o (p >>= f) := by
  intro runtime
  obtain ⟨outcome, caught, ran⟩ := hp runtime
  cases outcome with
  | ok value =>
      rw [run_then_ok ran]
      exact hf value runtime
  | error exc =>
      refine ⟨.error exc, fun _ eq => Except.error.inj eq ▸ caught exc rfl, ?_⟩
      change (p.bind f).eval o.respond runtime = _
      rw [Prog.eval_bind, show p.eval o.respond runtime = _ from ran]

theorem spares_sendCompletedSuccessAck (exceptions : o.RaisesExceptions)
    (command : OdooRFIDCommand) :
    Spares o (sendCompletedSuccessAck anyCollaborators command) := by
  refine spares_then (spares_when (spares_call exceptions (.hook .beforeSuccessAck _ _) trivial))
    fun _ => ?_
  refine spares_then (spares_call exceptions (.ack _) trivial) fun _ => ?_
  exact spares_when (spares_raise rfl)

theorem run_sendFailureAck (exceptions : o.RaisesExceptions) (message : String) :
    o.run (sendFailureAck anyCollaborators command message) runtime = (.ok (), runtime) := by
  obtain ⟨outcome, caught, ran⟩ :=
    spares_call exceptions (.ack (ackRequest command false message)) trivial runtime
  cases outcome with
  | ok _ => exact run_tryElse_ok ran
  | error exc =>
      refine (run_tryElse_error (congrArg Prod.fst ran) (caught exc rfl)).trans ?_
      rw [ran]
      rfl

/-- A success acknowledgement is reported whichever way it ends. -/
theorem run_reportedAck (exceptions : o.RaisesExceptions) (command : OdooRFIDCommand)
    (runtime : LocalReaderRuntime) (pending accepted : String) :
    ∃ success message,
      o.run (tryElse (sendCompletedSuccessAck anyCollaborators command)
        (fun exc => resultNow anyCollaborators command false (pending ++ exc.message))
        fun _ => resultNow anyCollaborators command true accepted) runtime =
      (.ok { runtime, command, success, message }, runtime) := by
  obtain ⟨outcome, caught, ran⟩ :=
    spares_sendCompletedSuccessAck exceptions command runtime
  cases outcome with
  | ok _ => exact ⟨true, accepted, run_tryElse_ok ran⟩
  | error exc =>
      rw [run_tryElse_error (congrArg Prod.fst ran) (caught exc rfl), ran]
      exact ⟨false, _, rfl⟩

/-- How a try block ends: with its first failure, or in a runtime with a property. -/
def TryEnds (P : LocalReaderRuntime → Prop) (failure : Option PyException)
    (run : Except PyException Unit × LocalReaderRuntime) : Prop :=
  match failure with
  | some exc => run.1 = .error exc ∧ exc.isException = true
  | none => ∃ runtime, run = (.ok (), runtime) ∧ P runtime

variable {P : LocalReaderRuntime → Prop}

theorem tryEnds_then {p : Program OrchestratorOp OrchestratorOp.Answer α}
    {f : α → Program OrchestratorOp OrchestratorOp.Answer Unit} {outcome : Except PyException α}
    {rest : List (Option PyException)} (called : o.run p runtime = (outcome, runtime))
    (exceptions : OrException outcome)
    (h : ∀ value, outcome = .ok value → TryEnds P (firstRaised rest) (o.run (f value) runtime)) :
    TryEnds P (firstRaised (raisedBy outcome :: rest)) (o.run (p >>= f) runtime) := by
  cases outcome with
  | ok value =>
      rw [run_then_ok called]
      exact h value rfl
  | error exc => exact ⟨run_then_error (congrArg Prod.fst called), exceptions exc rfl⟩

theorem tryEnds_last {p : Program OrchestratorOp OrchestratorOp.Answer Unit}
    {outcome : Except PyException Unit} (called : o.run p runtime = (outcome, runtime))
    (exceptions : OrException outcome) (h : P runtime) :
    TryEnds P (firstRaised [raisedBy outcome]) (o.run p runtime) := by
  rw [called]
  cases outcome with
  | ok _ => exact ⟨runtime, rfl, h⟩
  | error exc => exact ⟨rfl, exceptions exc rfl⟩

theorem tryEnds_update {step : LocalReaderRuntime → Except PyException LocalReaderRuntime}
    {runtime' : LocalReaderRuntime} (stepped : step runtime = .ok runtime')
    {failure : Option PyException}
    {f : Unit → Program OrchestratorOp OrchestratorOp.Answer Unit}
    (h : TryEnds P failure (o.run (f ()) runtime')) :
    TryEnds P failure (o.run (updateRuntime anyCollaborators step >>= f) runtime) := by
  rw [run_then_ok (run_update_ok stepped)]
  exact h

/-- The runtime of this command, in the given state. -/
structure RunsCommand (command : OdooRFIDCommand) (state : RuntimeState)
    (runtime : LocalReaderRuntime) : Prop where
  state : runtime.state = state
  mine : command.readerCode = runtime.readerCode
  revision : command.revision = runtime.lastCommandRevision

theorem RunsCommand.markReaderStopped (planned : RunsCommand command .stopping runtime) :
    ∃ stopped, runtime.markReaderStopped = .ok stopped ∧ RunsCommand command .idle stopped := by
  rw [LocalReaderRuntime.markReaderStopped, if_neg (not_not.mpr planned.state)]
  exact ⟨_, rfl, rfl, planned.mine, planned.revision⟩

theorem RunsCommand.markReaderStarted (planned : RunsCommand command .starting runtime)
    (keyed : present runtime.sessionKey = true) :
    ∃ started, runtime.markReaderStarted = .ok started ∧
      RunsCommand command .reading started := by
  rw [LocalReaderRuntime.markReaderStarted, if_neg (not_not.mpr planned.state),
    if_neg (not_not.mpr keyed)]
  exact ⟨_, rfl, rfl, planned.mine, planned.revision⟩

theorem startReader_ends (exceptions : o.RaisesExceptions)
    (planned : RunsCommand command .starting runtime)
    (keyed : present runtime.sessionKey = true) :
    TryEnds (RunsCommand command .reading)
      (firstRaised [raisedBy (o (.readerStart command.sessionKey command.readerCode)),
        o.raisedByHook command .afterReaderStart])
      (o.run (startReader anyCollaborators command) runtime) := by
  obtain ⟨started, stepped, reading⟩ := planned.markReaderStarted keyed
  refine tryEnds_then (run_call (.readerStart _ _) trivial) (exceptions _) fun _ _ => ?_
  refine tryEnds_update stepped ?_
  exact tryEnds_last (run_call (.hook .afterReaderStart _ _) trivial) (exceptions _) reading

theorem stopReader_ends (exceptions : o.RaisesExceptions)
    (planned : RunsCommand command .stopping runtime) :
    TryEnds (RunsCommand command .idle) (o.stopFailure command)
      (o.run (stopReader anyCollaborators command) runtime) := by
  obtain ⟨stopped, stepped, idle⟩ := planned.markReaderStopped
  refine tryEnds_then (run_call (.hook .beforeReaderStop _ _) trivial) (exceptions _)
    fun _ _ => ?_
  refine tryEnds_then (run_call (.readerStop _ _) trivial) (exceptions _) fun _ _ => ?_
  refine tryEnds_update stepped ?_
  refine tryEnds_then (run_call (.hook .beforeSessionClose _ _) trivial) (exceptions _)
    fun _ _ => ?_
  exact tryEnds_last (run_call (.closeLocalSession _ _) trivial) (exceptions _) idle

/-- ABORT does without the session that it would cancel. -/
theorem cancelIfPresent_ends (exceptions : o.RaisesExceptions) (h : P runtime) :
    TryEnds P
      (firstRaised [(o.raisedByCancel command).filter fun exc => exc.cls ≠ .finalSessionError])
      (o.run (cancelIfPresent anyCollaborators command) runtime) := by
  have called : (anyCollaborators.cancelLocalSession command.sessionKey
      command.readerCode).eval o.respond runtime =
      (o (.cancelLocalSession command.sessionKey command.readerCode), runtime) :=
    run_call (.cancelLocalSession _ _) trivial
  rw [cancelIfPresent, Outcomes.run, Prog.tryExcept, Prog.eval_handle, called,
    Outcomes.raisedByCancel]
  cases outcome : o (.cancelLocalSession command.sessionKey command.readerCode) with
  | ok _ => exact ⟨runtime, rfl, h⟩
  | error exc =>
      dsimp only
      by_cases absent : exc.cls = .finalSessionError
      · rw [if_pos absent, raisedBy, Option.filter_some_neg (by simpa using absent)]
        exact ⟨runtime, rfl, h⟩
      · rw [if_neg absent, raisedBy, Option.filter_some_pos (by simpa using absent)]
        exact ⟨rfl, exceptions _ exc outcome⟩

theorem abortReader_ends (exceptions : o.RaisesExceptions)
    (planned : RunsCommand command .stopping runtime) :
    TryEnds (RunsCommand command .idle) (o.abortFailure command)
      (o.run (abortReader anyCollaborators command) runtime) := by
  obtain ⟨stopped, stepped, idle⟩ := planned.markReaderStopped
  refine tryEnds_then (run_call (.hook .beforeReaderStop _ _) trivial) (exceptions _)
    fun _ _ => ?_
  refine tryEnds_then (run_call .readerIsActive trivial) (exceptions _) fun active isActive => ?_
  rw [isActive]
  have closing : TryEnds (RunsCommand command .idle)
      (firstRaised [o.raisedByHook command .beforeSessionClose,
        (o.raisedByCancel command).filter fun exc => exc.cls ≠ .finalSessionError])
      (o.run (updateRuntime anyCollaborators LocalReaderRuntime.markReaderStopped >>= fun _ =>
        runHook anyCollaborators.beforeSessionClose command >>= fun _ =>
          cancelIfPresent anyCollaborators command) runtime) := by
    refine tryEnds_update stepped ?_
    refine tryEnds_then (run_call (.hook .beforeSessionClose _ _) trivial) (exceptions _)
      fun _ _ => ?_
    exact cancelIfPresent_ends exceptions idle
  cases active with
  | true =>
      exact tryEnds_then (run_call (.readerStop _ _) trivial) (exceptions _) fun _ _ => closing
  | false =>
      exact tryEnds_then (run_call .readerVerifyIdle trivial) (exceptions _) fun _ _ => closing

theorem completeCommand_settles (exceptions : o.RaisesExceptions) {state : RuntimeState}
    (at_rest : state = .reading ∨ state = .idle) (h : RunsCommand command state runtime)
    (executes : Executes before command) (pending accepted : String) :
    ResolvedCommand command before
      (o.run (completeCommand anyCollaborators command pending accepted) runtime) := by
  have completed : runtime.markCommandCompleted command = .ok {
      readerCode := runtime.readerCode
      state := runtime.state
      sessionKey := runtime.sessionKey
      lastCommandRevision := runtime.lastCommandRevision
      error := runtime.error
      completedCommandRevision := command.revision
      completedCommand := some command.command
      completedSessionKey := some command.sessionKey } := by
    rw [LocalReaderRuntime.markCommandCompleted, if_neg (not_not.mpr h.mine),
      if_neg (not_not.mpr h.revision)]
  rw [completeCommand, run_then_ok (run_update_ok completed)]
  obtain ⟨success, message, ran⟩ := run_reportedAck exceptions command _ pending accepted
  rw [ran]
  refine ⟨⟨_, rfl, rfl⟩, fun _ => .inl ⟨?_, ?_⟩, absurd executes⟩
  · rw [h.state]
    exact at_rest
  · simp [LocalReaderRuntime.isCompleted]

/-- The run resolves the command if the condition holds, and raises otherwise. -/
def SettlesIf (condition : Prop) (command : OdooRFIDCommand) (before : LocalReaderRuntime)
    (run : Except PyException CommandExecutionResult × LocalReaderRuntime) : Prop :=
  (condition → ResolvedCommand command before run) ∧ (¬ condition → ∃ exc, run.1 = .error exc)

theorem SettlesIf.congr {condition condition' : Prop}
    {run : Except PyException CommandExecutionResult × LocalReaderRuntime}
    (h : SettlesIf condition command before run) (same : condition ↔ condition') :
    SettlesIf condition' command before run :=
  ⟨fun holds => h.1 (same.mpr holds), fun fails => h.2 fun holds => fails (same.mp holds)⟩

/-- Degrading with a text and reporting it; a blank text raises instead. -/
theorem degrade_settles {rest : Program OrchestratorOp OrchestratorOp.Answer
      CommandExecutionResult} {message : String} (executes : Executes before command)
    (reports : ∀ runtime, ∃ result, result.runtime = runtime ∧
      o.run rest runtime = (.ok result, runtime)) :
    SettlesIf (strip message ≠ "") command before
      (o.run (updateRuntime anyCollaborators (fun runtime => runtime.markDegraded message) >>=
        fun _ => rest) runtime) := by
  constructor
  · intro text
    have degraded : runtime.markDegraded message = .ok {
        readerCode := runtime.readerCode
        state := .degraded
        sessionKey := runtime.sessionKey
        lastCommandRevision := runtime.lastCommandRevision
        error := some (strip message) } := by
      rw [LocalReaderRuntime.markDegraded, if_neg text]
    rw [run_then_ok (run_update_ok degraded)]
    obtain ⟨result, same, ran⟩ := reports {
      readerCode := runtime.readerCode
      state := .degraded
      sessionKey := runtime.sessionKey
      lastCommandRevision := runtime.lastCommandRevision
      error := some (strip message) }
    rw [ran]
    exact ⟨⟨result, rfl, same⟩, fun _ => .inr ⟨rfl, strip message, rfl, text⟩,
      absurd executes⟩
  · intro blank
    have raises : runtime.markDegraded message =
        raised .runtimeStateError "Degraded runtime requires an error message." := by
      rw [LocalReaderRuntime.markDegraded, if_pos (not_not.mp blank)]
    exact ⟨_, run_then_error (congrArg Prod.fst (run_update_error raises))⟩

theorem reports_failure (exceptions : o.RaisesExceptions) (message : String)
    (runtime : LocalReaderRuntime) :
    ∃ result, result.runtime = runtime ∧
      o.run (sendFailureAck anyCollaborators command message >>= fun _ =>
        resultNow anyCollaborators command false message) runtime = (.ok result, runtime) := by
  rw [run_then_ok (run_sendFailureAck exceptions message)]
  exact ⟨_, rfl, run_resultNow false message⟩

theorem startErrorMessage_ne_blank {exc : PyException}
    {stopError cleanupError : Option PyException} :
    strip (startErrorMessage exc stopError cleanupError) ≠ "" ↔
      strip exc.message ≠ "" ∨ stopError.isSome ∨ cleanupError.isSome := by
  have blank_append : ∀ text rest : String,
      strip (text ++ rest) = "" ↔ strip text = "" ∧ strip rest = "" := by
    intro text rest
    simp only [strip_eq_empty_iff, String.toList_append, List.mem_append, or_imp, forall_and]
  have stopPart : strip "; emergency reader STOP also failed: " ≠ "" := by decide
  have cleanupPart : strip "; newly-created local session cleanup also failed: " ≠ "" := by decide
  cases stopError with
  | none => cases cleanupError <;> simp [startErrorMessage, blank_append, cleanupPart]
  | some stopExc => cases cleanupError <;> simp [startErrorMessage, blank_append, stopPart]

/-- `attempt` on a try block that leaves the runtime to be degraded anyway. -/
theorem run_attempt {p : Program OrchestratorOp OrchestratorOp.Answer Unit}
    {failure : Option PyException} (ends : TryEnds P failure (o.run p runtime)) :
    ∃ runtime', o.run (attempt p) runtime = (.ok failure, runtime') := by
  cases failure with
  | none =>
      obtain ⟨runtime', ran, -⟩ := ends
      exact ⟨runtime', run_tryElse_ok ran⟩
  | some exc => exact ⟨_, run_tryElse_error ends.1 ends.2⟩

theorem emergencyStop_ends (exceptions : o.RaisesExceptions) :
    TryEnds (fun _ => True)
      (firstRaised [o.raisedByHook command .beforeReaderStop, o.raisedByStop command,
        o.raisedByHook command .beforeSessionClose])
      (o.run (emergencyStop anyCollaborators command) runtime) := by
  refine tryEnds_then (run_call (.hook .beforeReaderStop _ _) trivial) (exceptions _)
    fun _ _ => ?_
  refine tryEnds_then (run_call (.readerStop _ _) trivial) (exceptions _) fun _ _ => ?_
  exact tryEnds_last (run_call (.hook .beforeSessionClose _ _) trivial) (exceptions _) trivial

/-- The cleanup cancels a session exactly if the synchronisation created it. -/
theorem run_cleanup (exceptions : o.RaisesExceptions) {sessionSync : Option SessionSyncResult}
    (synchronized : sessionSync = (o (.synchronizeStartCommand command)).toOption)
    (runtime : LocalReaderRuntime) :
    ∃ runtime', o.run (if sessionSync.any (·.created) then
        attempt (anyCollaborators.cancelLocalSession command.sessionKey command.readerCode)
      else pure none) runtime = (.ok (o.cleanupFailure command), runtime') := by
  rw [Outcomes.cleanupFailure, synchronized]
  cases o (.synchronizeStartCommand command) with
  | error _ => exact ⟨runtime, rfl⟩
  | ok sync =>
      dsimp only
      by_cases created : sync.created = true
      · have ends : TryEnds (fun _ => True) (firstRaised [o.raisedByCancel command])
            (o.run (anyCollaborators.cancelLocalSession command.sessionKey
              command.readerCode) runtime) :=
          tryEnds_last (run_call (.cancelLocalSession _ _) trivial) (exceptions _) trivial
        rw [firstRaised_single] at ends
        have requested : (Except.ok sync : Except PyException _).toOption.any (·.created) = true :=
          created
        rw [if_pos created, if_pos requested]
        exact run_attempt ends
      · have unrequested :
            ¬ (Except.ok sync : Except PyException _).toOption.any (·.created) = true := created
        rw [if_neg created, if_neg unrequested]
        exact ⟨runtime, rfl⟩

theorem startFailed_settles (exceptions : o.RaisesExceptions)
    {sessionSync : Option SessionSyncResult} {exc : PyException}
    (synchronized : sessionSync = (o (.synchronizeStartCommand command)).toOption)
    (executes : Executes before command) :
    SettlesIf ((∃ active, o .readerIsActive = .ok active) ∧
        (strip exc.message ≠ "" ∨ (o.emergencyFailure command).isSome ∨
          (o.cleanupFailure command).isSome)) command before
      (o.run (startFailed anyCollaborators command sessionSync exc) runtime) := by
  have asked : o.run anyCollaborators.readerIsActive runtime = (o .readerIsActive, runtime) :=
    run_call .readerIsActive trivial
  rw [startFailed]
  cases isActive : o .readerIsActive with
  | error raised =>
      rw [isActive] at asked
      refine ⟨fun condition => ?_,
        fun _ => ⟨raised, run_then_error (congrArg Prod.fst asked)⟩⟩
      obtain ⟨⟨_, answered⟩, -⟩ := condition
      cases answered
  | ok active =>
      rw [isActive] at asked
      rw [run_then_ok asked]
      have stopped : ∃ runtime', o.run (if active then
          attempt (emergencyStop anyCollaborators command) else pure none) runtime =
          (.ok (o.emergencyFailure command), runtime') := by
        rw [Outcomes.emergencyFailure, isActive]
        cases active with
        | true => exact run_attempt (emergencyStop_ends exceptions)
        | false => exact ⟨runtime, rfl⟩
      obtain ⟨runtime₁, stopped⟩ := stopped
      rw [run_then_ok stopped]
      obtain ⟨runtime₂, cleaned⟩ := run_cleanup exceptions synchronized runtime₁
      rw [run_then_ok cleaned]
      refine (degrade_settles executes (reports_failure exceptions _)).congr ?_
      rw [startErrorMessage_ne_blank]
      simp

/-- A try block whose failure degrades the runtime and whose end completes the command. -/
theorem procedure_settles (exceptions : o.RaisesExceptions) {state : RuntimeState}
    (at_rest : state = .reading ∨ state = .idle) {body : Program OrchestratorOp
      OrchestratorOp.Answer Unit} {failure : Option PyException}
    (ends : TryEnds (RunsCommand command state) failure (o.run body runtime))
    {failed : PyException → Program OrchestratorOp OrchestratorOp.Answer CommandExecutionResult}
    {condition : PyException → Prop} {pending accepted : String}
    (executes : Executes before command)
    (degrades : ∀ exc runtime,
      SettlesIf (condition exc) command before (o.run (failed exc) runtime)) :
    SettlesIf (∀ exc ∈ failure, condition exc) command before
      (o.run (tryElse body failed fun _ =>
        completeCommand anyCollaborators command pending accepted) runtime) := by
  cases failure with
  | none =>
      obtain ⟨runtime', ran, completes⟩ := ends
      rw [run_tryElse_ok ran]
      exact ⟨fun _ =>
          completeCommand_settles exceptions at_rest completes executes pending accepted,
        fun fails => absurd nofun fails⟩
  | some exc =>
      rw [run_tryElse_error ends.1 ends.2]
      exact (degrades exc _).congr (by simp)

theorem executeStart_settles (exceptions : o.RaisesExceptions)
    (planned : RunsCommand command .starting runtime)
    (keyed : present runtime.sessionKey = true) (executes : Executes before command)
    {earlier : LocalReaderRuntime} :
    SettlesIf (o.FailureHasText command .start) command before
      (o.run (executeStart anyCollaborators command runtime) earlier) := by
  have written : o.run (anyCollaborators.writeRuntime runtime) earlier = (.ok (), runtime) := rfl
  have synchronized : o.run (anyCollaborators.synchronizeStartCommand command) runtime =
      (o (.synchronizeStartCommand command), runtime) :=
    run_call (.synchronizeStartCommand command) trivial
  rw [executeStart, run_then_ok written]
  cases outcome : o (.synchronizeStartCommand command) with
  | error exc =>
      rw [outcome] at synchronized
      rw [run_tryElse_error (congrArg Prod.fst synchronized) (exceptions _ exc outcome)]
      refine (startFailed_settles exceptions (by rw [outcome]; rfl) executes).congr ?_
      simp [Outcomes.FailureHasText, Outcomes.startFailure, outcome, raisedBy, firstRaised]
  | ok sessionSync =>
      rw [outcome] at synchronized
      rw [run_tryElse_ok synchronized]
      refine (procedure_settles exceptions (.inl rfl) (startReader_ends exceptions planned keyed)
        executes fun exc _ =>
          startFailed_settles exceptions (by rw [outcome]; rfl) executes).congr ?_
      simp only [Outcomes.FailureHasText, Outcomes.startFailure, outcome]
      rfl

theorem executeStop_settles (exceptions : o.RaisesExceptions)
    (planned : RunsCommand command .stopping runtime) (executes : Executes before command)
    {earlier : LocalReaderRuntime} :
    SettlesIf (o.FailureHasText command .stop) command before
      (o.run (executeStop anyCollaborators command runtime) earlier) := by
  have written : o.run (anyCollaborators.writeRuntime runtime) earlier = (.ok (), runtime) := rfl
  rw [executeStop, run_then_ok written]
  exact procedure_settles exceptions (.inr rfl) (stopReader_ends exceptions planned)
    executes fun exc _ => degrade_settles executes (reports_failure exceptions exc.message)

theorem executeAbort_settles (exceptions : o.RaisesExceptions)
    (planned : RunsCommand command .stopping runtime) (executes : Executes before command)
    {earlier : LocalReaderRuntime} :
    SettlesIf (o.FailureHasText command .abort) command before
      (o.run (executeAbort anyCollaborators command runtime) earlier) := by
  have written : o.run (anyCollaborators.writeRuntime runtime) earlier = (.ok (), runtime) := rfl
  rw [executeAbort, run_then_ok written]
  exact procedure_settles exceptions (.inr rfl) (abortReader_ends exceptions planned)
    executes fun exc _ =>
      degrade_settles executes fun _ => ⟨_, rfl, run_resultNow false exc.message⟩

/-- A rejected command and a duplicate leave the runtime as it was. -/
theorem resolved_unchanged (skipped : ¬ Executes runtime command) {success : Bool}
    {message : String} :
    ResolvedCommand command runtime
      (.ok { runtime, command, success, message }, runtime) :=
  ⟨⟨_, rfl, rfl⟩, fun executes => absurd executes skipped, fun _ => rfl⟩

theorem processCommand_settlesIf (exceptions : o.RaisesExceptions)
    (command : OdooRFIDCommand) (runtime : LocalReaderRuntime) :
    SettlesIf (Executes runtime command → o.FailureHasText command command.command) command
      runtime (o.run (processCommand anyCollaborators command) runtime) := by
  have read : o.run anyCollaborators.readRuntime runtime = (.ok runtime, runtime) := rfl
  rw [processCommand, run_then_ok read]
  cases plan : runtime.planCommand command with
  | error exc =>
      have skipped : ¬ Executes runtime command := by
        rintro ⟨transition, planned, -⟩
        rw [plan] at planned
        cases planned
      refine ⟨fun _ => ?_, fun fails => absurd (fun executes => absurd executes skipped) fails⟩
      dsimp only
      rw [rejectCommand, run_then_ok (run_sendFailureAck exceptions exc.message)]
      exact resolved_unchanged skipped
  | ok transition =>
      obtain ⟨mine, ⟨duplicate, -⟩ | ⟨new, planned⟩⟩ := LocalReaderRuntime.planCommand_eq_ok plan
      · have skipped : ¬ Executes runtime command := by
          rintro ⟨transition', planned, new⟩
          rw [plan] at planned
          cases planned
          rw [duplicate] at new
          cases new
        refine ⟨fun _ => ?_, fun fails => absurd (fun executes => absurd executes skipped) fails⟩
        dsimp only
        rw [if_pos duplicate, resendCompletedAck]
        obtain ⟨success, message, ran⟩ := run_reportedAck exceptions command runtime
          "Completed command ACK is still pending: "
          "Duplicate completed command ACK resent successfully."
        rw [ran]
        exact resolved_unchanged skipped
      · have executes : Executes runtime command := ⟨transition, plan, new⟩
        have after := LocalReaderRuntime.planNew_eq_ok planned
        dsimp only
        rw [if_neg (by rw [new]; decide), after]
        have same : o.FailureHasText command command.command ↔
            (Executes runtime command → o.FailureHasText command command.command) :=
          ⟨fun text _ => text, fun text => text executes⟩
        refine SettlesIf.congr ?_ same
        have keyed : present (runtime.plannedFor command).sessionKey = true := by
          simpa [LocalReaderRuntime.plannedFor, present] using command.sessionKey_clean.2
        have runs : ∀ state, (runtime.plannedFor command).state = state →
            RunsCommand command state (runtime.plannedFor command) :=
          fun _ state => ⟨state, mine, rfl⟩
        cases kind : command.command with
        | start =>
            exact executeStart_settles exceptions
              (runs .starting (by simp only [LocalReaderRuntime.plannedFor, kind])) keyed executes
        | stop =>
            exact executeStop_settles exceptions
              (runs .stopping (by simp only [LocalReaderRuntime.plannedFor, kind])) executes
        | abort =>
            exact executeAbort_settles exceptions
              (runs .stopping (by simp only [LocalReaderRuntime.plannedFor, kind])) executes

end

/-- The runtimes of a reader that process_command has always returned for. -/
inductive ReachedRuntime (readerCode : String) : LocalReaderRuntime → Prop
  | fresh : ReachedRuntime readerCode (offlineRuntime readerCode)
  | verified {o : Outcomes} {runtime runtime'} : ReachedRuntime readerCode runtime →
      o.run (markReaderVerifiedIdle anyCollaborators) runtime = (.ok (), runtime') →
      ReachedRuntime readerCode runtime'
  | processed {o : Outcomes} {command result runtime runtime'} :
      ReachedRuntime readerCode runtime → o.RaisesExceptions →
      o.run (processCommand anyCollaborators command) runtime = (.ok result, runtime') →
      ReachedRuntime readerCode runtime'

theorem verifiedIdle_idle {o : Outcomes} {runtime runtime' : LocalReaderRuntime}
    (ran : o.run (markReaderVerifiedIdle anyCollaborators) runtime = (.ok (), runtime')) :
    runtime'.state = .idle := by
  have read : o.run anyCollaborators.readRuntime runtime = (.ok runtime, runtime) := rfl
  rw [markReaderVerifiedIdle, run_then_ok read] at ran
  split at ran
  · cases ran
  · cases ran
    rfl

/-- No reached runtime is between two states. -/
theorem ReachedRuntime.between {readerCode : String} {runtime : LocalReaderRuntime}
    (reached : ReachedRuntime readerCode runtime) :
    runtime.state ≠ .starting ∧ runtime.state ≠ .stopping := by
  induction reached with
  | fresh => exact ⟨nofun, nofun⟩
  | verified _ ran _ =>
      rw [verifiedIdle_idle ran]
      exact ⟨nofun, nofun⟩
  | @processed o command result runtime runtime' _ exceptions ran ih =>
      have settles := processCommand_settlesIf exceptions command runtime
      rw [ran] at settles
      by_cases condition : Executes runtime command → o.FailureHasText command command.command
      · exact ((settles.1 condition).settled ih).notBetween
      · obtain ⟨exc, raised⟩ := settles.2 condition
        cases raised

/-- process_command settles a command exactly if its failure, should there be one, has a text
that the runtime can be degraded with. -/
theorem processCommand_settles_iff {readerCode : String} {runtime : LocalReaderRuntime}
    (reached : ReachedRuntime readerCode runtime) {o : Outcomes}
    (exceptions : o.RaisesExceptions) (command : OdooRFIDCommand) :
    SettledCommand command runtime (o.run (processCommand anyCollaborators command) runtime) ↔
      (Executes runtime command → o.FailureHasText command command.command) := by
  have settles := processCommand_settlesIf exceptions command runtime
  constructor
  · intro settled
    by_contra fails
    obtain ⟨exc, raised⟩ := settles.2 fails
    obtain ⟨result, returned, -⟩ := settled.returned
    rw [raised] at returned
    cases returned
  · exact fun condition => (settles.1 condition).settled reached.between

namespace OneReader

theorem clean_session : Clean "S-1" := by decide

theorem clean_reader : Clean "reader-1" := by decide

def start : OdooRFIDCommand where
  sessionKey := "S-1"
  readerCode := "reader-1"
  command := .start
  revision := 1
  sessionKey_clean := clean_session
  readerCode_clean := clean_reader
  revision_pos := firstRevision_pos

def stop : OdooRFIDCommand where
  sessionKey := "S-1"
  readerCode := "reader-1"
  command := .stop
  revision := 2
  sessionKey_clean := clean_session
  readerCode_clean := clean_reader
  revision_pos := secondRevision_pos

/-- Every collaborator does what it is asked to. -/
def obliging : Outcomes
  | .readRuntime => .ok (offlineRuntime "reader-1")
  | .commands => .ok []
  | .ack _ => .ok [("ok", .bool true)]
  | .synchronizeStartCommand command => .ok {
      session := {
        id := 1
        externalSessionKey := command.sessionKey
        deviceId := 1
        operationType := .receipt
        odooRecordId := 1 }
      created := true
      reused := false }
  | .readerIsActive => .ok true
  | .writeRuntime _ | .heartbeat _ | .closeLocalSession _ _ | .cancelLocalSession _ _
  | .readerStart _ _ | .readerStop _ _ | .readerVerifyIdle | .hook _ _ _ => .ok ()

/-- The reader raises on STOP, with the given text. -/
def failingStop (text : String) : Outcomes
  | .readerStop _ _ => .error ⟨.other "TimeoutError", text⟩
  | op => obliging op

def reading : LocalReaderRuntime where
  readerCode := "reader-1"
  state := .reading
  sessionKey := some "S-1"
  lastCommandRevision := 1
  completedCommandRevision := 1
  completedCommand := some .start
  completedSessionKey := some "S-1"

theorem obliging_raisesExceptions : obliging.RaisesExceptions := by
  intro op exc raises
  cases op <;> cases raises

theorem failingStop_raisesExceptions (text : String) : (failingStop text).RaisesExceptions := by
  intro op exc raises
  cases op with
  | readerStop _ _ =>
      cases raises
      rfl
  | _ => cases raises

theorem reached_reading : ReachedRuntime "reader-1" reading := by
  have verified : ReachedRuntime "reader-1" { readerCode := "reader-1" } :=
    .verified (o := obliging) .fresh (by rfl)
  have started : obliging.run (processCommand anyCollaborators start)
      { readerCode := "reader-1" } = (.ok {
        runtime := reading
        command := start
        success := true
        message := "Reader started and Odoo ACK accepted." }, reading) := by rfl
  exact .processed verified obliging_raisesExceptions started

end OneReader

open OneReader in
theorem processCommand_settles_iff_failed_stop :
    SettledCommand stop reading
      ((failingStop "no answer").run (processCommand anyCollaborators stop) reading) := by
  apply (processCommand_settles_iff reached_reading (failingStop_raisesExceptions _) stop).mpr
  intro _ exc failed
  cases failed
  decide

open OneReader in
/-- A STOP that fails without a text: process_command raises with the reader STOPPING. -/
theorem stop_without_text_unsettled :
    ReachedRuntime "reader-1" reading ∧ stop.readerCode = "reader-1" ∧
      (failingStop "").RaisesExceptions ∧
      (failingStop "").run (processCommand anyCollaborators stop) reading =
        (.error ⟨.runtimeStateError, "Degraded runtime requires an error message."⟩,
          reading.plannedFor stop) ∧
      (reading.plannedFor stop).state = .stopping :=
  ⟨reached_reading, rfl, failingStop_raisesExceptions "", by rfl, rfl⟩

end RfidBridge
