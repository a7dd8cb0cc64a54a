import RfidBridge.Runtime.ExecutedCommands
import RfidBridge.Runtime.SettledCommands

/-!
The acknowledgements that one command leads to. START and STOP report a failure to Odoo as
soon as they could degrade the runtime with its text; ABORT has no acknowledgement for a
failure.
-/

namespace RfidBridge
open FinalRuntimeOrchestrator

/-- The acknowledgements among some calls. -/
def attemptedAcks (calls : List OrchestratorOp) : List AckRequest :=
  calls.filterMap fun
    | .ack request => some request
    | _ => none

namespace Outcomes

/-- What ends the execution of a command, if anything does. -/
def executionFailure (o : Outcomes) (command : OdooRFIDCommand) : Option PyException :=
  match command.command with
  | .start => o.startFailure command
  | .stop => o.stopFailure command
  | .abort => o.abortFailure command

/-- The acknowledgements that process_command attempts, newest first. -/
def acksOf (o : Outcomes) (runtime : LocalReaderRuntime) (command : OdooRFIDCommand) :
    List AckRequest :=
  attemptedAcks
    ((processCommand anyCollaborators command).eval (answeredBy o) ⟨runtime, []⟩).2.history

end Outcomes

/-- The acknowledgements owed for a command that is executed. -/
structure OwedAcks (o : Outcomes) (command : OdooRFIDCommand) (acks : List AckRequest) : Prop where
  failed : (o.executionFailure command).isSome →
    ∃ message, acks = [ackRequest command false message]
  completed : o.executionFailure command = none → ∀ request ∈ acks, request.success = true

section
variable {o : Outcomes} {command : OdooRFIDCommand} {runtime runtime' : LocalReaderRuntime}
  {α β : Type}

/-- The run of a program from this runtime attempts these acknowledgements. -/
def Attempts (o : Outcomes) (p : Program OrchestratorOp OrchestratorOp.Answer α)
    (runtime : LocalReaderRuntime) (acks : List AckRequest) : Prop :=
  ∀ s : OrchestratorState, s.runtime = runtime →
    attemptedAcks (p.eval (answeredBy o) s).2.history = acks ++ attemptedAcks s.history

/-- The recorded calls do not change the run. -/
theorem run_eq_recorded (p : Program OrchestratorOp OrchestratorOp.Answer α)
    (s : OrchestratorState) :
    o.run p s.runtime =
      ((p.eval (answeredBy o) s).1, (p.eval (answeredBy o) s).2.runtime) := by
  apply Prog.eval_map OrchestratorState.runtime (I := fun _ => True) (fun _ _ _ => trivial) _
    trivial
  intro op s _
  cases op <;> rfl

theorem attempts_then_ok {p : Program OrchestratorOp OrchestratorOp.Answer α}
    {f : α → Program OrchestratorOp OrchestratorOp.Answer β} {value : α}
    {acks acks' : List AckRequest} (first : Attempts o p runtime acks)
    (ran : o.run p runtime = (.ok value, runtime')) (rest : Attempts o (f value) runtime' acks') :
    Attempts o (p >>= f) runtime (acks' ++ acks) := by
  rintro s rfl
  have before := first s rfl
  have same := run_eq_recorded (o := o) p s
  rw [ran] at same
  change attemptedAcks ((p.bind f).eval (answeredBy o) s).2.history = _
  rw [Prog.eval_bind]
  cases recorded : p.eval (answeredBy o) s with
  | mk outcome s' =>
      rw [recorded] at before same
      cases same
      rw [rest s' rfl, before, List.append_assoc]

theorem attempts_then_error {p : Program OrchestratorOp OrchestratorOp.Answer α}
    {f : α → Program OrchestratorOp OrchestratorOp.Answer β} {exc : PyException}
    {acks : List AckRequest} (first : Attempts o p runtime acks)
    (raises : (o.run p runtime).1 = .error exc) : Attempts o (p >>= f) runtime acks := by
  rintro s rfl
  have before := first s rfl
  rw [run_eq_recorded] at raises
  change attemptedAcks ((p.bind f).eval (answeredBy o) s).2.history = _
  rw [Prog.eval_bind]
  cases recorded : p.eval (answeredBy o) s with
  | mk outcome s' =>
      rw [recorded] at before raises
      cases raises
      exact before

/-- A program attempts the acknowledgements that it calls. -/
theorem attempts_of_calls {allowed : OrchestratorOp → Prop}
    {p : Program OrchestratorOp OrchestratorOp.Answer α} (calls : p.Calls allowed)
    (runtime : LocalReaderRuntime) :
    ∃ acks, Attempts o p runtime acks ∧ ∀ request ∈ acks, allowed (.ack request) := by
  induction p generalizing runtime with
  | ret _ | raise _ => exact ⟨[], fun _ _ => rfl, nofun⟩
  | call op next ih =>
      obtain ⟨mine, rest⟩ := Prog.calls_call.mp calls
      obtain ⟨acks, attempted, all⟩ := ih (o.respond op runtime).1 (rest _) (o.respond op runtime).2
      have answered : ∀ s : OrchestratorState,
          (answeredBy o op s).1 = (o.respond op s.runtime).1 ∧
          (answeredBy o op s).2.runtime = (o.respond op s.runtime).2 ∧
          attemptedAcks (answeredBy o op s).2.history =
            attemptedAcks [op] ++ attemptedAcks s.history := by
        intro s
        cases op <;> exact ⟨rfl, rfl, rfl⟩
      refine ⟨acks ++ attemptedAcks [op], ?_, ?_⟩
      · rintro s rfl
        obtain ⟨answer, after, history⟩ := answered s
        simp only [Prog.eval, answer]
        rw [attempted _ after, history, List.append_assoc]
      · intro request member
        rcases List.mem_append.mp member with later | now
        · exact all request later
        · cases op with
          | ack sent =>
              cases List.mem_singleton.mp now
              exact mine
          | _ => cases now

/-- The program acknowledges nothing. -/
abbrev Quiet (p : Program OrchestratorOp OrchestratorOp.Answer α) : Prop :=
  p.Calls fun op => attemptedAcks [op] = []

theorem Quiet.attempts {p : Program OrchestratorOp OrchestratorOp.Answer α} (quiet : Quiet p)
    (runtime : LocalReaderRuntime) : Attempts o p runtime [] := by
  obtain ⟨acks, attempted, none⟩ := attempts_of_calls quiet runtime
  have empty : acks = [] := List.eq_nil_iff_forall_not_mem.mpr fun request member =>
    List.cons_ne_nil _ _ (none request member)
  exact empty ▸ attempted

theorem attempts_tryElse_ok {body : Program OrchestratorOp OrchestratorOp.Answer α}
    {failed : PyException → Program OrchestratorOp OrchestratorOp.Answer β}
    {passed : α → Program OrchestratorOp OrchestratorOp.Answer β} {value : α}
    {acks : List AckRequest} (quiet : Quiet body) (ran : o.run body runtime = (.ok value, runtime'))
    (rest : Attempts o (passed value) runtime' acks) :
    Attempts o (tryElse body failed passed) runtime acks := by
  rintro s rfl
  have before := quiet.attempts (o := o) s.runtime s rfl
  have same := run_eq_recorded (o := o) body s
  rw [ran] at same
  rw [eval_tryElse]
  cases recorded : body.eval (answeredBy o) s with
  | mk outcome s' =>
      rw [recorded] at before same
      cases same
      rw [rest s' rfl, before, List.nil_append]

theorem attempts_tryElse_error {body : Program OrchestratorOp OrchestratorOp.Answer α}
    {failed : PyException → Program OrchestratorOp OrchestratorOp.Answer β}
    {passed : α → Program OrchestratorOp OrchestratorOp.Answer β} {exc : PyException}
    {acks : List AckRequest} (quiet : Quiet body) (raises : (o.run body runtime).1 = .error exc)
    (caught : exc.isException = true) (rest : ∀ runtime', Attempts o (failed exc) runtime' acks) :
    Attempts o (tryElse body failed passed) runtime acks := by
  rintro s rfl
  have before := quiet.attempts (o := o) s.runtime s rfl
  rw [run_eq_recorded] at raises
  rw [eval_tryElse]
  cases recorded : body.eval (answeredBy o) s with
  | mk outcome s' =>
      rw [recorded] at before raises
      cases raises
      dsimp only
      rw [if_pos caught, rest s'.runtime s' rfl, before, List.nil_append]

theorem attempts_quiet_then {p : Program OrchestratorOp OrchestratorOp.Answer α}
    {f : α → Program OrchestratorOp OrchestratorOp.Answer β} {value : α} {acks : List AckRequest}
    (quiet : Quiet p) (ran : o.run p runtime = (.ok value, runtime'))
    (rest : Attempts o (f value) runtime' acks) : Attempts o (p >>= f) runtime acks := by
  rw [← List.append_nil acks]
  exact attempts_then_ok (quiet.attempts runtime) ran rest

theorem quiet_perform {op : OrchestratorOp} (other : attemptedAcks [op] = []) :
    Quiet (Prog.perform op) :=
  Prog.calls_perform other

theorem quiet_updateRuntime (step : LocalReaderRuntime → Except PyException LocalReaderRuntime) :
    Quiet (updateRuntime anyCollaborators step) := by
  apply Prog.calls_bind (quiet_perform (by rfl))
  intro runtime
  exact Prog.calls_bind (Prog.calls_ofExcept _ _) fun _ => quiet_perform (by rfl)

theorem quiet_resultNow (success : Bool) (message : String) :
    Quiet (resultNow anyCollaborators command success message) :=
  Prog.calls_bind (quiet_perform (by rfl)) fun _ => Prog.calls_pure _ _

theorem quiet_attempt {p : Program OrchestratorOp OrchestratorOp.Answer α} (h : Quiet p) :
    Quiet (attempt p) :=
  calls_tryElse h (fun _ => Prog.calls_pure _ _) fun _ => Prog.calls_pure _ _

theorem quiet_startReader : Quiet (startReader anyCollaborators command) := by
  apply Prog.calls_bind (quiet_perform (by rfl))
  intro _
  exact Prog.calls_bind (quiet_updateRuntime _) fun _ => quiet_perform (by rfl)

theorem quiet_emergencyStop : Quiet (emergencyStop anyCollaborators command) := by
  apply Prog.calls_bind (quiet_perform (by rfl))
  intro _
  exact Prog.calls_bind (quiet_perform (by rfl)) fun _ => quiet_perform (by rfl)

theorem quiet_stopReader : Quiet (stopReader anyCollaborators command) := by
  apply Prog.calls_bind (quiet_perform (by rfl))
  intro _
  apply Prog.calls_bind (quiet_perform (by rfl))
  intro _
  apply Prog.calls_bind (quiet_updateRuntime _)
  intro _
  exact Prog.calls_bind (quiet_perform (by rfl)) fun _ => quiet_perform (by rfl)

theorem quiet_abortReader : Quiet (abortReader anyCollaborators command) := by
  apply Prog.calls_bind (quiet_perform (by rfl))
  intro _
  apply Prog.calls_bind (quiet_perform (by rfl))
  intro active
  apply Prog.calls_bind
  · cases active with
    | true => exact quiet_perform (by rfl)
    | false => exact quiet_perform (by rfl)
  intro _
  apply Prog.calls_bind (quiet_updateRuntime _)
  intro _
  apply Prog.calls_bind (quiet_perform (by rfl))
  intro _
  apply Prog.calls_tryExcept (quiet_perform (by rfl))
  intro exc
  split
  · exact Prog.calls_pure _ _
  · exact Prog.calls_raise _ _

/-- A failure is reported once, whatever Odoo answers. -/
theorem attempts_sendFailureAck (message : String) (runtime : LocalReaderRuntime) :
    Attempts o (sendFailureAck anyCollaborators command message) runtime
      [ackRequest command false message] := by
  rintro s rfl
  have asked : (anyCollaborators.ack (ackRequest command false message)).eval (answeredBy o) s =
      answeredBy o (.ack (ackRequest command false message)) s := Prog.eval_perform _ _ s
  rw [sendFailureAck, ignoring, eval_tryElse, asked]
  simp only [answeredBy]
  cases o (.ack (ackRequest command false message)) with
  | ok _ => rfl
  | error exc =>
      dsimp only
      split <;> rfl

theorem attempts_failure (exceptions : o.RaisesExceptions) (message : String)
    (runtime : LocalReaderRuntime) :
    Attempts o (sendFailureAck anyCollaborators command message >>= fun _ =>
      resultNow anyCollaborators command false message) runtime
      [ackRequest command false message] := by
  rw [← List.nil_append [ackRequest command false message]]
  exact attempts_then_ok (attempts_sendFailureAck message runtime)
    (run_sendFailureAck exceptions message) ((quiet_resultNow false message).attempts runtime)

/-- A failure is reported behind the degradation, which a blank text refuses. -/
theorem attempts_degrade {rest : Program OrchestratorOp OrchestratorOp.Answer
      CommandExecutionResult} {message : String} {acks : List AckRequest}
    (reports : ∀ runtime, Attempts o rest runtime acks) (runtime : LocalReaderRuntime) :
    Attempts o (updateRuntime anyCollaborators (fun runtime => runtime.markDegraded message) >>=
      fun _ => rest) runtime (if strip message = "" then [] else acks) := by
  split
  · rename_i blank
    have raises : runtime.markDegraded message =
        raised .runtimeStateError "Degraded runtime requires an error message." := by
      rw [LocalReaderRuntime.markDegraded, if_pos blank]
    exact attempts_then_error ((quiet_updateRuntime _).attempts runtime)
      (congrArg Prod.fst (run_update_error raises))
  · rename_i text
    have degraded : runtime.markDegraded message = .ok {
        readerCode := runtime.readerCode
        state := .degraded
        sessionKey := runtime.sessionKey
        lastCommandRevision := runtime.lastCommandRevision
        error := some (strip message) } := by
      rw [LocalReaderRuntime.markDegraded, if_neg text]
    exact attempts_quiet_then (quiet_updateRuntime _) (run_update_ok degraded) (reports _)

theorem attempts_reportedFailure (exceptions : o.RaisesExceptions) (message : String)
    (runtime : LocalReaderRuntime) :
    Attempts o (updateRuntime anyCollaborators (fun runtime => runtime.markDegraded message) >>=
        fun _ => sendFailureAck anyCollaborators command message >>= fun _ =>
          resultNow anyCollaborators command false message) runtime
      (if strip message = "" then [] else [ackRequest command false message]) :=
  attempts_degrade (attempts_failure exceptions message) runtime

/-- What a failed START reports. -/
def Outcomes.startReport (o : Outcomes) (command : OdooRFIDCommand) (exc : PyException) :
    List AckRequest :=
  match o .readerIsActive with
  | .error _ => []
  | .ok _ =>
      let message := startErrorMessage exc (o.emergencyFailure command) (o.cleanupFailure command)
      if strip message = "" then [] else [ackRequest command false message]

theorem attempts_startFailed (exceptions : o.RaisesExceptions)
    {sessionSync : Option SessionSyncResult} {exc : PyException}
    (synchronized : sessionSync = (o (.synchronizeStartCommand command)).toOption)
    (runtime : LocalReaderRuntime) :
    Attempts o (startFailed anyCollaborators command sessionSync exc) runtime
      (o.startReport command exc) := by
  have asked : o.run anyCollaborators.readerIsActive runtime = (o .readerIsActive, runtime) :=
    run_call .readerIsActive trivial
  have asks : Quiet anyCollaborators.readerIsActive := quiet_perform (by rfl)
  rw [startFailed, Outcomes.startReport]
  cases isActive : o .readerIsActive with
  | error raised =>
      rw [isActive] at asked
      exact attempts_then_error (asks.attempts runtime) (congrArg Prod.fst asked)
  | ok active =>
      rw [isActive] at asked
      have stopped : ∃ runtime', o.run (if active then
          attempt (emergencyStop anyCollaborators command) else pure none) runtime =
          (.ok (o.emergencyFailure command), runtime') := by
        rw [Outcomes.emergencyFailure, isActive]
        cases active with
        | true => exact run_attempt (emergencyStop_ends exceptions)
        | false => exact ⟨runtime, rfl⟩
      have stops : Quiet (if active then attempt (emergencyStop anyCollaborators command)
          else pure none) := by
        split
        · exact quiet_attempt quiet_emergencyStop
        · exact Prog.calls_pure _ _
      have cleans : Quiet (if sessionSync.any (·.created) then
          attempt (anyCollaborators.cancelLocalSession command.sessionKey command.readerCode)
          else pure none) := by
        split
        · exact quiet_attempt (quiet_perform (by rfl))
        · exact Prog.calls_pure _ _
      obtain ⟨runtime₁, stopped⟩ := stopped
      obtain ⟨runtime₂, cleaned⟩ := run_cleanup exceptions synchronized runtime₁
      refine attempts_quiet_then asks asked ?_
      refine attempts_quiet_then stops stopped ?_
      refine attempts_quiet_then cleans cleaned ?_
      exact attempts_reportedFailure exceptions _ runtime₂

/-- A completed command is acknowledged with success, if at all. -/
theorem calls_completeCommand (pending accepted : String) :
    (completeCommand anyCollaborators command pending accepted).Calls
      fun op => ∀ request ∈ attemptedAcks [op], request.success = true := by
  have silent : ∀ {γ : Type} {p : Program OrchestratorOp OrchestratorOp.Answer γ}, Quiet p →
      p.Calls fun op => ∀ request ∈ attemptedAcks [op], request.success = true := by
    intro γ p quiet
    apply quiet.mono
    intro op none request member
    rw [none] at member
    cases member
  apply Prog.calls_bind (silent (quiet_updateRuntime _))
  intro _
  refine calls_tryElse ?_ (fun _ => silent (quiet_resultNow _ _)) fun _ =>
    silent (quiet_resultNow _ _)
  apply Prog.calls_bind
  · unfold when_
    split
    · exact silent (quiet_perform (by rfl))
    · exact Prog.calls_pure _ _
  intro _
  apply Prog.calls_bind
  · apply Prog.calls_perform
    intro request member
    cases List.mem_singleton.mp member
    rfl
  · intro result
    unfold when_
    split
    · exact Prog.calls_raise _ _
    · exact Prog.calls_pure _ _

/-- A try block whose failure is reported and whose end completes the command. -/
theorem attempts_procedure {P : LocalReaderRuntime → Prop} {failure : Option PyException}
    {body : Program OrchestratorOp OrchestratorOp.Answer Unit}
    (failed : PyException → Program OrchestratorOp OrchestratorOp.Answer CommandExecutionResult)
    (pending accepted : String) {report : PyException → List AckRequest} (quiet : Quiet body)
    (ends : TryEnds P failure (o.run body runtime))
    (reports : ∀ exc runtime, Attempts o (failed exc) runtime (report exc)) :
    ∃ acks, Attempts o (tryElse body failed fun _ =>
        completeCommand anyCollaborators command pending accepted) runtime acks ∧
      (∀ exc ∈ failure, acks = report exc) ∧
      (failure = none → ∀ request ∈ acks, request.success = true) := by
  cases failure with
  | none =>
      obtain ⟨runtime', ran, -⟩ := ends
      obtain ⟨acks, attempted, success⟩ :=
        attempts_of_calls (o := o) (@calls_completeCommand command pending accepted) runtime'
      refine ⟨acks, attempts_tryElse_ok quiet ran attempted, nofun, ?_⟩
      intro _ request member
      exact success request member request (List.mem_singleton.mpr rfl)
  | some exc =>
      refine ⟨report exc, attempts_tryElse_error quiet ends.1 ends.2 (reports exc), ?_, nofun⟩
      rintro _ ⟨⟩
      rfl

/-- What process_command reports of a failed execution. -/
def Outcomes.failureReport (o : Outcomes) (command : OdooRFIDCommand) (exc : PyException) :
    List AckRequest :=
  match command.command with
  | .start => o.startReport command exc
  | .stop => if strip exc.message = "" then [] else [ackRequest command false exc.message]
  | .abort => []

theorem attempts_executeStart (exceptions : o.RaisesExceptions)
    (planned : RunsCommand command .starting runtime)
    (keyed : present runtime.sessionKey = true) {earlier : LocalReaderRuntime} :
    ∃ acks, Attempts o (executeStart anyCollaborators command runtime) earlier acks ∧
      (∀ exc ∈ o.startFailure command, acks = o.startReport command exc) ∧
      (o.startFailure command = none → ∀ request ∈ acks, request.success = true) := by
  have written : o.run (anyCollaborators.writeRuntime runtime) earlier = (.ok (), runtime) := rfl
  have writes : Quiet (anyCollaborators.writeRuntime runtime) := quiet_perform (by rfl)
  have synchronizes : Quiet (anyCollaborators.synchronizeStartCommand command) :=
    quiet_perform (by rfl)
  have synchronized : o.run (anyCollaborators.synchronizeStartCommand command) runtime =
      (o (.synchronizeStartCommand command), runtime) :=
    run_call (.synchronizeStartCommand command) trivial
  rw [executeStart]
  cases outcome : o (.synchronizeStartCommand command) with
  | error exc =>
      rw [outcome] at synchronized
      have failed : o.startFailure command = some exc := by
        simp [Outcomes.startFailure, outcome, raisedBy, firstRaised]
      refine ⟨o.startReport command exc, attempts_quiet_then writes written
        (attempts_tryElse_error synchronizes (congrArg Prod.fst synchronized)
          (exceptions _ exc outcome) (attempts_startFailed exceptions (by rw [outcome]; rfl))), ?_⟩
      rw [failed]
      exact ⟨fun _ eq => by cases eq; rfl, by simp⟩
  | ok sessionSync =>
      rw [outcome] at synchronized
      have failure : o.startFailure command =
          firstRaised [raisedBy (o (.readerStart command.sessionKey command.readerCode)),
            o.raisedByHook command .afterReaderStart] := by
        rw [Outcomes.startFailure, outcome]
        rfl
      obtain ⟨acks, attempted, ends⟩ := attempts_procedure
        (startFailed anyCollaborators command (some sessionSync))
        "Reader started successfully but Odoo ACK is pending: "
        "Reader started and Odoo ACK accepted." quiet_startReader
        (startReader_ends exceptions planned keyed) fun exc runtime =>
          attempts_startFailed exceptions (by rw [outcome]; rfl) runtime
      rw [failure]
      exact ⟨acks, attempts_quiet_then writes written
        (attempts_tryElse_ok synchronizes synchronized attempted), ends⟩

theorem attempts_executeStop (exceptions : o.RaisesExceptions)
    (planned : RunsCommand command .stopping runtime) {earlier : LocalReaderRuntime} :
    ∃ acks, Attempts o (executeStop anyCollaborators command runtime) earlier acks ∧
      (∀ exc ∈ o.stopFailure command,
        acks = if strip exc.message = "" then [] else [ackRequest command false exc.message]) ∧
      (o.stopFailure command = none → ∀ request ∈ acks, request.success = true) := by
  have written : o.run (anyCollaborators.writeRuntime runtime) earlier = (.ok (), runtime) := rfl
  obtain ⟨acks, attempted, ends⟩ := attempts_procedure
    (fun exc => updateRuntime anyCollaborators (fun runtime => runtime.markDegraded exc.message) >>=
      fun _ => sendFailureAck anyCollaborators command exc.message >>= fun _ =>
        resultNow anyCollaborators command false exc.message)
    "Reader stopped successfully but Odoo ACK is pending: " "Reader stopped and Odoo ACK accepted."
    quiet_stopReader (stopReader_ends exceptions planned) fun exc runtime =>
      attempts_reportedFailure exceptions exc.message runtime
  exact ⟨acks, attempts_quiet_then (quiet_perform (by rfl)) written attempted, ends⟩

theorem attempts_executeAbort (exceptions : o.RaisesExceptions)
    (planned : RunsCommand command .stopping runtime) {earlier : LocalReaderRuntime} :
    ∃ acks, Attempts o (executeAbort anyCollaborators command runtime) earlier acks ∧
      (∀ exc ∈ o.abortFailure command, acks = []) ∧
      (o.abortFailure command = none → ∀ request ∈ acks, request.success = true) := by
  have written : o.run (anyCollaborators.writeRuntime runtime) earlier = (.ok (), runtime) := rfl
  obtain ⟨acks, attempted, ends⟩ := attempts_procedure
    (fun exc => updateRuntime anyCollaborators (fun runtime => runtime.markDegraded exc.message) >>=
      fun _ => resultNow anyCollaborators command false exc.message)
    "Reader abort completed but Odoo ACK is pending: " "Abort completed safely."
    quiet_abortReader (abortReader_ends exceptions planned) fun exc runtime =>
      Quiet.attempts (Prog.calls_bind (quiet_updateRuntime _) fun _ => quiet_resultNow _ _) runtime
  exact ⟨acks, attempts_quiet_then (quiet_perform (by rfl)) written attempted, ends⟩

/-- The acknowledgements of an executed command, from the way its execution ends. -/
theorem acksOf_executed (exceptions : o.RaisesExceptions) (executes : Executes runtime command) :
    (∀ exc ∈ o.executionFailure command,
      o.acksOf runtime command = o.failureReport command exc) ∧
    (o.executionFailure command = none →
      ∀ request ∈ o.acksOf runtime command, request.success = true) := by
  obtain ⟨transition, plan, new⟩ := executes
  obtain ⟨mine, ⟨duplicate, -⟩ | ⟨-, planned⟩⟩ := LocalReaderRuntime.planCommand_eq_ok plan
  · rw [duplicate] at new
    cases new
  have after := LocalReaderRuntime.planNew_eq_ok planned
  have keyed : present (runtime.plannedFor command).sessionKey = true := by
    simpa [LocalReaderRuntime.plannedFor, present] using command.sessionKey_clean.2
  have runs : ∀ state, (runtime.plannedFor command).state = state →
      RunsCommand command state (runtime.plannedFor command) :=
    fun _ state => ⟨state, mine, rfl⟩
  have read : o.run anyCollaborators.readRuntime runtime = (.ok runtime, runtime) := rfl
  have whole : ∀ acks, Attempts o (match command.command with
      | .start => executeStart anyCollaborators command (runtime.plannedFor command)
      | .stop => executeStop anyCollaborators command (runtime.plannedFor command)
      | .abort => executeAbort anyCollaborators command (runtime.plannedFor command)) runtime acks →
      o.acksOf runtime command = acks := by
    intro acks attempted
    have all : Attempts o (processCommand anyCollaborators command) runtime acks := by
      refine attempts_quiet_then (quiet_perform (by rfl)) read ?_
      rw [plan]
      dsimp only
      rw [if_neg (by rw [new]; decide), after]
      exact attempted
    exact (all ⟨runtime, []⟩ rfl).trans (List.append_nil acks)
  unfold Outcomes.executionFailure Outcomes.failureReport
  cases kind : command.command with
  | start =>
      obtain ⟨acks, attempted, ends⟩ := attempts_executeStart exceptions
        (runs .starting (by simp only [LocalReaderRuntime.plannedFor, kind])) keyed
      rw [whole acks (by rw [kind]; exact attempted)]
      exact ends
  | stop =>
      obtain ⟨acks, attempted, ends⟩ := attempts_executeStop exceptions
        (runs .stopping (by simp only [LocalReaderRuntime.plannedFor, kind]))
      rw [whole acks (by rw [kind]; exact attempted)]
      exact ends
  | abort =>
      obtain ⟨acks, attempted, ends⟩ := attempts_executeAbort exceptions
        (runs .stopping (by simp only [LocalReaderRuntime.plannedFor, kind]))
      rw [whole acks (by rw [kind]; exact attempted)]
      exact ends

/-- A failed execution is reported exactly for START and STOP with a text to degrade with. -/
theorem failureReport_eq_single {exc : PyException}
    (failed : o.executionFailure command = some exc) :
    (∃ message, o.failureReport command exc = [ackRequest command false message]) ↔
      command.command ≠ .abort ∧ o.FailureHasText command command.command := by
  have single : ∀ message : String,
      (∃ message', (if strip message = "" then [] else [ackRequest command false message]) =
        [ackRequest command false message']) ↔ strip message ≠ "" := by
    intro message
    by_cases blank : strip message = ""
    · simp [blank]
    · simp [blank]
  unfold Outcomes.executionFailure at failed
  unfold Outcomes.failureReport
  cases kind : command.command with
  | abort => simp
  | stop =>
      rw [kind] at failed
      simp [Outcomes.FailureHasText, failed, single]
  | start =>
      rw [kind] at failed
      simp only [Outcomes.FailureHasText, failed, Outcomes.startReport]
      cases o .readerIsActive with
      | error _ => simp
      | ok active =>
          dsimp only
          rw [single, startErrorMessage_ne_blank]
          simp

/-- An executed command is answered exactly if its execution completes, or is a START or STOP
that fails with a text to degrade the runtime with. -/
theorem processCommand_answers_iff (exceptions : o.RaisesExceptions)
    (executes : Executes runtime command) :
    OwedAcks o command (o.acksOf runtime command) ↔
      o.executionFailure command = none ∨
        command.command ≠ .abort ∧ o.FailureHasText command command.command := by
  obtain ⟨reported, success⟩ := acksOf_executed exceptions executes
  cases failure : o.executionFailure command with
  | none =>
      refine ⟨fun _ => .inl rfl, fun _ => ⟨?_, fun _ => success failure⟩⟩
      rw [failure]
      nofun
  | some exc =>
      have acks := reported exc failure
      constructor
      · intro answered
        have sent := answered.failed (by rw [failure]; rfl)
        rw [acks] at sent
        exact .inr ((failureReport_eq_single failure).mp sent)
      · rintro (completes | reportable)
        · cases completes
        · refine ⟨fun _ => acks ▸ (failureReport_eq_single failure).mpr reportable, ?_⟩
          rw [failure]
          nofun

end

namespace OneReader

def abort : OdooRFIDCommand where
  sessionKey := "S-1"
  readerCode := "reader-1"
  command := .abort
  revision := 2
  sessionKey_clean := clean_session
  readerCode_clean := clean_reader
  revision_pos := secondRevision_pos

end OneReader

open OneReader in
/-- The reader does not answer a STOP, which is reported. -/
theorem processCommand_answers_iff_failed_stop :
    OwedAcks (failingStop "no answer") stop ((failingStop "no answer").acksOf reading stop) := by
  have executes : Executes reading stop := ⟨_, rfl, rfl⟩
  apply (processCommand_answers_iff (failingStop_raisesExceptions _) executes).mpr
  refine .inr ⟨nofun, ?_⟩
  rintro exc ⟨⟩
  decide

open OneReader in
/-- The reader does not answer the STOP of an ABORT: the command fails and nothing is
acknowledged. -/
theorem failed_abort_unanswered :
    ReachedRuntime "reader-1" reading ∧ Executes reading abort ∧
    (failingStop "no answer").RaisesExceptions ∧
    (failingStop "no answer").executionFailure abort =
      some ⟨.other "TimeoutError", "no answer"⟩ ∧
    (∃ result runtime,
      (failingStop "no answer").run (processCommand anyCollaborators abort) reading =
        (.ok result, runtime) ∧ result.success = false) ∧
    (failingStop "no answer").acksOf reading abort = [] ∧
    ¬ OwedAcks (failingStop "no answer") abort
      ((failingStop "no answer").acksOf reading abort) := by
  have silent : (failingStop "no answer").acksOf reading abort = [] := rfl
  refine ⟨reached_reading, ⟨_, rfl, rfl⟩, failingStop_raisesExceptions _, rfl, ⟨_, _, rfl, rfl⟩,
    silent, fun answered => ?_⟩
  obtain ⟨message, sent⟩ := answered.failed rfl
  rw [silent] at sent
  cases sent

end RfidBridge
