import RfidBridge.Runtime.Command

/-!
final_runtime_state.py: the in-memory runtime of one reader, its command checks
and its transitions. Every transition builds a fresh record, so a field that it
does not set falls back to its default.
-/

namespace RfidBridge

inductive RuntimeState
  | idle
  | starting
  | reading
  | stopping
  | degraded
  | offline
  deriving DecidableEq, Repr

def RuntimeState.value : RuntimeState → String
  | .idle => "idle"
  | .starting => "starting"
  | .reading => "reading"
  | .stopping => "stopping"
  | .degraded => "degraded"
  | .offline => "offline"

structure LocalReaderRuntime where
  readerCode : String
  state : RuntimeState := .idle
  sessionKey : Option String := none
  lastCommandRevision : Int := 0
  error : Option String := none
  completedCommandRevision : Int := 0
  completedCommand : Option RuntimeCommand := none
  completedSessionKey : Option String := none
  deriving DecidableEq, Repr

inductive Disposition
  | new
  | duplicate
  deriving DecidableEq, Repr

structure RuntimeTransition where
  before : LocalReaderRuntime
  after : LocalReaderRuntime
  command : OdooRFIDCommand
  duplicate : Bool := false
  deriving DecidableEq

/-- `if key:` on an optional text. -/
def present : Option String → Bool
  | some key => key != ""
  | none => false

namespace LocalReaderRuntime

/-- `self.session_key or self.completed_session_key`. -/
def revisionSessionKey (runtime : LocalReaderRuntime) : Option String :=
  if present runtime.sessionKey then runtime.sessionKey else runtime.completedSessionKey

def sameRevisionSession (runtime : LocalReaderRuntime) (command : OdooRFIDCommand) : Bool :=
  runtime.revisionSessionKey == some command.sessionKey

/-- The command is exactly the one recorded as completed. -/
def isCompleted (runtime : LocalReaderRuntime) (command : OdooRFIDCommand) : Bool :=
  command.revision == runtime.completedCommandRevision &&
  some command.command == runtime.completedCommand &&
  some command.sessionKey == runtime.completedSessionKey

def validateCommand (runtime : LocalReaderRuntime) (command : OdooRFIDCommand) :
    Except PyException Disposition :=
  if command.readerCode ≠ runtime.readerCode then
    raised .runtimeStateError "Command reader identity does not match this runtime."
  else if runtime.sameRevisionSession command ∧
      command.revision < runtime.lastCommandRevision then
    raised .runtimeStateError "Command revision is older than the last processed revision."
  else if runtime.sameRevisionSession command ∧
      command.revision = runtime.lastCommandRevision ∧ runtime.lastCommandRevision ≠ 0 then
    if runtime.isCompleted command then .ok .duplicate
    else raised .runtimeStateError
      "Command revision matches the last processed revision but is not the exact completed command."
  else
    .ok .new

def planStart (runtime : LocalReaderRuntime) (command : OdooRFIDCommand) :
    Except PyException RuntimeTransition :=
  if runtime.state ≠ .idle then
    raised .runtimeStateError s!"START is invalid while reader state is {runtime.state.value}."
  else if present runtime.sessionKey then
    raised .runtimeStateError "START is invalid while a local session key is present."
  else
    .ok {
      before := runtime
      after := {
        readerCode := runtime.readerCode
        state := .starting
        sessionKey := some command.sessionKey
        lastCommandRevision := command.revision }
      command }

def planStop (runtime : LocalReaderRuntime) (command : OdooRFIDCommand) :
    Except PyException RuntimeTransition :=
  if runtime.state ≠ .reading then
    raised .runtimeStateError s!"STOP is invalid while reader state is {runtime.state.value}."
  else if runtime.sessionKey ≠ some command.sessionKey then
    raised .runtimeStateError "STOP session_key does not match active local session."
  else
    .ok {
      before := runtime
      after := {
        readerCode := runtime.readerCode
        state := .stopping
        sessionKey := runtime.sessionKey
        lastCommandRevision := command.revision }
      command }

def planAbort (runtime : LocalReaderRuntime) (command : OdooRFIDCommand) :
    Except PyException RuntimeTransition :=
  if present runtime.sessionKey ∧ runtime.sessionKey ≠ some command.sessionKey then
    raised .runtimeStateError "ABORT session_key does not match local session."
  else
    .ok {
      before := runtime
      after := {
        readerCode := runtime.readerCode
        state := .stopping
        sessionKey := some command.sessionKey
        lastCommandRevision := command.revision }
      command }

def planNew (runtime : LocalReaderRuntime) (command : OdooRFIDCommand) :
    Except PyException RuntimeTransition :=
  match command.command with
  | .start => runtime.planStart command
  | .stop => runtime.planStop command
  | .abort => runtime.planAbort command

def planCommand (runtime : LocalReaderRuntime) (command : OdooRFIDCommand) :
    Except PyException RuntimeTransition := do
  match ← runtime.validateCommand command with
  | .duplicate => .ok { before := runtime, after := runtime, command, duplicate := true }
  | .new => runtime.planNew command

def markReaderStarted (runtime : LocalReaderRuntime) : Except PyException LocalReaderRuntime :=
  if runtime.state ≠ .starting then
    raised .runtimeStateError "Reader can only become READING from STARTING."
  else if ¬ present runtime.sessionKey then
    raised .runtimeStateError "Cannot enter READING without a session key."
  else
    .ok {
      readerCode := runtime.readerCode
      state := .reading
      sessionKey := runtime.sessionKey
      lastCommandRevision := runtime.lastCommandRevision }

def markReaderStopped (runtime : LocalReaderRuntime) : Except PyException LocalReaderRuntime :=
  if runtime.state ≠ .stopping then
    raised .runtimeStateError "Reader can only become IDLE from STOPPING."
  else
    .ok {
      readerCode := runtime.readerCode
      state := .idle
      sessionKey := none
      lastCommandRevision := runtime.lastCommandRevision }

def markCommandCompleted (runtime : LocalReaderRuntime) (command : OdooRFIDCommand) :
    Except PyException LocalReaderRuntime :=
  if command.readerCode ≠ runtime.readerCode then
    raised .runtimeStateError "Completed command reader does not match runtime."
  else if command.revision ≠ runtime.lastCommandRevision then
    raised .runtimeStateError
      "Completed command revision does not match the runtime revision."
  else
    .ok {
      readerCode := runtime.readerCode
      state := runtime.state
      sessionKey := runtime.sessionKey
      lastCommandRevision := runtime.lastCommandRevision
      error := runtime.error
      completedCommandRevision := command.revision
      completedCommand := some command.command
      completedSessionKey := some command.sessionKey }

def markDegraded (runtime : LocalReaderRuntime) (error : String) :
    Except PyException LocalReaderRuntime :=
  if strip error = "" then
    raised .runtimeStateError "Degraded runtime requires an error message."
  else
    .ok {
      readerCode := runtime.readerCode
      state := .degraded
      sessionKey := runtime.sessionKey
      lastCommandRevision := runtime.lastCommandRevision
      error := some (strip error) }

theorem markDegraded_eq_error {runtime : LocalReaderRuntime} {error : String} {exc : PyException}
    (h : runtime.markDegraded error = .error exc) : exc.cls = .runtimeStateError := by
  simp only [markDegraded, guard_eq_error] at h
  obtain ⟨-, rfl⟩ | ⟨-, h⟩ := h
  · rfl
  · cases h

theorem markCommandCompleted_eq_error {runtime : LocalReaderRuntime} {command : OdooRFIDCommand}
    {exc : PyException} (h : runtime.markCommandCompleted command = .error exc) :
    exc.cls = .runtimeStateError := by
  simp only [markCommandCompleted, guard_eq_error] at h
  obtain ⟨-, rfl⟩ | ⟨-, ⟨-, rfl⟩ | ⟨-, h⟩⟩ := h
  · rfl
  · rfl
  · cases h

/-- The runtime that a new command is planned to lead to. -/
def plannedFor (runtime : LocalReaderRuntime) (command : OdooRFIDCommand) : LocalReaderRuntime where
  readerCode := runtime.readerCode
  state := match command.command with
    | .start => .starting
    | .stop | .abort => .stopping
  sessionKey := some command.sessionKey
  lastCommandRevision := command.revision

theorem planNew_eq_ok {runtime : LocalReaderRuntime} {command : OdooRFIDCommand}
    {transition : RuntimeTransition} (plan : runtime.planNew command = .ok transition) :
    transition = { before := runtime, after := runtime.plannedFor command, command } := by
  simp only [planNew] at plan
  cases kind : command.command with
  | start =>
      simp only [kind, planStart, guard_eq_ok, Except.ok.injEq] at plan
      obtain ⟨-, -, rfl⟩ := plan
      simp only [plannedFor, kind]
  | stop =>
      simp only [kind, planStop, guard_eq_ok, Except.ok.injEq, not_not] at plan
      obtain ⟨-, same, rfl⟩ := plan
      simp only [plannedFor, kind, same]
  | abort =>
      simp only [kind, planAbort, guard_eq_ok, Except.ok.injEq] at plan
      obtain ⟨-, rfl⟩ := plan
      simp only [plannedFor, kind]

/-- What planning a command says about it. -/
theorem planCommand_eq_ok {runtime : LocalReaderRuntime} {command : OdooRFIDCommand}
    {transition : RuntimeTransition} (plan : runtime.planCommand command = .ok transition) :
    command.readerCode = runtime.readerCode ∧
      (transition.duplicate = true ∧ runtime.isCompleted command = true ∨
        transition.duplicate = false ∧ runtime.planNew command = .ok transition) := by
  simp only [planCommand, bind_eq_ok] at plan
  obtain ⟨disposition, valid, planned⟩ := plan
  simp only [validateCommand, guard_eq_ok, not_not] at valid
  obtain ⟨mine, -, valid⟩ := valid
  refine ⟨mine, ?_⟩
  cases disposition with
  | duplicate =>
      cases planned
      split at valid
      · split at valid
        · rename_i completed
          exact .inl ⟨rfl, completed⟩
        · cases valid
      · cases valid
  | new => exact .inr ⟨by rw [planNew_eq_ok planned], planned⟩

end LocalReaderRuntime
end RfidBridge
