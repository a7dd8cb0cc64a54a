import RfidBridge.Protocol.FrameCodec
import RfidBridge.Store.Edits
import RfidBridge.Worker.WorkerCycle

/-!
The final worker as a whole: the control thread of the command, its capture threads,
any number of delivery workers, and the reader. Nothing is assumed about their
interleaving.
-/

namespace RfidBridge

abbrev BridgePool := Pool Thread BridgeOp BridgeOp.Answer PyException World

/-- The API client's events call on behalf of an attempt. -/
def eventsCall (attemptId : Nat) (sessionKey readerCode : String) (payload : EventPayload) :
    Bridge Json := do
  let result : ApiResult ← Prog.perform (BridgeOp.events attemptId sessionKey readerCode payload)
  pure (.dict result)

/-- One cycle of a delivery worker; the worker survives what the cycle raises. -/
def deliveryCycle (env : BridgeEnv) (settings : DeliverySettings) : Bridge Unit :=
  (runFinalDeliveryCycle store
    (fun attemptId candidate => FinalOdooEventSender.sendEvent env.py env.texts
      (eventsCall attemptId) (strip settings.readerCode) candidate) settings).handle
    fun _ => pure ()

/-- What a thread may run when it is idle. The control thread runs the command once. -/
inductive BridgeBody (env : BridgeEnv) : Thread → Bridge Unit → Prop
  | capture (n : Nat) : BridgeBody env (.capture n) (FinalCaptureService.threadMain env.device n)
  | delivery (n : Nat) (settings : DeliverySettings) :
      BridgeBody env (.delivery n) (deliveryCycle env settings)
  | reader : BridgeBody env .reader (Prog.perform BridgeOp.processRequest)

abbrev bridgeExec (env : BridgeEnv) :
    Pool.Exec Thread BridgeOp BridgeOp.Answer PyException World :=
  fun t op => BridgeStep env t op

abbrev BridgeSteps (env : BridgeEnv) : BridgePool → BridgePool → Prop :=
  Pool.Steps (bridgeExec env) (BridgeBody env)

/-- The start of the command: its process has run nothing, and the reader and the
requests of earlier processes are in any state. -/
structure Started (env : BridgeEnv) (settings : CommandSettings) (c : BridgePool) : Prop where
  control : c.code .control = Command.handle env.py settings (some env.device)
  idle : ∀ t, t ≠ .control → c.code t = .ret ()
  registered : c.state.db.enabledReader (strip settings.readerCode) = some env.device
  runtime : c.state.runtime = offlineRuntime env.device.code
  executor : c.state.executor = {}
  capture : c.state.capture = {}
  threads : ∀ n, c.state.threads n = .unborn
  fresh : (∀ r ∈ c.state.line.wire, r.1 < c.state.line.nextConnection) ∧
    ∀ n ∈ c.state.line.answered, n < c.state.line.nextConnection
  quiet : c.state.busy = false
  history : c.state.trace = []

/-- Answers for whatever depends on the world outside. -/
abbrev Script := World → (op : BridgeOp) → Except PyException op.Answer

instance (device : ReaderDevice) (l : ReaderLine) (connection : Nat)
    (expectedCommands : List UInt8) (frames : List RFIDFrame) :
    Decidable (Heard device l connection expectedCommands frames) :=
  List.decidableBAll _ frames

/-- The reader that obeys every request. -/
def ReaderLine.obey (l : ReaderLine) : Option ReaderLine :=
  match l.wire with
  | [] => none
  | (connection, request) :: rest =>
      if requestCommand request = some commandStartInventory then
        some { l with wire := rest, inventorying := true }
      else if requestCommand request = some commandStop then
        some { l with wire := rest, inventorying := false, answered := connection :: l.answered }
      else some { l with wire := rest }

theorem ReaderLine.step_of_obey {l l' : ReaderLine} (h : l.obey = some l') : ReaderStep l l' := by
  unfold obey at h
  split at h
  · cases h
  · rename_i connection request rest wire
    split at h
    · rename_i start
      cases h
      exact .started wire start
    · split at h
      · rename_i stop
        cases h
        exact .stopped wire stop
      · cases h
        exact .dropped wire

/-- An executable choice among the effects of an operation: the world follows the
script where it is free, and everything else works. -/
def BridgeOp.respond (env : BridgeEnv) (script : Script) (w : World) :
    (op : BridgeOp) → Option (Except PyException op.Answer × World)
  | .readRuntime => some (.ok w.runtime, w)
  | .writeRuntime runtime => some (.ok (), { w with runtime })
  | .readSession => some (.ok w.executor.session, w)
  | .writeSession session => some (.ok (), { w with executor := { w.executor with session } })
  | .readActiveSessionKey => some (.ok w.executor.activeSessionKey, w)
  | .writeActiveSessionKey key =>
      some (.ok (), { w with executor := { w.executor with activeSessionKey := key } })
  | .readPendingTagFrames => some (.ok w.executor.pendingTagFrames, w)
  | .appendPendingTagFrame frame =>
      some (.ok (), { w with executor := { w.executor with
        pendingTagFrames := w.executor.pendingTagFrames ++ [frame] } })
  | .clearPendingTagFrames =>
      some (.ok (), { w with executor := { w.executor with pendingTagFrames := [] } })
  | .readCaptureThread => some (.ok w.capture.thread, w)
  | .writeCaptureThread thread =>
      some (.ok (), { w with capture := { w.capture with thread } })
  | .readCaptureSessionKey => some (.ok w.capture.sessionKey, w)
  | .writeCaptureSessionKey key =>
      some (.ok (), { w with capture := { w.capture with sessionKey := key } })
  | .readCaptureError => some (.ok w.capture.error, w)
  | .writeCaptureError error => some (.ok (), { w with capture := { w.capture with error } })
  | .stopEventIsSet => some (.ok w.capture.stopEvent, w)
  | .setStopEvent => some (.ok (), { w with capture := { w.capture with stopEvent := true } })
  | .clearStopEvent => some (.ok (), { w with capture := { w.capture with stopEvent := false } })
  | .newThread => some (.ok w.nextThread, { w with nextThread := w.nextThread + 1 })
  | .startThread thread =>
      if w.threads thread = .unborn then some (.ok (), w.setThread thread .running) else none
  | .joinThread thread => if w.threads thread ≠ .unborn then some (.ok (), w) else none
  | .threadIsAlive thread => some (.ok (w.threads thread == .running), w)
  | .threadBegins thread => if w.threads thread = .running then some (.ok (), w) else none
  | .threadEnds thread => some (.ok (), w.setThread thread .finished)
  | .connect =>
      some (.ok w.line.nextConnection,
        { w with line := { w.line with nextConnection := w.line.nextConnection + 1 } })
  | .send connection request _ => some (.ok (), w.transmit connection request)
  | .receive connection expectedCommands =>
      match script w (.receive connection expectedCommands) with
      | .ok frames =>
          if Heard env.device w.line connection expectedCommands frames then some (.ok frames, w)
          else none
      | .error exc => if exc.isException then some (.error exc, w) else none
  | .store op =>
      match op.run env.sha 0 w.db with
      | .ok (answer, db) => some (.ok answer, { w with db })
      | .error exc => if exc.isException then some (.error exc, w) else none
  | .commandEntered _ => some (.ok (), { w with busy := true })
  | .commandReturned _ => some (.ok (), { w with busy := false })
  | .beyond => none
  | .processRequest => w.line.obey.map fun line => (.ok (), { w with line })
  | .commands =>
      match script w .commands with
      | .ok payloads => some (.ok payloads, w)
      | .error exc => if exc.isException then some (.error exc, w) else none
  | .ack request =>
      match script w (.ack request) with
      | .ok result => some (.ok result, w)
      | .error exc => if exc.isException then some (.error exc, w) else none
  | .events attemptId sessionKey readerCode payload =>
      match script w (.events attemptId sessionKey readerCode payload) with
      | .ok result => some (.ok result, w)
      | .error exc => if exc.isException then some (.error exc, w) else none
  | .rounds => some (.ok 3, w)
  | .sleep | .closeOldConnections | .closeSession _ | .heartbeat _ => some (.ok (), w)

theorem BridgeOp.effect_of_respond {env : BridgeEnv} {script : Script} {w w' : World}
    {op : BridgeOp} {answer : Except PyException op.Answer}
    (h : op.respond env script w = some (answer, w')) :
    op.effect env w answer w' ∧ ∀ exc, answer = .error exc → exc.isException = true := by
  cases op with
  | startThread thread | threadBegins thread =>
      simp only [respond] at h
      split at h
      · rename_i life
        cases h
        simp [effect, life]
      · cases h
  | joinThread thread =>
      simp only [respond] at h
      split at h
      · rename_i born
        cases h
        simp [effect, born]
      · cases h
  | receive connection expectedCommands =>
      simp only [respond] at h
      split at h
      · split at h
        · rename_i frames _ heard
          cases h
          refine ⟨⟨rfl, ?_⟩, by simp⟩
          rintro _ ⟨⟩
          exact heard
        · cases h
      · split at h
        · rename_i exc _ caught
          cases h
          refine ⟨⟨rfl, by simp⟩, ?_⟩
          rintro _ ⟨⟩
          exact caught
        · cases h
  | store op =>
      simp only [respond] at h
      split at h
      · rename_i value db ran
        cases h
        exact ⟨.inl ⟨0, value, db, rfl, ran, rfl⟩, by simp⟩
      · split at h
        · rename_i exc ran caught
          cases h
          refine ⟨.inr ⟨⟨exc, rfl, fun _ => ⟨0, ran⟩⟩, rfl⟩, ?_⟩
          rintro _ ⟨⟩
          exact caught
        · cases h
  | commands | ack _ | events _ _ _ _ =>
      simp only [respond] at h
      split at h
      · cases h
        exact ⟨rfl, by simp⟩
      · split at h
        · rename_i exc _ caught
          cases h
          refine ⟨rfl, ?_⟩
          rintro _ ⟨⟩
          exact caught
        · cases h
  | processRequest =>
      simp only [respond] at h
      obtain ⟨l, obeyed, same⟩ := Option.map_eq_some_iff.mp h
      cases same
      exact ⟨⟨rfl, l, ReaderLine.step_of_obey obeyed, rfl⟩, by simp⟩
  | beyond => cases h
  | _ =>
      cases h
      simp [effect]

/-- One step of a thread under a script. -/
def respondLogged (env : BridgeEnv) (script : Script) (t : Thread) (op : BridgeOp) (w : World) :
    Option (Except PyException op.Answer × World) :=
  (op.respond env script w).map fun (answer, w') => (answer, w'.log ⟨t, op, answer⟩)

theorem bridgeStep_of_respond {env : BridgeEnv} {script : Script} (t : Thread) (op : BridgeOp)
    (w : World) (answer : Except PyException op.Answer) (w' : World)
    (h : respondLogged env script t op w = some (answer, w')) :
    BridgeStep env t op w answer w' := by
  obtain ⟨⟨given, w₁⟩, responded, same⟩ := Option.map_eq_some_iff.mp h
  cases same
  obtain ⟨effect, caught⟩ := BridgeOp.effect_of_respond responded
  exact ⟨⟨w₁, .inl effect, rfl⟩, fun exc eq => .inr (caught exc eq)⟩

/-- What an idle thread runs next; each of a worker's cycles has the same settings. -/
def nextBody (env : BridgeEnv) (settings : DeliverySettings) : Thread → Option (Bridge Unit)
  | .control => none
  | .capture n => some (FinalCaptureService.threadMain env.device n)
  | .delivery _ => some (deliveryCycle env settings)
  | .reader => some (Prog.perform BridgeOp.processRequest)

theorem body_of_next {env : BridgeEnv} {settings : DeliverySettings} (t : Thread)
    (p : Bridge Unit) (h : nextBody env settings t = some p) : BridgeBody env t p := by
  cases t with
  | control => cases h
  | capture n =>
      cases h
      exact .capture n
  | delivery n =>
      cases h
      exact .delivery n settings
  | reader =>
      cases h
      exact .reader

/-- Turns of threads, one after another, each of a number of steps. -/
def runSchedule (env : BridgeEnv) (settings : DeliverySettings) (script : Script)
    (turns : List (Thread × Nat)) : BridgePool → Option BridgePool :=
  Pool.follow (respondLogged env script) (nextBody env settings)
    (turns.flatMap fun (t, steps) => List.replicate steps t)

theorem bridgeSteps_of_runSchedule {env : BridgeEnv} {settings : DeliverySettings}
    {script : Script} {turns : List (Thread × Nat)} {c c' : BridgePool}
    (h : runSchedule env settings script turns c = some c') : BridgeSteps env c c' :=
  Pool.steps_of_follow bridgeStep_of_respond body_of_next h

/-- The acknowledgement that a program sends next. -/
def pendingAck : Bridge Unit → Option AckRequest
  | .call (.ack request) _ => some request
  | _ => none

theorem code_of_pendingAck {p : Bridge Unit} {request : AckRequest}
    (h : pendingAck p = some request) : ∃ next, p = .call (.ack request) next := by
  unfold pendingAck at h
  split at h
  · cases h
    exact ⟨_, rfl⟩
  · cases h

/-! A small installation, for runs under a script. -/

namespace Installation

def reader : ReaderDevice :=
  { id := 1, code := "GATE-1", host := "10.0.0.5", inventoryMode := .active, enabled := true }

def env : BridgeEnv where
  sha := ⟨plainUtf8, fun _ => zeros, fun _ => length_zeros, fun _ => hex_zeros⟩
  py := {
    containerText := fun _ => "{}"
    reprText := fun text => "'" ++ text ++ "'"
    intOfText := fun _ => none
    upper := fun text => String.ofList (text.toList.map Char.toUpper)
    lower := fun text => String.ofList (text.toList.map Char.toLower) }
  texts := ⟨fun id => s!"event-{id}", fun time => s!"{time}"⟩
  device := reader

/-- A frame of the reader with status 0. -/
def frameOf (command : UInt8) (payload : Bytes) : RFIDFrame where
  address := 1
  sequence := 0
  command
  status := 0
  payload
  rawFrame := frameBytes 1 0 command 0 payload

def startResponse : RFIDFrame := frameOf commandStartInventory []

def stopResponse : RFIDFrame := frameOf commandStop []

/-- A tag frame that shows the EPC E2. -/
def tag : RFIDFrame := frameOf commandActiveTag [0, 0, 0, 4, 1, 1, 0xE2]

/-- The fields of a command from Odoo. -/
def commandPayload (command : String) (revision : Int) : Json :=
  .dict [("session_key", .str "S1"), ("reader_code", .str "GATE-1"), ("command", .str command),
    ("revision", .int revision)]

/-- An idle process, with the database of the one reader. -/
def world : World where
  db := { devices := [reader] }
  runtime := offlineRuntime "GATE-1"

def settings : CommandSettings where
  once := true
  allowPhysicalReaderContact := true
  allowOdooContact := true
  readerCode := "GATE-1"

def deliverySettings : DeliverySettings where
  readerCode := "GATE-1"
  batchSize := 10
  maxDeliveryAttempts := 3
  retryInitialSeconds := 1
  retryMaxSeconds := 60

/-- The process at its start. -/
def pool : BridgePool where
  state := world
  code := Function.update (fun _ => .ret ()) .control
    (Command.handle env.py settings (some env.device))

theorem started_pool : Started env settings pool where
  control := by simp [pool]
  idle _ other := by simp [pool, other]
  registered := by decide +kernel
  runtime := rfl
  executor := rfl
  capture := rfl
  threads _ := rfl
  fresh := ⟨nofun, nofun⟩
  quiet := rfl
  history := rfl

/-- Odoo accepts the event that a request names. -/
def acceptance (payload : EventPayload) : ApiResult :=
  [("ok", .bool true), ("results", .list [.dict
    [("event_uuid", .str payload.eventUuid), ("outcome", .str "accepted")]])]

/-- A START and a STOP, a reader that answers each request and shows one tag over and
over, and an Odoo that accepts everything. -/
def session : Script
  | _, .receive _ expectedCommands =>
      if commandStartInventory ∈ expectedCommands then .ok [startResponse]
      else if commandStop ∈ expectedCommands then .ok [stopResponse]
      else .ok [tag]
  | _, .commands => .ok [commandPayload "start" 1, commandPayload "stop" 2]
  | _, .ack _ => .ok [("ok", .bool true)]
  | _, .events _ _ _ payload => .ok (acceptance payload)
  | _, _ => raised .rfidTransportError "unused"

end Installation
end RfidBridge
