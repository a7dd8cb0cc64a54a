import RfidBridge.Delivery.OdooEventSender
import RfidBridge.Runtime.Orchestrator

/-!
The world of the final worker: the attributes of its objects, its threads, the
connection to the reader with the reader at its other end, the database, and the
history of everything that was done. One operation is one atomic step of a thread.
-/

namespace RfidBridge

inductive Thread
  | control
  | capture (n : Nat)
  | delivery (n : Nat)
  | reader
  deriving DecidableEq, Repr

/-- The life of a threading.Thread object. -/
inductive Life
  | unborn
  | running
  | finished
  deriving DecidableEq, Repr

/-- The attributes of PersistentActiveReaderExecutor. A session is the number of its
connection. -/
structure ExecutorFields where
  session : Option Nat := none
  activeSessionKey : Option String := none
  pendingTagFrames : List RFIDFrame := []

/-- The attributes of FinalCaptureService. -/
structure CaptureFields where
  thread : Option Nat := none
  stopEvent : Bool := false
  sessionKey : Option String := none
  error : Option PyException := none

/-- The way to the reader: the requests on it with the oldest first, whether the
reader is inventorying, and the connections on which it answered a STOP with status 0. -/
structure ReaderLine where
  nextConnection : Nat := 0
  wire : List (Nat × Bytes) := []
  inventorying : Bool := false
  answered : List Nat := []

/-- The command of a request, if it is a frame. -/
def requestCommand (request : Bytes) : Option UInt8 :=
  match parseFrame request with
  | .ok frame => some frame.command
  | .error _ => none

/-- The reader takes the oldest request: it obeys it, or the request is lost, refused or
no command of its own. -/
inductive ReaderStep : ReaderLine → ReaderLine → Prop
  | started {l connection request rest} : l.wire = (connection, request) :: rest →
      requestCommand request = some commandStartInventory →
      ReaderStep l { l with wire := rest, inventorying := true }
  | stopped {l connection request rest} : l.wire = (connection, request) :: rest →
      requestCommand request = some commandStop →
      ReaderStep l { l with
        wire := rest, inventorying := false, answered := connection :: l.answered }
  | dropped {l request rest} : l.wire = request :: rest →
      ReaderStep l { l with wire := rest }

inductive BridgeOp
  | readRuntime
  | writeRuntime (runtime : LocalReaderRuntime)
  | readSession
  | writeSession (session : Option Nat)
  | readActiveSessionKey
  | writeActiveSessionKey (key : Option String)
  | readPendingTagFrames
  | appendPendingTagFrame (frame : RFIDFrame)
  | clearPendingTagFrames
  | readCaptureThread
  | writeCaptureThread (thread : Option Nat)
  | readCaptureSessionKey
  | writeCaptureSessionKey (key : Option String)
  | readCaptureError
  | writeCaptureError (error : Option PyException)
  | stopEventIsSet
  | setStopEvent
  | clearStopEvent
  | newThread
  | startThread (thread : Nat)
  | joinThread (thread : Nat)
  | threadIsAlive (thread : Nat)
  | threadBegins (thread : Nat)
  | threadEnds (thread : Nat)
  | sleep
  | closeOldConnections
  | connect
  /-- The label says for which session a request is sent, in the history only. -/
  | send (connection : Nat) (request : Bytes) (label : Option String)
  | receive (connection : Nat) (expectedCommands : List UInt8)
  | closeSession (connection : Nat)
  | heartbeat (runtime : LocalReaderRuntime)
  | commands
  | ack (request : AckRequest)
  /-- The attempt that a request serves is again only a label. -/
  | events (attemptId : Nat) (sessionKey readerCode : String) (payload : EventPayload)
  | store (op : StoreOp)
  /-- Marks in the history around process_command. -/
  | commandEntered (command : OdooRFIDCommand)
  | commandReturned (command : OdooRFIDCommand)
  /-- How many rounds a loop without a bound runs at most, and what lies beyond. -/
  | rounds
  | beyond
  | processRequest

abbrev BridgeOp.Answer : BridgeOp → Type
  | .readRuntime => LocalReaderRuntime
  | .readSession | .readCaptureThread => Option Nat
  | .readActiveSessionKey | .readCaptureSessionKey => Option String
  | .readPendingTagFrames | .receive .. => List RFIDFrame
  | .readCaptureError => Option PyException
  | .stopEventIsSet | .threadIsAlive _ => Bool
  | .newThread | .connect | .rounds => Nat
  | .commands => List Json
  | .ack _ | .events .. => ApiResult
  | .store op => op.Answer
  | .beyond => Empty
  | _ => Unit

/-- One operation of the history. -/
structure Entry where
  thread : Thread
  op : BridgeOp
  answer : Except PyException op.Answer

structure World where
  db : Database
  runtime : LocalReaderRuntime
  executor : ExecutorFields := {}
  capture : CaptureFields := {}
  threads : Nat → Life := fun _ => .unborn
  nextThread : Nat := 0
  line : ReaderLine := {}
  /-- process_command has been entered and has not returned. -/
  busy : Bool := false
  trace : List Entry := []

namespace World

def log (w : World) (entry : Entry) : World :=
  { w with trace := entry :: w.trace }

def transmit (w : World) (connection : Nat) (request : Bytes) : World :=
  { w with line := { w.line with wire := w.line.wire ++ [(connection, request)] } }

def setThread (w : World) (thread : Nat) (life : Life) : World :=
  { w with threads := Function.update w.threads thread life }

end World

/-- What the worker is given: the digest, the language's conversions and its reader row. -/
structure BridgeEnv where
  sha : Sha256
  py : Builtins
  texts : RowTexts
  device : ReaderDevice

/-- Frames that a receive may hand over: of the expected commands, and with a STOP
response of status 0 only from a reader that answered a STOP on this connection. -/
def Heard (device : ReaderDevice) (l : ReaderLine) (connection : Nat)
    (expectedCommands : List UInt8) (frames : List RFIDFrame) : Prop :=
  ∀ frame ∈ frames, frame.command ∈ expectedCommands ∧
    (frame.command = commandStop → frame.status = 0 →
      frame.address.toNat = device.deviceAddress → connection ∈ l.answered)

/-- What an operation may answer and do. Whatever depends on the network, the reader,
Odoo, the database server or the clock may answer or raise anything. -/
def BridgeOp.effect (env : BridgeEnv) (w : World) :
    (op : BridgeOp) → Except PyException op.Answer → World → Prop
  | .readRuntime, answer, w' => answer = .ok w.runtime ∧ w' = w
  | .writeRuntime runtime, answer, w' => answer = .ok () ∧ w' = { w with runtime }
  | .readSession, answer, w' => answer = .ok w.executor.session ∧ w' = w
  | .writeSession session, answer, w' =>
      answer = .ok () ∧ w' = { w with executor := { w.executor with session } }
  | .readActiveSessionKey, answer, w' => answer = .ok w.executor.activeSessionKey ∧ w' = w
  | .writeActiveSessionKey key, answer, w' =>
      answer = .ok () ∧ w' = { w with executor := { w.executor with activeSessionKey := key } }
  | .readPendingTagFrames, answer, w' => answer = .ok w.executor.pendingTagFrames ∧ w' = w
  | .appendPendingTagFrame frame, answer, w' =>
      answer = .ok () ∧ w' = { w with executor := { w.executor with
        pendingTagFrames := w.executor.pendingTagFrames ++ [frame] } }
  | .clearPendingTagFrames, answer, w' =>
      answer = .ok () ∧ w' = { w with executor := { w.executor with pendingTagFrames := [] } }
  | .readCaptureThread, answer, w' => answer = .ok w.capture.thread ∧ w' = w
  | .writeCaptureThread thread, answer, w' =>
      answer = .ok () ∧ w' = { w with capture := { w.capture with thread } }
  | .readCaptureSessionKey, answer, w' => answer = .ok w.capture.sessionKey ∧ w' = w
  | .writeCaptureSessionKey key, answer, w' =>
      answer = .ok () ∧ w' = { w with capture := { w.capture with sessionKey := key } }
  | .readCaptureError, answer, w' => answer = .ok w.capture.error ∧ w' = w
  | .writeCaptureError error, answer, w' =>
      answer = .ok () ∧ w' = { w with capture := { w.capture with error } }
  | .stopEventIsSet, answer, w' => answer = .ok w.capture.stopEvent ∧ w' = w
  | .setStopEvent, answer, w' =>
      answer = .ok () ∧ w' = { w with capture := { w.capture with stopEvent := true } }
  | .clearStopEvent, answer, w' =>
      answer = .ok () ∧ w' = { w with capture := { w.capture with stopEvent := false } }
  | .newThread, answer, w' =>
      answer = .ok w.nextThread ∧ w' = { w with nextThread := w.nextThread + 1 } ∨
      (∃ exc, answer = .error exc) ∧ w' = w
  | .startThread thread, answer, w' =>
      -- a signal may arrive while the starting thread waits for the started one
      w.threads thread = .unborn ∧ w' = w.setThread thread .running ∨
      (∃ exc, answer = .error exc) ∧ w' = w
  | .joinThread thread, answer, w' =>
      w' = w ∧ (answer = .ok () → w.threads thread ≠ .unborn)
  | .threadIsAlive thread, answer, w' =>
      answer = .ok (w.threads thread == .running) ∧ w' = w
  | .threadBegins thread, answer, w' =>
      w.threads thread = .running ∧ answer = .ok () ∧ w' = w
  | .threadEnds thread, answer, w' => answer = .ok () ∧ w' = w.setThread thread .finished
  | .connect, answer, w' =>
      answer = .ok w.line.nextConnection ∧
        w' = { w with line := { w.line with nextConnection := w.line.nextConnection + 1 } } ∨
      (∃ exc, answer = .error exc) ∧ w' = w
  | .send connection request _, answer, w' =>
      -- the request may have left although the call raises
      w' = w.transmit connection request ∨ (∃ exc, answer = .error exc) ∧ w' = w
  | .receive connection expectedCommands, answer, w' =>
      w' = w ∧ ∀ frames, answer = .ok frames →
        Heard env.device w.line connection expectedCommands frames
  | .store op, answer, w' =>
      (∃ now value db', answer = .ok value ∧ op.run env.sha now w.db = .ok (value, db') ∧
        w' = { w with db := db' }) ∨
      -- the database may raise anything but the error of the session service
      (∃ exc, answer = .error exc ∧ (exc.cls = .finalSessionError →
        ∃ now, op.run env.sha now w.db = .error exc)) ∧ w' = w
  | .commandEntered _, answer, w' => answer = .ok () ∧ w' = { w with busy := true }
  | .commandReturned _, answer, w' => answer = .ok () ∧ w' = { w with busy := false }
  | .beyond, _, _ => False
  | .processRequest, answer, w' =>
      answer = .ok () ∧ ∃ l, ReaderStep w.line l ∧ w' = { w with line := l }
  | .sleep, _, w' | .closeOldConnections, _, w' | .closeSession _, _, w' | .heartbeat _, _, w'
  | .commands, _, w' | .ack _, _, w' | .events .., _, w' | .rounds, _, w' => w' = w

/-- Python raises KeyboardInterrupt in the main thread of a process only. -/
def Thread.isMain : Thread → Bool
  | .control | .delivery _ => true
  | .capture _ | .reader => false

/-- A mark is no code, so it cannot be interrupted. -/
def BridgeOp.isMark : BridgeOp → Bool
  | .commandEntered _ | .commandReturned _ | .beyond => true
  | _ => false

/-- The main thread of a process is interrupted in front of an operation. -/
def Interrupted (t : Thread) (op : BridgeOp) (answer : Except PyException op.Answer) : Prop :=
  t.isMain = true ∧ op.isMark = false ∧ answer = .error ⟨.keyboardInterrupt, ""⟩

/-- One step of a thread: the operation takes its effect, or the thread is interrupted;
the history records it. -/
structure BridgeStep (env : BridgeEnv) (t : Thread) (op : BridgeOp) (w : World)
    (answer : Except PyException op.Answer) (w' : World) : Prop where
  effect : ∃ w₁, (op.effect env w answer w₁ ∨ Interrupted t op answer ∧ w₁ = w) ∧
    w' = w₁.log ⟨t, op, answer⟩
  exception : ∀ exc, answer = .error exc → t.isMain = true ∨ exc.isException = true

/-- The parts of the world; an operation writes at most one of them. -/
inductive Field
  | db
  | runtime
  | session
  | activeSessionKey
  | pendingTagFrames
  | captureThread
  | stopEvent
  | captureSessionKey
  | captureError
  | threads
  | nextThread
  | line
  | busy
  deriving DecidableEq, Repr

def BridgeOp.writes : BridgeOp → Option Field
  | .store _ => some .db
  | .writeRuntime _ => some .runtime
  | .writeSession _ => some .session
  | .writeActiveSessionKey _ => some .activeSessionKey
  | .appendPendingTagFrame _ | .clearPendingTagFrames => some .pendingTagFrames
  | .writeCaptureThread _ => some .captureThread
  | .setStopEvent | .clearStopEvent => some .stopEvent
  | .writeCaptureSessionKey _ => some .captureSessionKey
  | .writeCaptureError _ => some .captureError
  | .startThread _ | .threadEnds _ => some .threads
  | .newThread => some .nextThread
  | .connect | .send .. | .processRequest => some .line
  | .commandEntered _ | .commandReturned _ => some .busy
  | _ => none

/-- The second world is the first one but for the given part. -/
structure Frame (part : Option Field) (w w' : World) : Prop where
  db : part ≠ some .db → w'.db = w.db
  runtime : part ≠ some .runtime → w'.runtime = w.runtime
  session : part ≠ some .session → w'.executor.session = w.executor.session
  activeSessionKey : part ≠ some .activeSessionKey →
    w'.executor.activeSessionKey = w.executor.activeSessionKey
  pendingTagFrames : part ≠ some .pendingTagFrames →
    w'.executor.pendingTagFrames = w.executor.pendingTagFrames
  captureThread : part ≠ some .captureThread → w'.capture.thread = w.capture.thread
  stopEvent : part ≠ some .stopEvent → w'.capture.stopEvent = w.capture.stopEvent
  captureSessionKey : part ≠ some .captureSessionKey →
    w'.capture.sessionKey = w.capture.sessionKey
  captureError : part ≠ some .captureError → w'.capture.error = w.capture.error
  threads : part ≠ some .threads → w'.threads = w.threads
  nextThread : part ≠ some .nextThread → w'.nextThread = w.nextThread
  line : part ≠ some .line → w'.line = w.line
  busy : part ≠ some .busy → w'.busy = w.busy

theorem Frame.refl (part : Option Field) (w : World) : Frame part w w := by
  constructor <;> exact fun _ => rfl

theorem BridgeOp.frame_of_effect {env : BridgeEnv} {w w' : World} {op : BridgeOp}
    {answer : Except PyException op.Answer} (h : op.effect env w answer w') :
    Frame op.writes w w' ∧ w'.trace = w.trace := by
  cases op with
  | beyond => exact h.elim
  | sleep | closeOldConnections | closeSession _ | heartbeat _ | commands | ack _
  | events _ _ _ _ | rounds =>
      cases h
      exact ⟨.refl _ _, rfl⟩
  | readRuntime | readSession | readActiveSessionKey | readPendingTagFrames | readCaptureThread
  | readCaptureSessionKey | readCaptureError | stopEventIsSet | threadIsAlive _ =>
      obtain ⟨-, rfl⟩ := h
      exact ⟨.refl _ _, rfl⟩
  | joinThread _ | receive _ _ =>
      obtain ⟨rfl, -⟩ := h
      exact ⟨.refl _ _, rfl⟩
  | threadBegins _ =>
      obtain ⟨-, -, rfl⟩ := h
      exact ⟨.refl _ _, rfl⟩
  | processRequest =>
      obtain ⟨-, l, -, rfl⟩ := h
      exact ⟨by constructor <;> simp [writes], rfl⟩
  | newThread | connect | startThread _ =>
      obtain ⟨-, rfl⟩ | ⟨-, rfl⟩ := h
      · exact ⟨by constructor <;> simp [writes, World.setThread], rfl⟩
      · exact ⟨.refl _ _, rfl⟩
  | send _ _ _ =>
      obtain rfl | ⟨-, rfl⟩ := h
      · exact ⟨by constructor <;> simp [writes, World.transmit], rfl⟩
      · exact ⟨.refl _ _, rfl⟩
  | store op =>
      obtain ⟨now, value, db', -, -, rfl⟩ | ⟨-, rfl⟩ := h
      · exact ⟨by constructor <;> simp [writes], rfl⟩
      · exact ⟨.refl _ _, rfl⟩
  | _ =>
      obtain ⟨-, rfl⟩ := h
      exact ⟨by constructor <;> simp [writes, World.setThread], rfl⟩

theorem BridgeStep.frame {env : BridgeEnv} {t : Thread} {op : BridgeOp} {w w' : World}
    {answer : Except PyException op.Answer} (h : BridgeStep env t op w answer w') :
    Frame op.writes w w' ∧ w'.trace = ⟨t, op, answer⟩ :: w.trace := by
  obtain ⟨w₁, effect | ⟨-, rfl⟩, rfl⟩ := h.effect
  · obtain ⟨frame, trace⟩ := BridgeOp.frame_of_effect effect
    exact ⟨⟨frame.db, frame.runtime, frame.session, frame.activeSessionKey,
      frame.pendingTagFrames, frame.captureThread, frame.stopEvent, frame.captureSessionKey,
      frame.captureError, frame.threads, frame.nextThread, frame.line, frame.busy⟩,
      congrArg _ trace⟩
  · exact ⟨⟨fun _ => rfl, fun _ => rfl, fun _ => rfl, fun _ => rfl, fun _ => rfl, fun _ => rfl,
      fun _ => rfl, fun _ => rfl, fun _ => rfl, fun _ => rfl, fun _ => rfl, fun _ => rfl,
      fun _ => rfl⟩, rfl⟩

/-- An operation that has answered took its effect. -/
theorem BridgeStep.effect_of_ok {env : BridgeEnv} {t : Thread} {op : BridgeOp} {w w' : World}
    {value : op.Answer} (h : BridgeStep env t op w (.ok value) w') :
    ∃ w₁, op.effect env w (.ok value) w₁ ∧ w' = w₁.log ⟨t, op, .ok value⟩ := by
  obtain ⟨w₁, effect | ⟨⟨-, -, interrupted⟩, -⟩, logged⟩ := h.effect
  · exact ⟨w₁, effect, logged⟩
  · cases interrupted

/-- An operation on the worker's own attributes, which cannot fail. -/
def BridgeOp.certain : BridgeOp → Bool
  | .readRuntime | .writeRuntime _ | .readSession | .writeSession _ | .readActiveSessionKey
  | .writeActiveSessionKey _ | .readPendingTagFrames | .appendPendingTagFrame _
  | .clearPendingTagFrames | .readCaptureThread | .writeCaptureThread _ | .readCaptureSessionKey
  | .writeCaptureSessionKey _ | .readCaptureError | .writeCaptureError _ | .stopEventIsSet
  | .setStopEvent | .clearStopEvent | .threadIsAlive _ | .threadBegins _ | .threadEnds _
  | .commandEntered _ | .commandReturned _ | .processRequest => true
  | _ => false

/-- Such an operation is at most interrupted. -/
theorem BridgeStep.interrupted {env : BridgeEnv} {t : Thread} {op : BridgeOp} {w w' : World}
    {exc : PyException} (h : BridgeStep env t op w (.error exc) w') (certain : op.certain = true) :
    exc = ⟨.keyboardInterrupt, ""⟩ ∧ t.isMain = true ∧ op.isMark = false ∧
      w' = w.log ⟨t, op, .error exc⟩ := by
  obtain ⟨w₁, took | ⟨⟨main, mark, same⟩, rfl⟩, rfl⟩ := h.effect
  · cases op <;> first | (simp [BridgeOp.effect] at took; done) | cases certain
  · cases same
    exact ⟨rfl, main, mark, rfl⟩

section
variable {env : BridgeEnv} {t : Thread} {op : StoreOp} {w w' : World}

theorem BridgeStep.committed {value : op.Answer}
    (h : BridgeStep env t (.store op) w (.ok value) w') :
    ∃ now, op.run env.sha now w.db = .ok (value, w'.db) := by
  obtain ⟨w₁, effect, rfl⟩ := h.effect_of_ok
  obtain ⟨now, value', db', same, ran, rfl⟩ | ⟨⟨exc, failed, -⟩, -⟩ := effect
  · cases same
    exact ⟨now, ran⟩
  · cases failed

theorem BridgeStep.rolledBack {exc : PyException}
    (h : BridgeStep env t (.store op) w (.error exc) w') :
    w'.db = w.db ∧
      (exc.cls = .finalSessionError → ∃ now, op.run env.sha now w.db = .error exc) := by
  obtain ⟨w₁, effect | ⟨⟨-, -, interrupted⟩, rfl⟩, rfl⟩ := h.effect
  · obtain ⟨now, value, db', failed, -, -⟩ | ⟨⟨exc', failed, own⟩, rfl⟩ := effect
    · cases failed
    · cases failed
      exact ⟨rfl, own⟩
  · cases interrupted
    exact ⟨rfl, nofun⟩

end

abbrev Bridge (α : Type) := Program BridgeOp BridgeOp.Answer α

/-- A loop without a bound: every finite part of its runs is one of these. -/
def whileTrue {α : Type} (round : Bridge (Option α)) : Bridge α := do
  let rounds : Nat ← Prog.perform BridgeOp.rounds
  Prog.repeated (do
    let never : Empty ← Prog.perform BridgeOp.beyond
    nomatch never) round rounds

end RfidBridge
