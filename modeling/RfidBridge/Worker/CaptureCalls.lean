import RfidBridge.Worker.WorkerCycle

/-!
Which operations the executor and the capture service call: their own attributes,
threads, the connection to the reader, and final ingestion. They leave the runtime,
Odoo and the rest of the store alone.
-/

namespace RfidBridge
open PersistentActiveReaderExecutor

/-- The operations of capture thread `n`. -/
def BridgeOp.polls (n : Nat) : BridgeOp → Prop
  | .threadBegins thread | .threadEnds thread => thread = n
  | .receive _ expectedCommands => expectedCommands = [commandActiveTag]
  | .store (.ingestFinalActiveTagFrames ..) | .writeCaptureError (some _) => True
  | .readSession | .readActiveSessionKey | .readPendingTagFrames | .appendPendingTagFrame _
  | .clearPendingTagFrames | .readCaptureSessionKey | .stopEventIsSet | .setStopEvent | .sleep
  | .closeOldConnections | .rounds | .beyond => True
  | _ => False

/-- The operations of the executor and the capture service. -/
def BridgeOp.captures : BridgeOp → Prop
  | .writeRuntime _ | .ack _ | .events .. | .commandEntered _ | .commandReturned _ => False
  | .store (.ingestFinalActiveTagFrames ..) => True
  | .store _ => False
  | _ => True

/-- The operations of the executor alone: its attributes and the connection. A session key
that it holds is not blank. -/
def BridgeOp.executes : BridgeOp → Prop
  | .writeActiveSessionKey key => ∀ k ∈ key, strip k ≠ ""
  | .readSession | .writeSession _ | .readActiveSessionKey | .readPendingTagFrames
  | .appendPendingTagFrame _ | .clearPendingTagFrames | .connect | .send .. | .receive ..
  | .closeSession _ => True
  | _ => False

/-- Those of them that neither send nor receive. -/
def BridgeOp.silent : BridgeOp → Prop
  | .send .. | .receive .. => False
  | op => op.captures

section
variable {α : Type} {allowed : BridgeOp → Prop}

theorem calls_whileTrue {round : Bridge (Option α)} (rounds : allowed .rounds)
    (beyond : allowed .beyond) (h : round.Calls allowed) : (whileTrue round).Calls allowed := by
  apply Prog.calls_bind (Prog.calls_perform rounds)
  intro n
  exact Prog.calls_repeated (Prog.calls_bind (Prog.calls_perform beyond) nofun) h n

theorem calls_withSession {f : Nat → Bridge α} (read : allowed .readSession)
    (h : ∀ connection, (f connection).Calls allowed) : (withSession f).Calls allowed := by
  apply Prog.calls_bind (Prog.calls_perform read)
  intro session
  cases session with
  | some connection => exact h connection
  | none => exact Prog.calls_raise _ _

theorem calls_isActive (session : allowed .readSession) (key : allowed .readActiveSessionKey) :
    isActive.Calls allowed := by
  apply Prog.calls_bind (Prog.calls_perform session)
  intro session
  split
  · exact Prog.calls_pure _ _
  · exact Prog.calls_bind (Prog.calls_perform key) fun _ => Prog.calls_pure _ _

theorem calls_takePendingTagFrames (read : allowed .readPendingTagFrames)
    (clear : allowed .clearPendingTagFrames) : takePendingTagFrames.Calls allowed := by
  apply Prog.calls_bind (Prog.calls_perform read)
  intro frames
  exact Prog.calls_bind (Prog.calls_perform clear) fun _ => Prog.calls_pure _ _

end

section
variable {device : ReaderDevice} {α : Type}

theorem calls_own {op : BridgeOp} (h : op.captures) :
    (Prog.perform op : Bridge op.Answer).Calls BridgeOp.captures :=
  Prog.calls_perform h

theorem captures_of_polls {n : Nat} {op : BridgeOp} (h : op.polls n) : op.captures := by
  cases op with
  | store op => cases op <;> first | exact h.elim | trivial
  | _ => first | exact h.elim | trivial

theorem calls_polling {n : Nat} {op : BridgeOp} (h : op.polls n) :
    (Prog.perform op : Bridge op.Answer).Calls (BridgeOp.polls n) :=
  Prog.calls_perform h

theorem captures_of_silent {op : BridgeOp} (h : op.silent) : op.captures := by
  cases op <;> first | exact h.elim | exact h

theorem calls_silent {op : BridgeOp} (h : op.silent) :
    (Prog.perform op : Bridge op.Answer).Calls BridgeOp.silent :=
  Prog.calls_perform h

theorem captures_of_executes {op : BridgeOp} (h : op.executes) : op.captures := by
  cases op <;> first | exact h.elim | trivial

theorem calls_executing {op : BridgeOp} (h : op.executes) :
    (Prog.perform op : Bridge op.Answer).Calls BridgeOp.executes :=
  Prog.calls_perform h

theorem executes_isActive : isActive.Calls BridgeOp.executes := calls_isActive trivial trivial

theorem captures_isActive : isActive.Calls BridgeOp.captures := calls_isActive trivial trivial

theorem polls_captureTagFrame (n : Nat) (frame : RFIDFrame) :
    (captureTagFrame device frame).Calls (BridgeOp.polls n) := by
  apply Prog.calls_bind (Prog.calls_ofExcept _ _)
  intro _
  split
  · exact Prog.calls_pure _ _
  · split
    · exact Prog.calls_raise _ _
    · exact calls_polling trivial

theorem executes_captureTagFrame (frame : RFIDFrame) :
    (captureTagFrame device frame).Calls BridgeOp.executes := by
  apply Prog.calls_bind (Prog.calls_ofExcept _ _)
  intro _
  split
  · exact Prog.calls_pure _ _
  · split
    · exact Prog.calls_raise _ _
    · exact calls_executing trivial

theorem executes_scanBatch (wait : Handshake) (frames : List RFIDFrame) :
    (scanBatch device wait frames).Calls BridgeOp.executes := by
  induction frames with
  | nil => exact Prog.calls_pure _ _
  | cons frame frames ih =>
      apply Prog.calls_bind (Prog.calls_ofExcept _ _)
      intro _
      split
      · exact Prog.calls_bind (executes_captureTagFrame frame) fun _ => ih
      · split
        · exact ih
        · split
          · exact Prog.calls_raise _ _
          · exact Prog.calls_pure _ _

theorem executes_awaitResponse {wait : Handshake} {receiveBatch : Bridge (List RFIDFrame)}
    (h : receiveBatch.Calls BridgeOp.executes) (attempts : Nat) :
    (awaitResponse device wait receiveBatch attempts).Calls BridgeOp.executes := by
  induction attempts with
  | zero => exact Prog.calls_raise _ _
  | succ attempts ih =>
      apply Prog.calls_bind h
      intro frames
      apply Prog.calls_bind (executes_scanBatch wait frames)
      intro found
      cases found with
      | some frame => exact Prog.calls_pure _ _
      | none => exact ih

theorem executes_receive (connection : Nat) (expectedCommands : List UInt8) :
    (receive connection expectedCommands).Calls BridgeOp.executes :=
  calls_executing trivial

theorem executes_sessionReceive (expectedCommands : List UInt8) :
    (withSession fun connection => receive connection expectedCommands).Calls
      BridgeOp.executes :=
  calls_withSession trivial fun connection => executes_receive connection _

theorem executes_sessionSend (request : Bytes) (label : Option String) :
    (withSession fun connection => send connection request label).Calls BridgeOp.executes :=
  calls_withSession trivial fun _ => calls_executing trivial

theorem silent_forgetSession : forgetSession.Calls BridgeOp.silent :=
  Prog.calls_bind (calls_silent trivial) fun _ => calls_silent trivial

theorem executes_forgetSession : forgetSession.Calls BridgeOp.executes :=
  Prog.calls_bind (calls_executing trivial) fun _ => calls_executing nofun

theorem silent_close : close.Calls BridgeOp.silent := by
  apply Prog.calls_bind
  · refine Prog.calls_bind (calls_silent trivial) ?_
    intro session
    split
    · exact Prog.calls_pure _ _
    · exact calls_withSession trivial fun _ => calls_silent trivial
  · exact fun _ => silent_forgetSession

theorem executes_close : close.Calls BridgeOp.executes := by
  apply Prog.calls_bind
  · refine Prog.calls_bind (calls_executing trivial) ?_
    intro session
    split
    · exact Prog.calls_pure _ _
    · exact calls_withSession trivial fun _ => calls_executing trivial
  · exact fun _ => executes_forgetSession

theorem captures_close : close.Calls BridgeOp.captures :=
  executes_close.mono fun _ => captures_of_executes

theorem executes_verifyIdle : (verifyIdle device).Calls BridgeOp.executes := by
  apply Prog.calls_bind executes_isActive
  intro active
  split
  · exact Prog.calls_raise _ _
  · apply Prog.calls_bind (Prog.calls_ofExcept _ _)
    intro _
    refine Prog.calls_bind (calls_executing trivial) ?_
    intro connection
    apply Prog.calls_tryFinally
    · apply Prog.calls_bind (Prog.calls_ofExcept _ _)
      intro request
      refine Prog.calls_bind (calls_executing trivial) ?_
      intro _
      exact Prog.calls_bind (executes_awaitResponse (executes_receive connection _) 32) fun _ =>
        Prog.calls_pure _ _
    · exact calls_executing trivial

theorem executes_startInventory (connection : Nat) {sessionKey : String}
    (named : strip sessionKey ≠ "") :
    (startInventory device connection sessionKey).Calls BridgeOp.executes := by
  refine Prog.calls_bind (calls_executing trivial) ?_
  intro _
  apply Prog.calls_bind (Prog.calls_ofExcept _ _)
  intro request
  apply Prog.calls_bind (executes_sessionSend request (some sessionKey))
  intro _
  refine Prog.calls_bind (executes_awaitResponse (executes_sessionReceive _) 32) fun _ =>
    calls_executing ?_
  rintro _ ⟨⟩
  exact named

theorem executes_openAndStart {sessionKey : String} (named : strip sessionKey ≠ "") :
    (openAndStart device sessionKey).Calls BridgeOp.executes := by
  apply Prog.calls_bind (Prog.calls_ofExcept _ _)
  intro _
  refine calls_tryElse (calls_executing trivial) ?_ ?_
  · exact fun _ => Prog.calls_bind executes_forgetSession fun _ => Prog.calls_raise _ _
  · intro connection
    apply calls_tryElse (executes_startInventory connection named)
    · intro exc
      exact Prog.calls_bind (Prog.calls_tryFinally (calls_executing trivial) executes_forgetSession)
        fun _ => Prog.calls_raise _ _
    · exact fun _ => Prog.calls_pure _ _

theorem executes_start (sessionKey readerCode : String) :
    (PersistentActiveReaderExecutor.start device sessionKey readerCode).Calls
      BridgeOp.executes := by
  unfold PersistentActiveReaderExecutor.start
  split
  · exact Prog.calls_raise _ _
  split
  · exact Prog.calls_raise _ _
  apply Prog.calls_bind executes_isActive
  intro active
  split
  · refine Prog.calls_bind (calls_executing trivial) ?_
    intro activeKey
    split
    · exact Prog.calls_pure _ _
    · exact Prog.calls_raise _ _
  · exact executes_openAndStart (by rwa [strip_strip])

theorem executes_stop (sessionKey readerCode : String) :
    (PersistentActiveReaderExecutor.stop device sessionKey readerCode).Calls
      BridgeOp.executes := by
  unfold PersistentActiveReaderExecutor.stop
  split
  · exact Prog.calls_raise _ _
  apply Prog.calls_bind executes_isActive
  intro active
  split
  · exact Prog.calls_raise _ _
  refine Prog.calls_bind (calls_executing trivial) ?_
  intro activeKey
  split
  · exact Prog.calls_raise _ _
  · apply Prog.calls_tryFinally _ executes_close
    apply Prog.calls_bind (Prog.calls_ofExcept _ _)
    intro request
    apply Prog.calls_bind (executes_sessionSend request _)
    intro _
    exact Prog.calls_bind (executes_awaitResponse (executes_sessionReceive _) 32) fun _ =>
      Prog.calls_pure _ _

theorem captures_verifyIdle : (verifyIdle device).Calls BridgeOp.captures :=
  executes_verifyIdle.mono fun _ => captures_of_executes

theorem captures_start (sessionKey readerCode : String) :
    (PersistentActiveReaderExecutor.start device sessionKey readerCode).Calls BridgeOp.captures :=
  (executes_start sessionKey readerCode).mono fun _ => captures_of_executes

theorem captures_stop (sessionKey readerCode : String) :
    (PersistentActiveReaderExecutor.stop device sessionKey readerCode).Calls BridgeOp.captures :=
  (executes_stop sessionKey readerCode).mono fun _ => captures_of_executes

theorem polls_receiveTagFrames (n : Nat) :
    (receiveTagFrames device).Calls (BridgeOp.polls n) := by
  apply Prog.calls_bind
  · exact calls_withSession trivial fun connection =>
      @calls_polling n (.receive connection [commandActiveTag]) rfl
  · intro frames
    apply Prog.calls_bind
    · exact Prog.calls_forEach fun frame _ => polls_captureTagFrame n frame
    · exact fun _ => calls_takePendingTagFrames trivial trivial

theorem polls_pollTagFrames (n : Nat) : (pollTagFrames device).Calls (BridgeOp.polls n) := by
  apply Prog.calls_bind (calls_takePendingTagFrames trivial trivial)
  intro pending
  split
  · exact Prog.calls_pure _ _
  apply Prog.calls_bind (calls_isActive trivial trivial)
  intro active
  split
  · exact Prog.calls_pure _ _
  · exact polls_receiveTagFrames n

theorem polls_ingest (n : Nat) (sessionKey : Option String) (frames : List RFIDFrame) :
    (FinalCaptureService.ingest device sessionKey frames).Calls (BridgeOp.polls n) :=
  Prog.calls_bind (calls_polling trivial) fun _ => Prog.calls_pure _ _

theorem polls_captureRound (n : Nat) :
    (FinalCaptureService.captureRound device).Calls (BridgeOp.polls n) := by
  refine Prog.calls_bind (calls_polling trivial) ?_
  intro stopped
  split
  · exact Prog.calls_pure _ _
  · apply Prog.calls_bind
    · apply Prog.calls_bind (polls_pollTagFrames n)
      intro frames
      split
      · exact Prog.calls_bind (calls_polling trivial) fun sessionKey =>
          polls_ingest n sessionKey frames
      · exact calls_polling trivial
    · exact fun _ => Prog.calls_pure _ _

theorem polls_run (n : Nat) : (FinalCaptureService.run device).Calls (BridgeOp.polls n) := by
  refine Prog.calls_bind (calls_polling trivial) ?_
  intro _
  apply Prog.calls_tryFinally
  · exact calls_tryElse (calls_whileTrue trivial trivial (polls_captureRound n))
      (fun _ => calls_polling trivial) fun _ => Prog.calls_pure _ _
  · exact Prog.calls_bind (calls_polling trivial) fun _ => calls_polling trivial

theorem polls_threadMain (n : Nat) :
    (FinalCaptureService.threadMain device n).Calls (BridgeOp.polls n) := by
  refine Prog.calls_bind (calls_polling rfl) ?_
  intro _
  exact Prog.calls_handle (polls_run n) fun _ => calls_polling rfl

theorem captures_threadMain (n : Nat) :
    (FinalCaptureService.threadMain device n).Calls BridgeOp.captures :=
  (polls_threadMain n).mono fun _ => captures_of_polls

theorem captures_requireHealthy : FinalCaptureService.requireHealthy.Calls BridgeOp.captures := by
  refine Prog.calls_bind (calls_own trivial) ?_
  intro error
  cases error with
  | some error => exact Prog.calls_raise _ _
  | none => exact Prog.calls_pure _ _

theorem captures_isRunning : FinalCaptureService.isRunning.Calls BridgeOp.captures := by
  refine Prog.calls_bind (calls_own trivial) ?_
  intro thread
  cases thread with
  | some thread => exact calls_own trivial
  | none => exact Prog.calls_pure _ _

theorem captures_spawn (sessionKey : String) :
    (FinalCaptureService.spawn sessionKey).Calls BridgeOp.captures := by
  refine Prog.calls_bind (calls_own trivial) ?_
  intro _
  refine Prog.calls_bind (calls_own trivial) ?_
  intro _
  refine Prog.calls_bind (calls_own trivial) ?_
  intro _
  refine Prog.calls_bind (calls_own trivial) ?_
  intro thread
  exact Prog.calls_bind (calls_own trivial) fun _ => calls_own trivial

theorem captures_startCapture (sessionKey readerCode : String) :
    (FinalWorkerCycle.startCapture device sessionKey readerCode).Calls BridgeOp.captures := by
  unfold FinalWorkerCycle.startCapture FinalCaptureService.start
  split
  · exact Prog.calls_raise _ _
  split
  · exact Prog.calls_raise _ _
  apply Prog.calls_bind captures_isRunning
  intro running
  split
  · refine Prog.calls_bind (calls_own trivial) ?_
    intro owned
    split
    · exact Prog.calls_pure _ _
    · exact Prog.calls_raise _ _
  apply Prog.calls_bind captures_isActive
  intro active
  split
  · exact Prog.calls_raise _ _
  refine Prog.calls_bind (calls_own trivial) ?_
  intro activeKey
  split
  · exact Prog.calls_raise _ _
  · exact captures_spawn _

theorem silent_stopCapture (sessionKey readerCode : Option String) :
    (FinalWorkerCycle.stopCapture device sessionKey readerCode).Calls BridgeOp.silent := by
  unfold FinalWorkerCycle.stopCapture
  split
  · exact Prog.calls_raise _ _
  refine Prog.calls_bind (calls_silent trivial) ?_
  intro activeCaptureKey
  split
  · exact Prog.calls_raise _ _
  refine Prog.calls_bind (calls_silent trivial) ?_
  intro thread
  cases thread with
  | none => exact calls_silent trivial
  | some thread =>
      refine Prog.calls_bind (calls_silent trivial) ?_
      intro _
      refine Prog.calls_bind (calls_silent trivial) ?_
      intro _
      refine Prog.calls_bind (calls_silent trivial) ?_
      intro alive
      split
      · exact Prog.calls_raise _ _
      · exact Prog.calls_bind (calls_silent trivial) fun _ => calls_silent trivial

theorem captures_stopCapture (sessionKey readerCode : Option String) :
    (FinalWorkerCycle.stopCapture device sessionKey readerCode).Calls BridgeOp.captures :=
  (silent_stopCapture sessionKey readerCode).mono fun _ => captures_of_silent

theorem silent_drainPendingTags (sessionKey readerCode : String) :
    (FinalWorkerCycle.drainPendingTags device sessionKey readerCode).Calls BridgeOp.silent := by
  unfold FinalWorkerCycle.drainPendingTags
  split
  · exact Prog.calls_raise _ _
  apply Prog.calls_bind (calls_takePendingTagFrames trivial trivial)
  intro frames
  split
  · exact Prog.calls_pure _ _
  · exact Prog.calls_bind (calls_silent trivial) fun _ => Prog.calls_pure _ _

theorem captures_drainPendingTags (sessionKey readerCode : String) :
    (FinalWorkerCycle.drainPendingTags device sessionKey readerCode).Calls
      BridgeOp.captures :=
  (silent_drainPendingTags sessionKey readerCode).mono fun _ => captures_of_silent

theorem captures_shutdownActiveReader (sessionKey : String) :
    (Command.shutdownActiveReader device sessionKey).Calls BridgeOp.captures := by
  apply Prog.calls_bind
  · apply calls_tryElse
    · exact Prog.calls_bind (captures_stopCapture _ _) fun _ => captures_stop _ _
    · exact fun _ => Prog.calls_raise _ _
    · exact fun _ => Prog.calls_pure _ _
  intro _
  apply Prog.calls_bind
  · apply calls_tryElse (captures_drainPendingTags _ _)
    · exact fun _ => Prog.calls_raise _ _
    · exact fun _ => Prog.calls_pure _ _
  · exact fun _ => Prog.calls_pure _ _

theorem captures_safeShutdownReader :
    (Command.safeShutdownReader device).Calls BridgeOp.captures := by
  apply Prog.calls_bind captures_isActive
  intro active
  split
  · apply Prog.calls_bind (captures_stopCapture _ _)
    intro _
    exact Prog.calls_bind captures_close fun _ => Prog.calls_pure _ _
  · refine Prog.calls_bind (calls_own trivial) ?_
    intro activeKey
    split
    · exact Prog.calls_bind captures_close fun _ => Prog.calls_raise _ _
    · exact captures_shutdownActiveReader _

end
end RfidBridge
