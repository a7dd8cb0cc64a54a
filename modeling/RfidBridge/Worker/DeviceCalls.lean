import RfidBridge.Worker.ControlCalls

/-!
Whatever a thread of the process ingests, it ingests for the reader of the process.
-/

namespace RfidBridge
open PersistentActiveReaderExecutor

/-- Final ingestion is for this reader. -/
def BridgeOp.ingestsFor (device : ReaderDevice) : BridgeOp → Prop
  | .store (.ingestFinalActiveTagFrames owner _ _) => owner = device
  | _ => True

section
variable {device : ReaderDevice}

theorem ingestsFor_of_executes {op : BridgeOp} (h : op.executes) : op.ingestsFor device := by
  cases op with
  | store _ => exact h.elim
  | _ => trivial

theorem ingestsFor_of_delivers {op : BridgeOp} (h : op.delivers) : op.ingestsFor device := by
  cases op with
  | store op =>
      obtain ⟨-, passes | routine⟩ := h
      · cases op <;> trivial
      · cases op <;> trivial
  | _ => trivial

theorem calls_free (op : BridgeOp) (h : op.ingestsFor device) :
    (Prog.perform op : Bridge op.Answer).Calls (BridgeOp.ingestsFor device) :=
  Prog.calls_perform h

theorem ingestsFor_executing {α : Type} {p : Bridge α} (h : p.Calls BridgeOp.executes) :
    p.Calls (BridgeOp.ingestsFor device) :=
  h.mono fun _ => ingestsFor_of_executes

theorem ingestsFor_ingest (sessionKey : Option String) (frames : List RFIDFrame) :
    (FinalCaptureService.ingest device sessionKey frames).Calls (BridgeOp.ingestsFor device) :=
  Prog.calls_bind (calls_free _ rfl) fun _ => Prog.calls_pure _ _

theorem ingestsFor_startCapture (sessionKey readerCode : String) :
    (FinalWorkerCycle.startCapture device sessionKey readerCode).Calls
      (BridgeOp.ingestsFor device) := by
  unfold FinalWorkerCycle.startCapture FinalCaptureService.start FinalCaptureService.spawn
  split
  · exact Prog.calls_raise _ _
  split
  · exact Prog.calls_raise _ _
  apply Prog.calls_bind
  · refine Prog.calls_bind (calls_free .readCaptureThread trivial) ?_
    intro thread
    cases thread with
    | some thread => exact calls_free (.threadIsAlive thread) trivial
    | none => exact Prog.calls_pure _ _
  intro running
  split
  · refine Prog.calls_bind (calls_free .readCaptureSessionKey trivial) ?_
    intro owned
    split
    · exact Prog.calls_pure _ _
    · exact Prog.calls_raise _ _
  apply Prog.calls_bind (ingestsFor_executing executes_isActive)
  intro active
  split
  · exact Prog.calls_raise _ _
  refine Prog.calls_bind (calls_free .readActiveSessionKey trivial) ?_
  intro activeKey
  split
  · exact Prog.calls_raise _ _
  refine Prog.calls_bind (calls_free .clearStopEvent trivial) fun _ => ?_
  refine Prog.calls_bind (calls_free (.writeCaptureError none) trivial) fun _ => ?_
  refine Prog.calls_bind (calls_free (.writeCaptureSessionKey _) trivial) fun _ => ?_
  refine Prog.calls_bind (calls_free .newThread trivial) fun thread => ?_
  refine Prog.calls_bind (calls_free (.writeCaptureThread _) trivial) fun _ => ?_
  exact calls_free (.startThread thread) trivial

theorem ingestsFor_stopCapture (sessionKey readerCode : Option String) :
    (FinalWorkerCycle.stopCapture device sessionKey readerCode).Calls
      (BridgeOp.ingestsFor device) := by
  unfold FinalWorkerCycle.stopCapture
  split
  · exact Prog.calls_raise _ _
  refine Prog.calls_bind (calls_free .readCaptureSessionKey trivial) ?_
  intro activeCaptureKey
  split
  · exact Prog.calls_raise _ _
  refine Prog.calls_bind (calls_free .readCaptureThread trivial) ?_
  intro thread
  cases thread with
  | none => exact calls_free (.writeCaptureSessionKey none) trivial
  | some thread =>
      refine Prog.calls_bind (calls_free .setStopEvent trivial) fun _ => ?_
      refine Prog.calls_bind (calls_free (.joinThread thread) trivial) fun _ => ?_
      refine Prog.calls_bind (calls_free (.threadIsAlive thread) trivial) fun alive => ?_
      split
      · exact Prog.calls_raise _ _
      · exact Prog.calls_bind (calls_free (.writeCaptureThread none) trivial)
          fun _ => calls_free (.writeCaptureSessionKey none) trivial

theorem ingestsFor_drainPendingTags (sessionKey readerCode : String) :
    (FinalWorkerCycle.drainPendingTags device sessionKey readerCode).Calls
      (BridgeOp.ingestsFor device) := by
  unfold FinalWorkerCycle.drainPendingTags
  split
  · exact Prog.calls_raise _ _
  apply Prog.calls_bind (calls_takePendingTagFrames trivial trivial)
  intro frames
  split
  · exact Prog.calls_pure _ _
  · exact ingestsFor_ingest _ _

theorem ingestsFor_requireHealthy :
    FinalCaptureService.requireHealthy.Calls (BridgeOp.ingestsFor device) := by
  refine Prog.calls_bind (calls_free .readCaptureError trivial) ?_
  intro error
  cases error with
  | some error => exact Prog.calls_raise _ _
  | none => exact Prog.calls_pure _ _

theorem ingestsFor_collaborators :
    CollaboratorCalls (BridgeOp.ingestsFor device) (FinalWorkerCycle.collaborators device) where
  readRuntime := calls_free _ trivial
  writeRuntime _ := calls_free _ trivial
  heartbeat _ := calls_free _ trivial
  commands := calls_free _ trivial
  ack _ := calls_free _ trivial
  synchronizeStartCommand _ := calls_free (.store _) trivial
  closeLocalSession _ _ :=
    Prog.calls_bind (calls_free (.store _) trivial) fun _ => Prog.calls_pure _ _
  cancelLocalSession _ _ :=
    Prog.calls_bind (calls_free (.store _) trivial) fun _ => Prog.calls_pure _ _
  readerStart _ _ := ingestsFor_executing (executes_start _ _)
  readerStop _ _ := ingestsFor_executing (executes_stop _ _)
  readerVerifyIdle := ingestsFor_executing executes_verifyIdle
  readerIsActive := ingestsFor_executing executes_isActive
  afterReaderStart := by
    rintro _ ⟨⟩
    exact ingestsFor_startCapture
  beforeReaderStop := by
    rintro _ ⟨⟩
    exact fun _ _ => ingestsFor_stopCapture _ _
  beforeSessionClose := by
    rintro _ ⟨⟩
    exact ingestsFor_drainPendingTags
  beforeSuccessAck := by
    rintro _ ⟨⟩ sessionKey readerCode
    unfold FinalWorkerCycle.requireStopDeliveryComplete
    split
    · exact Prog.calls_raise _ _
    · exact Prog.calls_bind (calls_requireFinalSessionDeliveryComplete fun _ _ =>
        calls_free (.store _) trivial) fun _ => Prog.calls_pure _ _

theorem ingestsFor_command : CommandCalls (BridgeOp.ingestsFor device) device where
  collaborators := ingestsFor_collaborators
  requireHealthy := ingestsFor_requireHealthy
  stopCapture := ingestsFor_stopCapture
  drainPendingTags := ingestsFor_drainPendingTags
  close := ingestsFor_executing executes_close
  readActiveSessionKey := trivial
  countActiveSessions := trivial
  marks _ := ⟨trivial, trivial⟩
  sleep := trivial
  rounds := trivial
  beyond := trivial

theorem ingestsFor_pollTagFrames :
    (pollTagFrames device).Calls (BridgeOp.ingestsFor device) := by
  apply Prog.calls_bind (calls_takePendingTagFrames trivial trivial)
  intro pending
  split
  · exact Prog.calls_pure _ _
  apply Prog.calls_bind (ingestsFor_executing executes_isActive)
  intro active
  split
  · exact Prog.calls_pure _ _
  apply Prog.calls_bind (ingestsFor_executing (executes_sessionReceive _))
  intro frames
  apply Prog.calls_bind
  · exact Prog.calls_forEach fun frame _ => ingestsFor_executing (executes_captureTagFrame frame)
  · exact fun _ => calls_takePendingTagFrames trivial trivial

theorem ingestsFor_captureRound :
    (FinalCaptureService.captureRound device).Calls (BridgeOp.ingestsFor device) := by
  refine Prog.calls_bind (calls_free .stopEventIsSet trivial) ?_
  intro stopped
  split
  · exact Prog.calls_pure _ _
  apply Prog.calls_bind
  · apply Prog.calls_bind ingestsFor_pollTagFrames
    intro frames
    split
    · exact Prog.calls_bind (calls_free .readCaptureSessionKey trivial) fun key =>
        ingestsFor_ingest key frames
    · exact calls_free .sleep trivial
  · exact fun _ => Prog.calls_pure _ _

theorem ingestsFor_threadMain (n : Nat) :
    (FinalCaptureService.threadMain device n).Calls (BridgeOp.ingestsFor device) := by
  refine Prog.calls_bind (calls_free (.threadBegins n) trivial) ?_
  intro _
  apply Prog.calls_handle
  · refine Prog.calls_bind (calls_free .closeOldConnections trivial) ?_
    intro _
    apply Prog.calls_tryFinally
    · exact calls_tryElse (calls_whileTrue trivial trivial ingestsFor_captureRound)
        (fun exc => calls_free (.writeCaptureError (some exc)) trivial) fun _ => Prog.calls_pure _ _
    · exact Prog.calls_bind (calls_free .setStopEvent trivial)
        fun _ => calls_free .closeOldConnections trivial
  · exact fun _ => calls_free (.threadEnds n) trivial

end

/-- In every run, each thread ingests for the reader of the process. -/
theorem ingestsFor_of_run {env : BridgeEnv} {settings : CommandSettings} {c₀ c : BridgePool}
    (started : Started env settings c₀) (run : BridgeSteps env c₀ c) :
    c.Within fun _ => BridgeOp.ingestsFor env.device := by
  have bodies (t : Thread) (p : Bridge Unit) (body : BridgeBody env t p) :
      p.Calls (BridgeOp.ingestsFor env.device) := by
    cases body with
    | capture n => exact ingestsFor_threadMain n
    | delivery n settings =>
        exact (delivers_deliveryCycle settings).mono fun _ => ingestsFor_of_delivers
    | reader => exact calls_free .processRequest trivial
  have init : c₀.Within fun _ => BridgeOp.ingestsFor env.device := by
    intro t
    by_cases main : t = .control
    · subst main
      rw [started.control]
      exact ingestsFor_command.handle _ _
    · rw [started.idle t main]
      exact Prog.calls_pure _ _
  exact (Pool.invariant_of_allowed (I := fun _ => True) bodies
    (fun _ _ _ _ _ _ _ _ => trivial) init trivial run).1

end RfidBridge
