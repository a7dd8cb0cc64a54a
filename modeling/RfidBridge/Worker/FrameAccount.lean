import RfidBridge.Worker.System

/-!
The account of the tag frames, read off the history: what the executor's buffer
handed out since the last START request, what of it was ingested, and whether a
capture thread failed meanwhile.
-/

namespace RfidBridge

structure FrameAccount where
  /-- The session for which the last START request was sent. -/
  session : Option String := none
  handed : List RFIDFrame := []
  ingested : List RFIDFrame := []
  failed : Bool := false

/-- A frame that _capture_tag_frame refuses. -/
def refused (device : ReaderDevice) (frame : RFIDFrame) : Bool :=
  frame.address.toNat != device.deviceAddress ||
    (frame.command == commandActiveTag && frame.status != 0)

def Entry.record (device : ReaderDevice) (a : FrameAccount) : Entry → FrameAccount
  | ⟨_, .send _ request label, _⟩ =>
      if requestCommand request = some commandStartInventory then { session := label } else a
  | ⟨_, .readPendingTagFrames, .ok frames⟩ => { a with handed := a.handed ++ frames }
  | ⟨_, .store (.ingestFinalActiveTagFrames _ _ frames), .ok _⟩ =>
      { a with ingested := a.ingested ++ frames }
  | ⟨.capture _, .store (.ingestFinalActiveTagFrames ..), .error _⟩
  | ⟨.capture _, .receive .., .error _⟩
  | ⟨.capture _, .writeCaptureError (some _), _⟩ => { a with failed := true }
  | ⟨.capture _, .receive .., .ok frames⟩ =>
      { a with failed := a.failed || frames.any (refused device) }
  | _ => a

/-- The account of a history. -/
def account (device : ReaderDevice) : List Entry → FrameAccount
  | [] => {}
  | entry :: older => entry.record device (account device older)

/-- Everything that was handed out was ingested, and no capture thread failed. -/
structure FrameAccount.Balanced (a : FrameAccount) : Prop where
  ingested : a.handed = a.ingested
  sound : a.failed = false

/-- The operations of a thread that the account records. -/
def BridgeOp.recorded : Thread → BridgeOp → Bool
  | _, .send _ request _ => requestCommand request == some commandStartInventory
  | _, .readPendingTagFrames | _, .store (.ingestFinalActiveTagFrames ..) => true
  | .capture _, .receive .. | .capture _, .writeCaptureError _ => true
  | _, _ => false

theorem record_of_unrecorded {device : ReaderDevice} {a : FrameAccount} {t : Thread}
    {op : BridgeOp} {answer : Except PyException op.Answer} (h : op.recorded t = false) :
    Entry.record device a ⟨t, op, answer⟩ = a := by
  unfold Entry.record
  split <;> simp_all [BridgeOp.recorded]

theorem account_of_step {env : BridgeEnv} {t : Thread} {op : BridgeOp} {w w' : World}
    {answer : Except PyException op.Answer} (step : BridgeStep env t op w answer w') :
    account env.device w'.trace =
      Entry.record env.device (account env.device w.trace) ⟨t, op, answer⟩ := by
  rw [step.frame.2]
  rfl

end RfidBridge
