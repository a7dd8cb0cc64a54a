import RfidBridge.Worker.CaptureAccount

/-!
What the control thread leaves alone of the accounts: everything but a START request, the start
of a capture thread and the draining of the buffer.
-/

namespace RfidBridge
open PersistentActiveReaderExecutor

/-- Operations of the control thread that leave the accounts alone. -/
def BridgeOp.offAccount : BridgeOp → Prop
  | .send _ request _ => requestCommand request ≠ some commandStartInventory
  | .writeRuntime _ | .readPendingTagFrames | .writeCaptureError _ | .startThread _
  | .threadEnds _ | .ack _ | .commandEntered _ | .commandReturned _ => False
  | .store (.ingestFinalActiveTagFrames ..) => False
  | _ => True

/-- Those that leave the executor alone, too. -/
def BridgeOp.offReader : BridgeOp → Prop
  | .writeSession _ | .writeActiveSessionKey _ | .appendPendingTagFrame _
  | .clearPendingTagFrames => False
  | op => op.offAccount

namespace Watch
variable {env : BridgeEnv} {t : Thread} {op : BridgeOp} {w w' : World}
  {answer : Except PyException op.Answer} {held : List RFIDFrame} {P P' : World → Prop}

theorem offAccount_of_offReader (off : op.offReader) : op.offAccount := by
  cases op <;> trivial

theorem law_of_off (off : op.offAccount) : WatchLaw env .control op w := by
  cases op with
  | store op' => cases op' <;> trivial
  | _ => first | exact off.elim | trivial

theorem kept_of_off (off : op.offAccount) (step : BridgeStep env .control op w answer w') :
    Kept env w w' := by
  apply kept_of_unrecorded op _ _ step
  · cases op with
    | send connection request label => exact beq_eq_false_iff_ne.mpr off
    | store op' => cases op' <;> first | rfl | exact off.elim
    | _ => first | exact off.elim | rfl
  · cases op <;> first | exact off.elim | rintro ⟨⟩

theorem placid_of_off (op : BridgeOp) {answer : Except PyException op.Answer} (off : op.offAccount)
    (step : BridgeStep env .control op w answer w') : Placid env w w' := by
  refine placid_of_kept (step.frame.1.runtime ?_) (step.frame.1.busy ?_)
    (step.frame.1.threads ?_) (kept_of_off off step)
  iterate 3 cases op <;> first | exact off.elim | rintro ⟨⟩

theorem calm_of_off (op : BridgeOp) {answer : Except PyException op.Answer} (off : op.offReader)
    (step : BridgeStep env .control op w answer w') : Calm env w w' := by
  refine ⟨placid_of_off op (offAccount_of_offReader off) step, step.frame.1.session ?_,
    step.frame.1.activeSessionKey ?_, fun _ => step.frame.1.pendingTagFrames ?_⟩
  iterate 3 cases op <;> first | exact off.elim | rintro ⟨⟩

/-- The control thread under the law of the accounts. -/
abbrev keeper (env : BridgeEnv) : Actor BridgeOp BridgeOp.Answer PyException World :=
  Actor.member (watchedExec env) (WatchLaw env) .control

abbrev Holds (P : World → Prop) : World → Prop := Actor.Under (fun _ => True) P

theorem controlActor : ControlActor env (keeper env) where
  steps _ _ _ _ step := step.1.1
  runtime w w' rely := by
    have stable : (keeper env).Stable fun w' => w'.runtime = w.runtime := by
      apply Actor.stable_member
      exact fun _ _ _ _ _ other step law h => (calm_of_others other law step.1).runtime.trans h
    exact stable w w' rfl rely

theorem lasts_calm (lasts : Actor.Lasts (Placid env) P) : Actor.Lasts (Calm env) P :=
  fun w w' calm => lasts w w' calm.toPlacid

theorem stable_holds (lasts : Actor.Lasts (Calm env) P) : (keeper env).Stable (Holds P) :=
  discipline.stable lasts

theorem stable_true (_ : PyException) : (keeper env).Stable fun _ => True :=
  fun _ _ _ _ => trivial

/-- An assertion about the runtime and the session of the account. -/
theorem lasts_label {S : Option String → LocalReaderRuntime → Prop} :
    Actor.Lasts (Placid env) fun w => S (accountAt env w).session w.runtime := by
  intro w w' placid h
  rw [placid.session, placid.runtime]
  exact h

theorem lasts_watched : Actor.Lasts (Placid env) (Watched env) := by
  intro w w' placid h none
  obtain before | settled := placid.ends none
  · exact accounts_of_kept (placid.rests before).2 (h before)
  · exact settled

theorem lasts_drained : Actor.Lasts (Calm env) (Drained env) := by
  intro w w' calm h
  obtain ⟨none, kept⟩ := calm.rests h.none
  exact ⟨none, accounts_of_kept kept h.accounts, (calm.buffer h.none).trans h.buffer⟩

section
variable {α : Type} {p : Bridge α}

theorem keeps_placid (lasts : Actor.Lasts (Placid env) P) (calls : p.Calls BridgeOp.offAccount) :
    (keeper env).Keeps (Holds P) p := by
  refine Actor.keeps_of_calls (stable_holds (lasts_calm lasts)) ?_ calls
  intro op w answer w' off h step
  exact ⟨⟨op, answer, step, law_of_off off⟩, trivial,
    lasts w w' (placid_of_off op off step.1.1) h.2⟩

theorem triple_placid (lasts : Actor.Lasts (Placid env) P)
    (calls : p.Calls BridgeOp.offAccount) :
    (keeper env).Triple (Holds P) p (fun _ => Holds P) fun _ _ => True :=
  (keeps_placid lasts calls).triple.conseq (fun _ => id) (fun _ _ => id) fun _ _ _ => trivial

theorem triple_placidOp (op : BridgeOp) (off : op.offAccount)
    (lasts : Actor.Lasts (Placid env) P) :
    (keeper env).Triple (Holds P) (Prog.perform op : Bridge op.Answer) (fun _ => Holds P)
      fun _ _ => True :=
  triple_placid lasts (Prog.calls_perform off)

theorem harmless_of_off (op : BridgeOp) (off : op.offReader) :
    Harmless (watchedExec env) (WatchLaw env) (Calm env) op :=
  fun _ _ _ step => ⟨law_of_off (offAccount_of_offReader off), calm_of_off op off step.1.1⟩

theorem keeps_off (lasts : Actor.Lasts (Calm env) P) (calls : p.Calls BridgeOp.offReader) :
    (keeper env).Keeps (Holds P) p :=
  keeps_harmless discipline lasts (calls.mono harmless_of_off)

theorem triple_off (lasts : Actor.Lasts (Calm env) P) (calls : p.Calls BridgeOp.offReader) :
    (keeper env).Triple (Holds P) p (fun _ => Holds P) fun _ _ => True :=
  (keeps_off lasts calls).triple.conseq (fun _ => id) (fun _ _ => id) fun _ _ _ => trivial

theorem triple_offOp (op : BridgeOp) (off : op.offReader) (lasts : Actor.Lasts (Calm env) P) :
    (keeper env).Triple (Holds P) (Prog.perform op : Bridge op.Answer) (fun _ => Holds P)
      fun _ _ => True :=
  triple_off lasts (Prog.calls_perform off)

/-- A part behind which nothing is asked. -/
theorem triple_lawful (calls : p.Calls BridgeOp.offAccount) :
    (keeper env).Triple (fun _ => True) p (fun _ _ => True) fun _ _ => True :=
  (triple_placid Actor.lasts_true calls).conseq (fun _ _ => ⟨trivial, trivial⟩)
    (fun _ _ _ => trivial) fun _ _ => id

end

section
variable {device : ReaderDevice} {allowed : BridgeOp → Prop}

theorem calls_captureTagFrame (append : ∀ frame, allowed (.appendPendingTagFrame frame))
    (frame : RFIDFrame) : (captureTagFrame device frame).Calls allowed := by
  apply Prog.calls_bind (Prog.calls_ofExcept _ _)
  intro _
  split
  · exact Prog.calls_pure _ _
  split
  · exact Prog.calls_raise _ _
  · exact Prog.calls_perform (append frame)

theorem calls_scanBatch (append : ∀ frame, allowed (.appendPendingTagFrame frame))
    (wait : Handshake) (frames : List RFIDFrame) :
    (scanBatch device wait frames).Calls allowed := by
  induction frames with
  | nil => exact Prog.calls_pure _ _
  | cons frame frames ih =>
      apply Prog.calls_bind (Prog.calls_ofExcept _ _)
      intro _
      split
      · exact Prog.calls_bind (calls_captureTagFrame append frame) fun _ => ih
      split
      · exact ih
      split
      · exact Prog.calls_raise _ _
      · exact Prog.calls_pure _ _

theorem calls_awaitResponse (append : ∀ frame, allowed (.appendPendingTagFrame frame))
    {wait : Handshake} {receiveBatch : Bridge (List RFIDFrame)}
    (h : receiveBatch.Calls allowed) (attempts : Nat) :
    (awaitResponse device wait receiveBatch attempts).Calls allowed := by
  induction attempts with
  | zero => exact Prog.calls_raise _ _
  | succ attempts ih =>
      apply Prog.calls_bind h
      intro frames
      apply Prog.calls_bind (calls_scanBatch append wait frames)
      intro found
      cases found with
      | some frame => exact Prog.calls_pure _ _
      | none => exact ih

theorem offAccount_sessionReceive (expectedCommands : List UInt8) :
    (withSession fun connection => receive connection expectedCommands).Calls
      BridgeOp.offAccount :=
  calls_withSession trivial fun _ => Prog.calls_perform trivial

theorem offAccount_closeOpenSession : closeOpenSession.Calls BridgeOp.offAccount := by
  apply Prog.calls_bind (Prog.calls_perform trivial)
  intro session
  split
  · exact Prog.calls_pure _ _
  · exact calls_withSession trivial fun _ => Prog.calls_perform trivial

theorem offAccount_forgetSession : forgetSession.Calls BridgeOp.offAccount :=
  Prog.calls_bind (Prog.calls_perform trivial) fun _ => Prog.calls_perform trivial

theorem offAccount_close : close.Calls BridgeOp.offAccount :=
  Prog.calls_bind offAccount_closeOpenSession fun _ => offAccount_forgetSession

/-- A STOP request is no START. -/
theorem offAccount_sendStop {request : Bytes} (built : stopRequest device = .ok request)
    (connection : Nat) (label : Option String) :
    BridgeOp.offAccount (.send connection request label) := by
  rw [BridgeOp.offAccount, requestCommand_of_build built]
  decide

theorem offAccount_stopInventory (sessionKey : String) :
    (stopInventory device sessionKey).Calls BridgeOp.offAccount := by
  change (Prog.bind (Prog.ofExcept (stopRequest device)) _).Calls _
  cases built : stopRequest device with
  | error exc => exact Prog.calls_raise _ _
  | ok request =>
      change (Prog.bind (withSession _) _).Calls _
      refine Prog.calls_bind (calls_withSession trivial fun connection => ?_) fun _ => ?_
      · exact Prog.calls_perform (offAccount_sendStop built connection _)
      · exact Prog.calls_bind (calls_awaitResponse (fun _ => trivial)
          (offAccount_sessionReceive _) 32) fun _ => Prog.calls_pure _ _

theorem offAccount_isActive : isActive.Calls BridgeOp.offAccount := calls_isActive trivial trivial

theorem offAccount_stop (sessionKey readerCode : String) :
    (PersistentActiveReaderExecutor.stop device sessionKey readerCode).Calls
      BridgeOp.offAccount := by
  unfold PersistentActiveReaderExecutor.stop
  split
  · exact Prog.calls_raise _ _
  apply Prog.calls_bind offAccount_isActive
  intro active
  split
  · exact Prog.calls_raise _ _
  refine Prog.calls_bind (Prog.calls_perform trivial) ?_
  intro activeKey
  split
  · exact Prog.calls_raise _ _
  · exact Prog.calls_tryFinally (offAccount_stopInventory _) offAccount_close

theorem offAccount_verifyStopped (connection : Nat) :
    (verifyStopped device connection).Calls BridgeOp.offAccount := by
  change (Prog.bind (Prog.ofExcept (stopRequest device)) _).Calls _
  cases built : stopRequest device with
  | error exc => exact Prog.calls_raise _ _
  | ok request =>
      change (Prog.bind (send connection request none) _).Calls _
      apply Prog.calls_bind (Prog.calls_perform (offAccount_sendStop built connection none))
      exact fun _ => Prog.calls_bind (calls_awaitResponse (fun _ => trivial)
        (Prog.calls_perform trivial) 32) fun _ => Prog.calls_pure _ _

theorem offAccount_verifyIdle : (verifyIdle device).Calls BridgeOp.offAccount := by
  apply Prog.calls_bind offAccount_isActive
  intro active
  split
  · exact Prog.calls_raise _ _
  apply Prog.calls_bind (Prog.calls_ofExcept _ _)
  intro _
  refine Prog.calls_bind (Prog.calls_perform trivial) ?_
  exact fun connection =>
    Prog.calls_tryFinally (offAccount_verifyStopped connection) (Prog.calls_perform trivial)

theorem offAccount_stopCapture (sessionKey readerCode : Option String) :
    (FinalWorkerCycle.stopCapture device sessionKey readerCode).Calls BridgeOp.offAccount := by
  unfold FinalWorkerCycle.stopCapture
  split
  · exact Prog.calls_raise _ _
  refine Prog.calls_bind (Prog.calls_perform trivial) ?_
  intro activeCaptureKey
  split
  · exact Prog.calls_raise _ _
  refine Prog.calls_bind (Prog.calls_perform trivial) ?_
  intro thread
  cases thread with
  | none => exact Prog.calls_perform trivial
  | some thread =>
      refine Prog.calls_bind (Prog.calls_perform trivial) ?_
      intro _
      refine Prog.calls_bind (Prog.calls_perform trivial) ?_
      intro _
      refine Prog.calls_bind (Prog.calls_perform trivial) ?_
      intro alive
      split
      · exact Prog.calls_raise _ _
      · exact Prog.calls_bind (Prog.calls_perform trivial) fun _ => Prog.calls_perform trivial

end

end Watch
end RfidBridge
