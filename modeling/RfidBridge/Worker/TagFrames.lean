import RfidBridge.Worker.System

/-!
The tag frames of the executor. Whatever a receive hands over is returned later or is
still buffered, except for the tag frames of a batch behind the response that ends a
wait: these are dropped with the rest of the batch.
-/

namespace RfidBridge
open PersistentActiveReaderExecutor

/-- A tag frame that reports no failure. -/
def isTagFrame (frame : RFIDFrame) : Bool :=
  frame.command == commandActiveTag && frame.status == 0

/-- The batch that an operation handed to the executor, with the commands it expected. -/
def Entry.batch : Entry → Option (List UInt8 × List RFIDFrame)
  | ⟨_, .receive _ expectedCommands, .ok frames⟩ => some (expectedCommands, frames)
  | _ => none

/-- The batches of a history, the oldest first. -/
def batches (trace : List Entry) : List (List UInt8 × List RFIDFrame) :=
  trace.reverse.filterMap Entry.batch

/-- The frames in front of the first response of a batch. -/
def inFront (expectedCommands : List UInt8) (frames : List RFIDFrame) : List RFIDFrame :=
  frames.takeWhile fun frame =>
    frame.command == commandActiveTag || !expectedCommands.contains frame.command

/-- The first response of a batch and what is behind it. -/
def fromResponse (expectedCommands : List UInt8) (frames : List RFIDFrame) : List RFIDFrame :=
  frames.dropWhile fun frame =>
    frame.command == commandActiveTag || !expectedCommands.contains frame.command

def tagFramesOf (batches : List (List UInt8 × List RFIDFrame)) : List RFIDFrame :=
  batches.flatMap fun batch => batch.2.filter isTagFrame

def tagFramesInFront (batches : List (List UInt8 × List RFIDFrame)) : List RFIDFrame :=
  batches.flatMap fun batch => (inFront batch.1 batch.2).filter isTagFrame

/-- No batch has a tag frame behind the response that ends the wait for it. -/
def NoneBehind (batches : List (List UInt8 × List RFIDFrame)) : Prop :=
  ∀ batch ∈ batches, ∀ frame ∈ fromResponse batch.1 batch.2, isTagFrame frame = false

theorem inFront_append_fromResponse (expectedCommands : List UInt8) (frames : List RFIDFrame) :
    inFront expectedCommands frames ++ fromResponse expectedCommands frames = frames :=
  List.takeWhile_append_dropWhile

theorem filter_isTagFrame (expectedCommands : List UInt8) (frames : List RFIDFrame) :
    frames.filter isTagFrame = (inFront expectedCommands frames).filter isTagFrame ++
      (fromResponse expectedCommands frames).filter isTagFrame := by
  rw [← List.filter_append, inFront_append_fromResponse]

theorem length_tagFramesInFront_le (batches : List (List UInt8 × List RFIDFrame)) :
    (tagFramesInFront batches).length ≤ (tagFramesOf batches).length := by
  induction batches with
  | nil => simp [tagFramesInFront, tagFramesOf]
  | cons batch batches ih =>
      have split := filter_isTagFrame batch.1 batch.2
      simp only [tagFramesInFront, tagFramesOf] at ih
      simp only [tagFramesInFront, tagFramesOf, List.flatMap_cons, List.length_append, split]
      omega

/-- The tag frames in front are all of them exactly when none are behind. -/
theorem tagFramesInFront_eq_iff (batches : List (List UInt8 × List RFIDFrame)) :
    tagFramesInFront batches = tagFramesOf batches ↔ NoneBehind batches := by
  induction batches with
  | nil => simp [tagFramesInFront, tagFramesOf, NoneBehind]
  | cons batch batches ih =>
      have shorter := length_tagFramesInFront_le batches
      have behind : (fromResponse batch.1 batch.2).filter isTagFrame = [] ↔
          ∀ frame ∈ fromResponse batch.1 batch.2, isTagFrame frame = false := by
        simp
      rw [NoneBehind, List.forall_mem_cons, ← behind, ← NoneBehind, ← ih]
      simp only [tagFramesInFront, tagFramesOf, List.flatMap_cons] at shorter ⊢
      rw [filter_isTagFrame batch.1 batch.2, List.append_assoc, List.append_cancel_left_eq]
      constructor
      · intro same
        have lengths := congrArg List.length same
        rw [List.length_append] at lengths
        have none : (fromResponse batch.1 batch.2).filter isTagFrame = [] :=
          List.length_eq_zero_iff.mp (by omega)
        rw [none, List.nil_append] at same
        exact ⟨none, same⟩
      · rintro ⟨none, same⟩
        rw [none, List.nil_append, same]

/-- Calls of the executor that read tag frames or change whether there are any. -/
inductive ExecutorCall
  | start (sessionKey readerCode : String)
  | pollTagFrames
  | stop (sessionKey readerCode : String)
  | takePendingTagFrames

/-- The program of a call, with the tag frames it returns. -/
def ExecutorCall.program (device : ReaderDevice) : ExecutorCall → Bridge (List RFIDFrame)
  | .start sessionKey readerCode =>
      (PersistentActiveReaderExecutor.start device sessionKey readerCode).bind fun _ => .ret []
  | .pollTagFrames => PersistentActiveReaderExecutor.pollTagFrames device
  | .stop sessionKey readerCode =>
      (PersistentActiveReaderExecutor.stop device sessionKey readerCode).bind fun _ => .ret []
  | .takePendingTagFrames => PersistentActiveReaderExecutor.takePendingTagFrames

/-- Calls one after another in one thread, none of which raises, with everything that
they return. -/
inductive ExecutorRun (env : BridgeEnv) : World → List ExecutorCall → List RFIDFrame → World → Prop
  | nil {w} : ExecutorRun env w [] [] w
  | cons {w w' w'' call calls frames rest} :
      (call.program env.device).Runs (BridgeStep env .control) w (.ok frames) w' →
      ExecutorRun env w' calls rest w'' → ExecutorRun env w (call :: calls) (frames ++ rest) w''

/-- One thread of the executor, with nobody beside it. -/
abbrev executorAlone (env : BridgeEnv) : Actor BridgeOp BridgeOp.Answer PyException World :=
  .alone (BridgeStep env .control)

/-- Every tag frame in front of a response has been returned, is buffered, or is in the
part of the current batch that has not been looked at. -/
def Kept (returned current : List RFIDFrame) (w : World) : Prop :=
  tagFramesInFront (batches w.trace) =
    returned ++ w.executor.pendingTagFrames ++ current.filter isTagFrame

/-- What the operation handed over, or put in or took from the buffer. -/
def BridgeOp.movesFrames : BridgeOp → Bool
  | .receive .. | .appendPendingTagFrame _ | .clearPendingTagFrames => true
  | _ => false

namespace Kept
variable {env : BridgeEnv} {returned current : List RFIDFrame} {α : Type}

theorem batches_log (entry : Entry) (trace : List Entry) :
    batches (entry :: trace) = batches trace ++ entry.batch.toList := by
  simp only [batches, List.reverse_cons, List.filterMap_append, List.filterMap_cons,
    List.filterMap_nil]
  cases entry.batch <;> rfl

theorem tagFramesInFront_append (first rest : List (List UInt8 × List RFIDFrame)) :
    tagFramesInFront (first ++ rest) = tagFramesInFront first ++ tagFramesInFront rest :=
  List.flatMap_append

theorem kept_of_step {op : BridgeOp} {answer : Except PyException op.Answer} {w w' : World}
    (still : op.movesFrames = false) (step : BridgeStep env .control op w answer w')
    (kept : Kept returned current w) : Kept returned current w' := by
  obtain ⟨frame, trace⟩ := step.frame
  have noBatch : (⟨.control, op, answer⟩ : Entry).batch = none := by
    cases op <;> first | rfl | cases still
  have pending : w'.executor.pendingTagFrames = w.executor.pendingTagFrames := by
    apply frame.pendingTagFrames
    cases op <;> simp_all [BridgeOp.movesFrames, BridgeOp.writes]
  rw [Kept, trace, batches_log, noBatch, pending]
  simpa [Kept] using kept

/-- Operations that do not move frames. -/
theorem keeps_kept {op : BridgeOp} (still : op.movesFrames = false) :
    (executorAlone env).Keeps (Kept returned current) (Prog.perform op) := by
  apply Actor.keeps_perform Actor.stable_alone
  intro w answer w' kept step
  exact ⟨trivial, kept_of_step still step kept⟩

theorem keeps_withSession {f : Nat → Bridge α}
    (hf : ∀ connection, (executorAlone env).Keeps (Kept returned current) (f connection)) :
    (executorAlone env).Keeps (Kept returned current) (withSession f) := by
  apply Actor.keeps_bind Actor.stable_alone (keeps_kept rfl)
  intro session
  cases session with
  | some connection => exact hf connection
  | none => exact Actor.keeps_raise Actor.stable_alone _

theorem keeps_isActive : (executorAlone env).Keeps (Kept returned current) isActive := by
  apply Actor.keeps_bind Actor.stable_alone (keeps_kept rfl)
  intro session
  split
  · exact Actor.keeps_ret Actor.stable_alone _
  · exact Actor.keeps_bind Actor.stable_alone (keeps_kept rfl) fun _ =>
      Actor.keeps_ret Actor.stable_alone _

/-- A receive hands over a batch that is looked at next. -/
theorem kept_receive {connection : Nat} {expectedCommands : List UInt8} {w : World}
    (kept : Kept returned [] w) :
    (executorAlone env).Sat (receive connection expectedCommands)
      (Actor.ends (fun frames => Kept returned (inFront expectedCommands frames))
        fun _ _ => True) w := by
  apply Actor.Sat.perform
  rintro _ rfl answer w' step
  refine ⟨trivial, ?_⟩
  rintro _ rfl
  cases answer with
  | error exc => trivial
  | ok frames =>
      obtain ⟨frame, trace⟩ := step.frame
      have pending := frame.pendingTagFrames nofun
      have handed : (⟨.control, .receive connection expectedCommands, .ok frames⟩ : Entry).batch =
        some (expectedCommands, frames) := rfl
      change Kept returned _ w'
      rw [Kept, trace, batches_log, handed, tagFramesInFront_append, kept, pending]
      simp [tagFramesInFront]

/-- The postcondition of a call that keeps its frames, or raises. -/
abbrev keptThen (Q : α → World → Prop) : Except PyException α → World → Prop :=
  Actor.ends Q fun _ _ => True

/-- `p; q` where nothing is promised when `p` raises. -/
theorem sat_bind {β : Type} {p : Bridge α} {f : α → Bridge β} {P : α → World → Prop}
    {Q : β → World → Prop} {w : World} (hp : (executorAlone env).Sat p (keptThen P) w)
    (hf : ∀ value w, P value w → (executorAlone env).Sat (f value) (keptThen Q) w) :
    (executorAlone env).Sat (p.bind f) (keptThen Q) w :=
  Actor.Sat.seq (fun _ _ _ _ _ => trivial) hp hf

theorem sat_ret {value : α} {Q : α → World → Prop} {w : World} (h : Q value w) :
    (executorAlone env).Sat (.ret value) (keptThen Q) w := by
  apply Actor.Sat.ret
  rintro _ rfl
  exact h

theorem sat_raise {exc : PyException} {Q : α → World → Prop} {w : World} :
    (executorAlone env).Sat (.raise exc) (keptThen Q) w :=
  Actor.Sat.raise fun _ _ => trivial

theorem sat_ofExcept {x : Except PyException α} {Q : α → World → Prop} {w : World}
    (h : ∀ value, Q value w) : (executorAlone env).Sat (Prog.ofExcept x) (keptThen Q) w := by
  cases x with
  | error exc => exact sat_raise
  | ok value => exact sat_ret (h value)

/-- A program that raises whatever happens promises anything. -/
theorem sat_thenRaise {β : Type} {p : Bridge β} {exc : PyException} {Q : α → World → Prop}
    {w : World} : (executorAlone env).Sat (p.bind fun _ => .raise exc) (keptThen Q) w := by
  apply Actor.Sat.handle
  apply (Actor.sat_alone p w).mono
  intro outcome w' _
  cases outcome with
  | ok _ => exact sat_raise
  | error _ => exact sat_raise

theorem kept_tryElse {β : Type} {body : Bridge α} {failed : PyException → Bridge β}
    {passed : α → Bridge β} {P : α → World → Prop} {Q : β → World → Prop} {w : World}
    (hb : (executorAlone env).Sat body (keptThen P) w)
    (hf : ∀ exc w, (executorAlone env).Sat (failed exc) (keptThen Q) w)
    (hp : ∀ value w, P value w → (executorAlone env).Sat (passed value) (keptThen Q) w) :
    (executorAlone env).Sat (tryElse body failed passed) (keptThen Q) w :=
  sat_tryElse hb (fun exc w _ _ => hf exc w) (fun _ _ _ _ => sat_raise) hp

theorem sat_of_keeps {p : Bridge α} {I : World → Prop} {w : World}
    (h : (executorAlone env).Keeps I p) (inv : I w) :
    (executorAlone env).Sat p (keptThen fun _ => I) w := by
  apply (h w inv).mono
  intro outcome w' post
  cases outcome with
  | ok _ => exact post
  | error _ => trivial

theorem append_of_step {frame : RFIDFrame} {w w' : World}
    (step : BridgeStep env .control (.appendPendingTagFrame frame) w (.ok ()) w') :
    w'.executor.pendingTagFrames = w.executor.pendingTagFrames ++ [frame] ∧
      batches w'.trace = batches w.trace := by
  obtain ⟨-, trace⟩ := step.frame
  refine ⟨?_, by simp [trace, batches_log, Entry.batch]⟩
  obtain ⟨w₁, ⟨-, rfl⟩ | ⟨⟨-, -, interrupted⟩, -⟩, rfl⟩ := step.effect
  · rfl
  · cases interrupted

theorem sat_captureTagFrame {frame : RFIDFrame} {rest : List RFIDFrame} {w : World}
    (kept : Kept returned (frame :: rest) w) :
    (executorAlone env).Sat (captureTagFrame env.device frame)
      (keptThen fun _ => Kept returned rest) w := by
  apply sat_bind (sat_ofExcept fun _ => kept)
  intro _ w kept
  split
  · rename_i other
    have noTag : isTagFrame frame = false := by simp [isTagFrame, other]
    apply sat_ret
    simpa [Kept, noTag] using kept
  · rename_i tag
    split
    · exact sat_raise
    · rename_i sound
      have isTag : isTagFrame frame = true := by
        simp only [ne_eq, not_not] at tag sound
        simp [isTagFrame, tag, sound]
      apply Actor.Sat.perform
      rintro _ rfl answer w' step
      refine ⟨trivial, ?_⟩
      rintro _ rfl
      cases answer with
      | error _ => trivial
      | ok _ =>
          obtain ⟨pending, same⟩ := append_of_step step
          change Kept returned rest w'
          rw [Kept, same, kept, pending]
          simp [isTag]

theorem inFront_cons_of_tag {expectedCommands : List UInt8} {frame : RFIDFrame}
    {frames : List RFIDFrame} (tag : frame.command = commandActiveTag) :
    inFront expectedCommands (frame :: frames) = frame :: inFront expectedCommands frames := by
  simp [inFront, tag]

theorem inFront_cons_of_unexpected {expectedCommands : List UInt8} {frame : RFIDFrame}
    {frames : List RFIDFrame} (other : frame.command ∉ expectedCommands) :
    inFront expectedCommands (frame :: frames) = frame :: inFront expectedCommands frames := by
  simp [inFront, other]

theorem inFront_cons_of_response {expectedCommands : List UInt8} {frame : RFIDFrame}
    {frames : List RFIDFrame} (response : frame.command ∈ expectedCommands)
    (noTag : frame.command ≠ commandActiveTag) :
    inFront expectedCommands (frame :: frames) = [] := by
  simp [inFront, response, noTag]

/-- A wait of start or stop, which expects its response and tag frames. -/
structure WaitsBesideTags (wait : Handshake) : Prop where
  expected : wait.expectedCommands = [wait.response, commandActiveTag]
  apart : wait.response ≠ commandActiveTag

theorem startHandshake_waits : WaitsBesideTags startHandshake := ⟨rfl, by decide⟩

theorem stopHandshake_waits : WaitsBesideTags stopHandshake := ⟨rfl, by decide⟩

/-- Looking through a batch captures its tag frames up to the response. -/
theorem sat_scanBatch {wait : Handshake} (waits : WaitsBesideTags wait)
    {frames : List RFIDFrame} {w : World}
    (kept : Kept returned (inFront wait.expectedCommands frames) w) :
    (executorAlone env).Sat (scanBatch env.device wait frames)
      (keptThen fun _ => Kept returned []) w := by
  induction frames generalizing w with
  | nil => exact sat_ret kept
  | cons frame frames ih =>
      apply sat_bind (sat_ofExcept fun _ => kept)
      intro _ w kept
      by_cases tag : frame.command = commandActiveTag
      · rw [if_pos ⟨by simp [waits.expected], tag⟩]
        rw [inFront_cons_of_tag tag] at kept
        exact sat_bind (sat_captureTagFrame kept) fun _ _ kept => ih kept
      · rw [if_neg fun both => tag both.2]
        split
        · rename_i other
          have unexpected : frame.command ∉ wait.expectedCommands := by
            simp [waits.expected, other, tag]
          have noTag : isTagFrame frame = false := by simp [isTagFrame, tag]
          rw [inFront_cons_of_unexpected unexpected] at kept
          apply ih
          simpa [Kept, noTag] using kept
        · rename_i response
          split
          · exact sat_raise
          · have expected : frame.command ∈ wait.expectedCommands := by
              simp [waits.expected, not_not.mp response]
            rw [inFront_cons_of_response expected tag] at kept
            exact sat_ret kept

theorem sat_receiveBatch {expectedCommands : List UInt8} {w : World} (kept : Kept returned [] w) :
    (executorAlone env).Sat
      (withSession fun connection => receive connection expectedCommands)
      (keptThen fun frames => Kept returned (inFront expectedCommands frames)) w := by
  apply sat_bind (sat_of_keeps (keeps_kept rfl) kept)
  intro session w kept
  cases session with
  | some connection => exact kept_receive kept
  | none => exact sat_raise

theorem sat_awaitResponse {wait : Handshake} (waits : WaitsBesideTags wait) {attempts : Nat}
    {w : World} (kept : Kept returned [] w) :
    (executorAlone env).Sat
      (awaitResponse env.device wait
        (withSession fun connection => receive connection wait.expectedCommands) attempts)
      (keptThen fun _ => Kept returned []) w := by
  induction attempts generalizing w with
  | zero => exact sat_raise
  | succ attempts ih =>
      apply sat_bind (sat_receiveBatch kept)
      intro frames w kept
      apply sat_bind (sat_scanBatch waits kept)
      intro found w kept
      cases found with
      | some frame => exact sat_ret kept
      | none => exact ih kept

/-- Taking the buffer returns what it held. -/
theorem sat_takePendingTagFrames {w : World} (kept : Kept returned [] w) :
    (executorAlone env).Sat takePendingTagFrames
      (keptThen fun frames => Kept (returned ++ frames) []) w := by
  have read : (executorAlone env).Sat (Prog.perform BridgeOp.readPendingTagFrames)
      (keptThen fun frames w => Kept returned [] w ∧ w.executor.pendingTagFrames = frames) w := by
    apply Actor.Sat.perform
    rintro _ rfl answer w' step
    refine ⟨trivial, ?_⟩
    rintro _ rfl
    have after := kept_of_step rfl step kept
    cases answer with
    | error _ => trivial
    | ok frames =>
        refine ⟨after, ?_⟩
        obtain ⟨w₁, ⟨same, rfl⟩ | ⟨⟨-, -, interrupted⟩, -⟩, rfl⟩ := step.effect
        · exact (Except.ok.inj same).symm
        · cases interrupted
  apply sat_bind read
  rintro frames w ⟨kept, rfl⟩
  have clear : (executorAlone env).Sat (Prog.perform BridgeOp.clearPendingTagFrames)
      (keptThen fun _ => Kept (returned ++ w.executor.pendingTagFrames) []) w := by
    apply Actor.Sat.perform
    rintro _ rfl answer w' step
    refine ⟨trivial, ?_⟩
    rintro _ rfl
    cases answer with
    | error _ => trivial
    | ok _ =>
        obtain ⟨-, trace⟩ := step.frame
        have emptied : w'.executor.pendingTagFrames = [] := by
          obtain ⟨w₁, ⟨-, rfl⟩ | ⟨⟨-, -, interrupted⟩, -⟩, rfl⟩ := step.effect
          · rfl
          · cases interrupted
        change Kept _ _ w'
        simpa [Kept, trace, batches_log, Entry.batch, emptied] using kept
  exact sat_bind clear fun _ _ kept => sat_ret kept

theorem sat_receiveTagFrames {w : World} (kept : Kept returned [] w) :
    (executorAlone env).Sat (receiveTagFrames env.device)
      (keptThen fun frames => Kept (returned ++ frames) []) w := by
  apply sat_bind (sat_receiveBatch kept)
  intro frames w kept
  have all : inFront [commandActiveTag] frames = frames := by
    apply List.takeWhile_eq_self_iff.mpr
    intro frame _
    by_cases tag : frame.command = commandActiveTag <;> simp [tag]
  rw [all] at kept
  have captured : (executorAlone env).Sat
      (Prog.forEach frames (captureTagFrame env.device)) (keptThen fun _ => Kept returned [])
      w := by
    clear all
    induction frames generalizing w with
    | nil => exact sat_ret kept
    | cons frame frames ih =>
        apply sat_bind (sat_captureTagFrame kept)
        intro _ w kept
        exact sat_bind (ih w kept) fun _ _ kept => sat_ret kept
  exact sat_bind captured fun _ _ kept => sat_takePendingTagFrames kept

theorem sat_pollTagFrames {w : World} (kept : Kept returned [] w) :
    (executorAlone env).Sat (pollTagFrames env.device)
      (keptThen fun frames => Kept (returned ++ frames) []) w := by
  apply sat_bind (sat_takePendingTagFrames kept)
  intro pending w kept
  split
  · exact sat_ret kept
  · rename_i nothing
    rw [not_not.mp nothing, List.append_nil] at kept
    apply sat_bind (sat_of_keeps keeps_isActive kept)
    intro active w kept
    split
    · exact sat_ret (by simpa using kept)
    · exact sat_receiveTagFrames kept

theorem sat_send {request : Bytes} {label : Option String} {w : World}
    (kept : Kept returned [] w) :
    (executorAlone env).Sat
      (withSession fun connection => send connection request label)
      (keptThen fun _ => Kept returned []) w :=
  sat_of_keeps (keeps_withSession fun _ => keeps_kept rfl) kept

theorem sat_startInventory {connection : Nat} {sessionKey : String} {w : World}
    (kept : Kept returned [] w) :
    (executorAlone env).Sat (startInventory env.device connection sessionKey)
      (keptThen fun _ => Kept returned []) w := by
  apply sat_bind (sat_of_keeps (keeps_kept rfl) kept)
  intro _ w kept
  apply sat_bind (sat_ofExcept fun _ => kept)
  intro request w kept
  apply sat_bind (sat_send kept)
  intro _ w kept
  apply sat_bind (sat_awaitResponse startHandshake_waits kept)
  intro _ w kept
  exact sat_of_keeps (keeps_kept rfl) kept

theorem sat_start {sessionKey readerCode : String} {w : World} (kept : Kept returned [] w) :
    (executorAlone env).Sat (PersistentActiveReaderExecutor.start env.device sessionKey readerCode)
      (keptThen fun _ => Kept returned []) w := by
  unfold PersistentActiveReaderExecutor.start
  split
  · exact sat_raise
  split
  · exact sat_raise
  apply sat_bind (sat_of_keeps keeps_isActive kept)
  intro active w kept
  split
  · apply sat_bind (sat_of_keeps (keeps_kept rfl) kept)
    intro activeKey w kept
    split
    · exact sat_ret kept
    · exact sat_raise
  apply sat_bind (sat_ofExcept fun _ => kept)
  intro _ w kept
  apply kept_tryElse (sat_of_keeps (keeps_kept rfl) kept) (fun _ _ => sat_thenRaise)
  intro connection w kept
  exact kept_tryElse (sat_startInventory kept) (fun _ _ => sat_thenRaise)
    fun _ _ kept => sat_ret kept

theorem keeps_close : (executorAlone env).Keeps (Kept returned current) close := by
  apply Actor.keeps_bind Actor.stable_alone
  · apply Actor.keeps_bind Actor.stable_alone (keeps_kept rfl)
    intro session
    split
    · exact Actor.keeps_ret Actor.stable_alone ()
    · exact keeps_withSession fun _ => keeps_kept rfl
  intro _
  exact Actor.keeps_bind Actor.stable_alone (keeps_kept rfl) fun _ => keeps_kept rfl

theorem sat_stopInventory {sessionKey : String} {w : World} (kept : Kept returned [] w) :
    (executorAlone env).Sat (stopInventory env.device sessionKey)
      (keptThen fun _ => Kept returned []) w := by
  apply sat_bind (sat_ofExcept fun _ => kept)
  intro request w kept
  apply sat_bind (sat_send kept)
  intro _ w kept
  exact sat_bind (sat_awaitResponse stopHandshake_waits kept) fun _ _ kept => sat_ret kept

theorem sat_stop {sessionKey readerCode : String} {w : World} (kept : Kept returned [] w) :
    (executorAlone env).Sat (PersistentActiveReaderExecutor.stop env.device sessionKey readerCode)
      (keptThen fun _ => Kept returned []) w := by
  unfold PersistentActiveReaderExecutor.stop
  split
  · exact sat_raise
  apply sat_bind (sat_of_keeps keeps_isActive kept)
  intro active w kept
  split
  · exact sat_raise
  apply sat_bind (sat_of_keeps (keeps_kept rfl) kept)
  intro activeKey w kept
  split
  · exact sat_raise
  apply Actor.Sat.handle
  apply (sat_stopInventory kept).mono
  intro outcome w kept
  cases outcome with
  | ok _ => exact sat_bind (sat_of_keeps keeps_close kept) fun _ _ kept => sat_ret kept
  | error exc => exact sat_thenRaise

/-- A call that returns no frames. -/
theorem sat_returnsNone {p : Bridge Unit} {w : World}
    (h : (executorAlone env).Sat p (keptThen fun _ => Kept returned []) w) :
    (executorAlone env).Sat (p.bind fun _ => .ret [])
      (keptThen fun frames => Kept (returned ++ frames) []) w := by
  apply sat_bind h
  intro _ w kept
  exact sat_ret (by simpa using kept)

theorem sat_executorCall {call : ExecutorCall} {w : World} (kept : Kept returned [] w) :
    (executorAlone env).Sat (call.program env.device)
      (keptThen fun frames => Kept (returned ++ frames) []) w := by
  cases call with
  | start sessionKey readerCode => exact sat_returnsNone (sat_start kept)
  | pollTagFrames => exact sat_pollTagFrames kept
  | stop sessionKey readerCode => exact sat_returnsNone (sat_stop kept)
  | takePendingTagFrames => exact sat_takePendingTagFrames kept

theorem of_executorRun {w w' : World} {calls : List ExecutorCall} {frames : List RFIDFrame}
    (run : ExecutorRun env w calls frames w') (kept : Kept returned [] w) :
    Kept (returned ++ frames) [] w' := by
  induction run generalizing returned with
  | nil => simpa using kept
  | cons call _ ih =>
      have post := call.post (sat_executorCall kept)
      rw [← List.append_assoc]
      exact ih post

end Kept

/-- The frames that a run returned and buffers are the tag frames that it was handed,
exactly when no response that ended a wait had a tag frame behind it. -/
theorem executorRun_keeps_frames_iff {env : BridgeEnv} {w w' : World} {calls : List ExecutorCall}
    {frames : List RFIDFrame} (empty : w.executor.pendingTagFrames = []) (fresh : w.trace = [])
    (run : ExecutorRun env w calls frames w') :
    frames ++ w'.executor.pendingTagFrames = tagFramesOf (batches w'.trace) ↔
      NoneBehind (batches w'.trace) := by
  have start : Kept [] [] w := by simp [Kept, empty, fresh, batches, tagFramesInFront]
  have kept := Kept.of_executorRun run start
  simp only [Kept, List.nil_append, List.filter_nil, List.append_nil] at kept
  rw [← kept]
  exact tagFramesInFront_eq_iff _

/-- The calls of the executor under a script. -/
def runExecutor (env : BridgeEnv) (script : Script) (w : World) :
    List ExecutorCall → Option (List RFIDFrame × World)
  | [] => some ([], w)
  | call :: calls =>
      match (call.program env.device).eval? (respondLogged env script .control) w with
      | some (.ok frames, w') =>
          (runExecutor env script w' calls).map fun (rest, w'') => (frames ++ rest, w'')
      | _ => none

theorem executorRun_of_runExecutor {env : BridgeEnv} {script : Script} {w w' : World}
    {calls : List ExecutorCall} {frames : List RFIDFrame}
    (h : runExecutor env script w calls = some (frames, w')) :
    ExecutorRun env w calls frames w' := by
  induction calls generalizing w frames with
  | nil =>
      cases h
      exact .nil
  | cons call calls ih =>
      simp only [runExecutor] at h
      split at h
      · rename_i first mid evaluated
        obtain ⟨⟨rest, last⟩, followed, same⟩ := Option.map_eq_some_iff.mp h
        cases same
        exact .cons (Prog.runs_of_eval? (bridgeStep_of_respond .control) evaluated) (ih followed)
      · cases h

open Installation in
/-- A reader that answers every request and shows one tag beside each response: in front
of the STOP response, and where `behind` says so behind the START response. -/
def oneTag (behind : Bool) : Script
  | _, .receive _ expectedCommands =>
      if commandStartInventory ∈ expectedCommands then
        .ok (startResponse :: if behind then [tag] else [])
      else if commandStop ∈ expectedCommands then .ok [tag, stopResponse]
      else .ok [tag]
  | _, _ => raised .rfidTransportError "unused"

/-- What a run returned, what it buffers, and what it was handed. -/
def framesSeen : List RFIDFrame × World →
    List RFIDFrame × List RFIDFrame × List (List UInt8 × List RFIDFrame) :=
  fun (frames, w) => (frames, w.executor.pendingTagFrames, batches w.trace)

open Installation in
/-- A session in which every tag is shown in front of a response. -/
theorem executorRun_keeps_frames_session : ∃ frames w',
    ExecutorRun env { world with line := { answered := [0] } }
      [.start "S1" "GATE-1", .pollTagFrames, .stop "S1" "GATE-1", .takePendingTagFrames] frames w' ∧
    frames ++ w'.executor.pendingTagFrames = tagFramesOf (batches w'.trace) := by
  have seen : (runExecutor env (oneTag false) { world with line := { answered := [0] } }
      [.start "S1" "GATE-1", .pollTagFrames, .stop "S1" "GATE-1",
        .takePendingTagFrames]).map framesSeen =
      some ([tag, tag], [], [([0x81, 0xF9], [startResponse]), ([0xF9], [tag]),
        ([0x7F, 0xF9], [tag, stopResponse])]) := by
    decide +kernel
  obtain ⟨⟨frames, w'⟩, ran, same⟩ := Option.map_eq_some_iff.mp seen
  refine ⟨frames, w', executorRun_of_runExecutor ran, ?_⟩
  apply (executorRun_keeps_frames_iff rfl rfl (executorRun_of_runExecutor ran)).mpr
  have handed : batches w'.trace = _ := congrArg (fun result => result.2.2) same
  rw [handed]
  unfold NoneBehind
  decide +kernel

open Installation in
/-- A tag in the batch of the START response, behind it, is lost. -/
theorem executorRun_loses_frame : ∃ frames w',
    ExecutorRun env world [.start "S1" "GATE-1"] frames w' ∧
    frames ++ w'.executor.pendingTagFrames ≠ tagFramesOf (batches w'.trace) := by
  have seen : (runExecutor env (oneTag true) world [.start "S1" "GATE-1"]).map framesSeen =
      some ([], [], [([0x81, 0xF9], [startResponse, tag])]) := by
    decide +kernel
  obtain ⟨⟨frames, w'⟩, ran, same⟩ := Option.map_eq_some_iff.mp seen
  refine ⟨frames, w', executorRun_of_runExecutor ran, ?_⟩
  simp only [framesSeen, Prod.mk.injEq] at same
  rw [same.1, same.2.1, same.2.2]
  decide +kernel

end RfidBridge
