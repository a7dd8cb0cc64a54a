import RfidBridge.Worker.Handshake
import RfidBridge.Worker.ThreadCalls

/-!
The shutdown of the worker. It asks the executor whether the reader is active, and
sends a STOP only then; so whether the reader was left scanning is decided by what the
executor remembers when the shutdown begins.
-/

namespace RfidBridge
open PersistentActiveReaderExecutor

/-- A STOP response of status 0 from the configured reader. -/
def isStopResponse (device : ReaderDevice) (frame : RFIDFrame) : Bool :=
  frame.command == commandStop && frame.status == 0 &&
    frame.address.toNat == device.deviceAddress

/-- Whether a START request was sent behind the last STOP response of status 0. A request
that raised may have left all the same; `left` says of each one whether it did. -/
def scanning (device : ReaderDevice) (left : List Entry → Bool) : List Entry → Bool
  | [] => false
  | entry :: older =>
      match entry with
      | ⟨_, .send _ request _, _⟩ =>
          (requestCommand request == some commandStartInventory && left (entry :: older)) ||
            scanning device left older
      | ⟨_, .receive .., .ok frames⟩ =>
          !frames.any (isStopResponse device) && scanning device left older
      | _ => scanning device left older

/-- What is_active says of the executor. -/
def World.readerActive (w : World) : Bool :=
  w.executor.session.isSome && w.executor.activeSessionKey.isSome

/-- The control thread is about to shut the reader down, behind a control loop that has
returned or raised. -/
def ShuttingDown (env : BridgeEnv) (c : BridgePool) : Prop :=
  ∃ outcome, c.code .control =
    ((do
      let _ ← Command.safeShutdownReader env.device
      pure () : Bridge Unit).bind fun _ => Prog.ofExcept outcome)

/-- An operation that neither sends nor can receive a STOP response. -/
def BridgeOp.unheard : BridgeOp → Prop
  | .send .. => False
  | .receive _ expectedCommands => commandStop ∉ expectedCommands
  | _ => True

theorem unheard_of_silent {op : BridgeOp} (h : op.silent) : op.unheard := by
  cases op <;> first | exact h.elim | trivial

/-- What the other threads do meanwhile. -/
theorem unheard_of_belongs {t : Thread} {op : BridgeOp} (other : t ≠ .control)
    (h : op.belongs t) :
    op.unheard ∧ op.writes ≠ some .session ∧ op.writes ≠ some .activeSessionKey := by
  cases t with
  | control => exact absurd rfl other
  | reader =>
      cases h
      exact ⟨trivial, nofun, nofun⟩
  | delivery n => cases op <;> first | exact h.elim | exact ⟨trivial, nofun, nofun⟩
  | capture n =>
      cases op with
      | receive connection expectedCommands =>
          cases (show expectedCommands = [commandActiveTag] from h)
          exact ⟨by simp [BridgeOp.unheard, commandStop, commandActiveTag], nofun, nofun⟩
      | _ => first | exact h.elim | exact ⟨trivial, nofun, nofun⟩

namespace Shutdown
variable {env : BridgeEnv} {left : List Entry → Bool} {t : Thread} {w w' : World}

theorem scanning_of_unheard {op : BridgeOp} {answer : Except PyException op.Answer}
    (unheard : op.unheard) (step : BridgeStep env t op w answer w') :
    scanning env.device left w'.trace = scanning env.device left w.trace := by
  rw [step.frame.2]
  cases op with
  | send _ _ _ => exact unheard.elim
  | receive connection expectedCommands =>
      cases answer with
      | error _ => rfl
      | ok frames =>
          have none : frames.any (isStopResponse env.device) = false := by
            obtain ⟨w₁, ⟨-, heard⟩ | ⟨⟨-, -, interrupted⟩, -⟩, -⟩ := step.effect
            · simp only [List.any_eq_false, isStopResponse, Bool.and_eq_true, beq_iff_eq, not_and]
              rintro frame member ⟨command, -⟩
              have expected := (heard frames rfl frame member).1
              exact absurd (command ▸ expected) unheard
            · cases interrupted
          simp [scanning, none]
  | _ => rfl

/-- The control thread beside the other threads. -/
abbrev besideOthers (env : BridgeEnv) : Actor BridgeOp BridgeOp.Answer PyException World :=
  Actor.member (bridgeExec env) (fun t op _ => op.belongs t) .control

theorem does_control {op : BridgeOp} {answer : Except PyException op.Answer}
    (step : BridgeStep env .control op w answer w') : (besideOthers env).guarantee w w' :=
  ⟨op, answer, step, trivial⟩

/-- What the executor remembers, and whether the reader may be scanning. -/
structure Remembered (env : BridgeEnv) (left : List Entry → Bool) (session : Option Nat)
    (key : Option String) (scans : Bool) (w : World) : Prop where
  session : w.executor.session = session
  key : w.executor.activeSessionKey = key
  scans : scanning env.device left w.trace = scans

theorem stable_scanning {scans : Bool} :
    (besideOthers env).Stable fun w => scanning env.device left w.trace = scans := by
  apply Actor.stable_member
  intro t op w answer w' other step mine h
  exact (scanning_of_unheard (unheard_of_belongs other mine).1 step).trans h

theorem stable_remembered {session : Option Nat} {key : Option String} {scans : Bool} :
    (besideOthers env).Stable (Remembered env left session key scans) := by
  apply Actor.stable_member
  intro t op w answer w' other step mine h
  obtain ⟨unheard, still, still'⟩ := unheard_of_belongs other mine
  exact ⟨(step.frame.1.session still).trans h.session,
    (step.frame.1.activeSessionKey still').trans h.key,
    (scanning_of_unheard unheard step).trans h.scans⟩

theorem remembered_of_step (op : BridgeOp) {answer : Except PyException op.Answer}
    {session : Option Nat} {key : Option String} {scans : Bool} (silent : op.silent)
    (reads : op.writes = none) (step : BridgeStep env t op w answer w')
    (h : Remembered env left session key scans w) : Remembered env left session key scans w' :=
  ⟨(step.frame.1.session (by simp [reads])).trans h.session,
    (step.frame.1.activeSessionKey (by simp [reads])).trans h.key,
    (scanning_of_unheard (unheard_of_silent silent) step).trans h.scans⟩

/-- What is_active says. -/
theorem sat_isActive {session : Option Nat} {key : Option String} {scans : Bool}
    (h : Remembered env left session key scans w) :
    (besideOthers env).Sat isActive
      (Actor.ends (fun active w => active = (session.isSome && key.isSome) ∧
        Remembered env left session key scans w) fun _ => Remembered env left session key scans)
      w := by
  have stable : (besideOthers env).Stable (Remembered env left session key scans) :=
    stable_remembered
  have readSession : (besideOthers env).Sat (Prog.perform BridgeOp.readSession)
      (Actor.ends (fun value w => value = session ∧ Remembered env left session key scans w)
        fun _ => Remembered env left session key scans) w := by
    refine Actor.Sat.reads stable ?_ ?_ h
    · exact fun w answer w' h step => ⟨does_control step,
        remembered_of_step .readSession trivial rfl step h⟩
    · intro w value w' h step
      obtain ⟨w₁, ⟨same, -⟩, -⟩ := step.effect_of_ok
      exact (Except.ok.inj same).trans h.session
  apply Actor.Sat.seq (fun _ => stable) readSession
  rintro session w₁ ⟨rfl, h⟩
  split
  · rename_i none
    subst none
    exact Actor.Sat.ret fun w' rely => ⟨rfl, stable w₁ w' h rely⟩
  · rename_i some
    have readKey : (besideOthers env).Sat (Prog.perform BridgeOp.readActiveSessionKey)
        (Actor.ends (fun value w => value = key ∧ Remembered env left session key scans w)
          fun _ => Remembered env left session key scans) w₁ := by
      refine Actor.Sat.reads stable ?_ ?_ h
      · exact fun w answer w' h step => ⟨does_control step,
          remembered_of_step .readActiveSessionKey trivial rfl step h⟩
      · intro w value w' h step
        obtain ⟨w₁, ⟨same, -⟩, -⟩ := step.effect_of_ok
        exact (Except.ok.inj same).trans h.key
    apply Actor.Sat.seq (fun _ => stable) readKey
    rintro key w₂ ⟨rfl, h⟩
    refine Actor.Sat.ret fun w' rely => ⟨?_, stable w₂ w' h rely⟩
    rw [Option.isSome_iff_ne_none.mpr some, Bool.true_and]

theorem keeps_of_silent {α : Type} {p : Bridge α} {scans : Bool}
    (calls : p.Calls BridgeOp.silent) :
    (besideOthers env).Keeps (fun w => scanning env.device left w.trace = scans) p :=
  Actor.keeps_of_calls stable_scanning (fun _ _ _ _ silent h step =>
    ⟨does_control step, (scanning_of_unheard (unheard_of_silent silent) step).trans h⟩) calls

/-- A run of the control thread that nothing is said about. -/
theorem sat_any {α : Type} {p : Bridge α} :
    (besideOthers env).Sat p (Actor.ends (fun _ _ => True) fun _ _ => True) w := by
  apply (Actor.sat_member (Prog.calls_any (fun _ _ => trivial) p)).mono
  intro outcome w' _
  cases outcome <;> trivial

/-- With these frames the reader has answered a STOP, if one of them says so. -/
def Settles (env : BridgeEnv) (left : List Entry → Bool) (frames : List RFIDFrame) (w : World) :
    Prop :=
  frames.any (isStopResponse env.device) = true → scanning env.device left w.trace = false

theorem stable_settles {frames : List RFIDFrame} :
    (besideOthers env).Stable (Settles env left frames) :=
  fun w w' h rely response => stable_scanning w w' (h response) rely

theorem sat_receiveSettles (expectedCommands : List UInt8) :
    (besideOthers env).Sat (withSession fun connection => receive connection expectedCommands)
      (Actor.ends (Settles env left) fun _ _ => True) w := by
  apply Actor.Sat.seq (fun _ _ _ _ _ => trivial) sat_any
  intro session w₁ _
  cases session with
  | none => exact Actor.Sat.raise fun _ _ => trivial
  | some connection =>
      apply Actor.Sat.perform
      intro w₂ _ answer w₃ step
      refine ⟨does_control step, ?_⟩
      intro w₄ rely
      cases answer with
      | error _ => trivial
      | ok frames =>
          refine stable_settles w₃ w₄ ?_ rely
          intro response
          rw [step.frame.2]
          simp [scanning, response]

theorem sat_waitForStopResponse :
    (besideOthers env).Sat (waitForStopResponse env.device)
      (Actor.ends (fun _ w => scanning env.device left w.trace = false) fun _ _ => True) w := by
  have waited : (besideOthers env).Sat (waitForStopResponse env.device)
      (Actor.ends (fun frame w => ∃ frames, frame ∈ frames ∧
        Accepted env.device stopHandshake frame ∧ Settles env left frames w) fun _ _ => True)
      w := by
    refine sat_awaitResponse (I := fun _ => True) (fun _ _ _ _ => trivial)
      (fun frames => stable_settles) (fun _ _ _ => trivial) ?_ ?_ 32 w trivial
    · intro frames frame _ _
      apply Actor.keeps_perform stable_settles
      intro w answer w' h step
      refine ⟨does_control step, fun response => ?_⟩
      exact (scanning_of_unheard (by trivial) step).trans (h response)
    · exact fun w _ => sat_receiveSettles stopHandshake.expectedCommands
  apply waited.mono
  intro outcome w' post
  cases outcome with
  | error _ => trivial
  | ok frame =>
      obtain ⟨frames, member, accepted, settles⟩ := post
      apply settles
      refine List.any_eq_true.mpr ⟨frame, member, ?_⟩
      have status : frame.status = 0 := by simpa [stopHandshake] using accepted.status
      simp [isStopResponse, accepted.address, status,
        show frame.command = commandStop from accepted.response]

/-- A STOP that returns has been answered with status 0. -/
theorem sat_stop (sessionKey readerCode : String) :
    (besideOthers env).Sat (PersistentActiveReaderExecutor.stop env.device sessionKey readerCode)
      (Actor.ends (fun _ w => scanning env.device left w.trace = false) fun _ _ => True) w := by
  have passes : ∀ (exc : PyException) (w w' : World), True → (besideOthers env).rely w w' → True :=
    fun _ _ _ _ _ => trivial
  have stopped : ∀ w, (besideOthers env).Sat (stopInventory env.device (strip sessionKey))
      (Actor.ends (fun _ w => scanning env.device left w.trace = false) fun _ _ => True) w := by
    intro w
    apply Actor.Sat.seq passes sat_any
    intro request w₁ _
    apply Actor.Sat.seq passes sat_any
    intro _ w₂ _
    apply Actor.Sat.seq passes sat_waitForStopResponse
    exact fun _ w₃ settled => Actor.Sat.ret fun w₄ rely => stable_scanning w₃ w₄ settled rely
  unfold PersistentActiveReaderExecutor.stop
  split
  · exact Actor.Sat.raise fun _ _ => trivial
  apply Actor.Sat.seq passes sat_any
  intro active w₁ _
  split
  · exact Actor.Sat.raise fun _ _ => trivial
  apply Actor.Sat.seq passes sat_any
  intro activeKey w₂ _
  split
  · exact Actor.Sat.raise fun _ _ => trivial
  apply Actor.Sat.handle
  apply (stopped w₂).mono
  intro outcome w₃ post
  cases outcome with
  | ok _ =>
      apply Actor.Sat.seq passes
        (P := fun _ w => scanning env.device left w.trace = false)
      · apply ((keeps_of_silent silent_close).sat post).mono
        intro outcome w₄ post
        cases outcome with
        | ok _ => exact post
        | error _ => trivial
      · exact fun _ w₄ settled => Actor.Sat.ret fun w₅ rely => stable_scanning w₄ w₅ settled rely
  | error exc =>
      apply Actor.Sat.seq passes sat_any
      exact fun _ _ _ => Actor.Sat.raise fun _ _ => trivial

/-- The shutdown of a reader that counts as active settles it, or raises. -/
theorem sat_shutdownActiveReader (sessionKey : String) :
    (besideOthers env).Sat (Command.shutdownActiveReader env.device sessionKey)
      (Actor.ends (fun _ w => scanning env.device left w.trace = false) fun _ _ => True) w := by
  have passes : ∀ (exc : PyException) (w w' : World), True → (besideOthers env).rely w w' → True :=
    fun _ _ _ _ _ => trivial
  apply Actor.Sat.seq passes (P := fun _ w => scanning env.device left w.trace = false)
  · refine sat_tryElse (P := fun _ w => scanning env.device left w.trace = false)
      (E := fun _ _ => True) ?_ ?_ ?_ ?_
    · exact Actor.Sat.seq passes sat_any fun _ _ _ => sat_stop _ _
    · exact fun _ _ _ _ => Actor.Sat.raise fun _ _ => trivial
    · exact fun _ _ _ _ => Actor.Sat.raise fun _ _ => trivial
    · exact fun _ w settled => Actor.Sat.ret fun w' rely => stable_scanning w w' settled rely
  intro _ w₁ settled
  apply Actor.Sat.seq passes (P := fun _ w => scanning env.device left w.trace = false)
  · refine sat_tryElse (P := fun _ w => scanning env.device left w.trace = false)
      (E := fun _ _ => True) ?_ ?_ ?_ ?_
    · apply ((keeps_of_silent (silent_drainPendingTags _ _)).sat settled).mono
      intro outcome w₂ post
      cases outcome with
      | ok _ => exact post
      | error _ => trivial
    · exact fun _ _ _ _ => Actor.Sat.raise fun _ _ => trivial
    · exact fun _ _ _ _ => Actor.Sat.raise fun _ _ => trivial
    · exact fun _ w settled => Actor.Sat.ret fun w' rely => stable_scanning w w' settled rely
  exact fun _ w₂ settled => Actor.Sat.ret fun w' rely => stable_scanning w₂ w' settled rely

/-- What the shutdown leaves behind when it returns. -/
theorem sat_safeShutdownReader :
    (besideOthers env).Sat (Command.safeShutdownReader env.device)
      (Actor.ends (fun _ w' => scanning env.device left w'.trace =
        (!w.readerActive && scanning env.device left w.trace)) fun _ _ => True) w := by
  have remembered : Remembered env left w.executor.session w.executor.activeSessionKey
      (scanning env.device left w.trace) w := ⟨rfl, rfl, rfl⟩
  have passes : ∀ (exc : PyException) (w w' : World), True → (besideOthers env).rely w w' → True :=
    fun _ _ _ _ _ => trivial
  have active : (besideOthers env).Sat isActive
      (Actor.ends (fun active w' => active = w.readerActive ∧
        scanning env.device left w'.trace = scanning env.device left w.trace) fun _ _ => True)
      w := by
    apply (sat_isActive remembered).mono
    intro outcome w' post
    cases outcome with
    | ok _ => exact ⟨post.1, post.2.scans⟩
    | error _ => trivial
  apply Actor.Sat.seq passes active
  rintro _ w₁ ⟨rfl, scans⟩
  split
  · rename_i inactive
    rw [inactive]
    have closed : (besideOthers env).Keeps
        (fun w' => scanning env.device left w'.trace = scanning env.device left w.trace)
        (do
          FinalWorkerCycle.stopCapture env.device none none
          close
          pure false) := by
      apply keeps_of_silent
      apply Prog.calls_bind (silent_stopCapture none none)
      exact fun _ => Prog.calls_bind silent_close fun _ => Prog.calls_pure _ _
    apply (closed w₁ scans).mono
    intro outcome w₂ post
    cases outcome with
    | ok _ => exact post
    | error _ => trivial
  · rename_i active
    rw [show w.readerActive = true by simpa using active]
    apply Actor.Sat.seq passes sat_any
    intro activeKey w₂ _
    split
    · apply Actor.Sat.seq passes sat_any
      exact fun _ _ _ => Actor.Sat.raise fun _ _ => trivial
    · exact sat_shutdownActiveReader _

end Shutdown

section
variable {env : BridgeEnv} {settings : CommandSettings} {c₀ c : BridgePool}

theorem control_fixed (p : Bridge Unit) : ¬ BridgeBody env .control p := by
  intro body
  cases body

/-- A check that the command has passed. -/
theorem passed_check {α : Type} {x : Except PyException α} {f : α → Bridge Unit}
    (code : c₀.code .control = (Prog.ofExcept x : Bridge α).bind f) (run : BridgeSteps env c₀ c)
    (exited : c.code .control = .ret ()) : ∃ value, x = .ok value ∧ c₀.code .control = f value := by
  cases x with
  | ok value => exact ⟨value, rfl, code⟩
  | error exc =>
      rw [Pool.code_of_raised control_fixed code run] at exited
      cases exited

/-- A command that has returned has been through its shutdown. -/
theorem shutdown_passed (started : Started env settings c₀) (run : BridgeSteps env c₀ c)
    (exited : c.code .control = .ret ()) :
    ∃ mid, BridgeSteps env c₀ mid ∧ BridgeSteps env mid c ∧ ShuttingDown env mid := by
  obtain ⟨maxCycles, -, checked⟩ := passed_check started.control run exited
  obtain ⟨_, -, checked⟩ := passed_check checked run exited
  obtain ⟨device, found, checked⟩ := passed_check checked run exited
  cases Command.requireReader_eq_ok found
  obtain ⟨c₁, _, run₁, rest₁, verified⟩ := Pool.passes_bind control_fixed checked run exited
  obtain ⟨c₂, existingActive, run₂, rest₂, counted⟩ :=
    Pool.passes_bind control_fixed verified rest₁ exited
  by_cases stale : existingActive ≠ 0
  · rw [if_pos stale] at counted
    rw [Pool.code_of_raised control_fixed counted rest₂] at exited
    cases exited
  · rw [if_neg stale] at counted
    obtain ⟨c₃, _, run₃, rest₃, marked⟩ := Pool.passes_bind control_fixed counted rest₂ exited
    obtain ⟨mid, outcome, run₄, rest₄, code⟩ := Pool.passes_handle control_fixed marked rest₃ exited
    exact ⟨mid, ((run₁.trans run₂).trans run₃).trans run₄, rest₄, outcome, code⟩

/-- When the command has returned, its shutdown left no START request unanswered if and
only if the executor counted as active when the shutdown began, or no START request was
unanswered already then. This is so whichever START requests that raised had left. -/
theorem shutdown_answers_iff (left : List Entry → Bool) (started : Started env settings c₀)
    (run : BridgeSteps env c₀ c) (exited : c.code .control = .ret ()) :
    (∃ mid, BridgeSteps env c₀ mid ∧ BridgeSteps env mid c ∧ ShuttingDown env mid) ∧
    ∀ mid, BridgeSteps env c₀ mid → BridgeSteps env mid c → ShuttingDown env mid →
      (scanning env.device left c.state.trace = false ↔
        mid.state.readerActive = true ∨ scanning env.device left mid.state.trace = false) := by
  refine ⟨shutdown_passed started run exited, ?_⟩
  rintro mid before after ⟨outcome, code⟩
  have shutdown : (Shutdown.besideOthers env).Sat (mid.code .control)
      (Actor.ends (fun _ w => scanning env.device left w.trace =
        (!mid.state.readerActive && scanning env.device left mid.state.trace)) fun _ _ => True)
      mid.state := by
    rw [code]
    have passes : ∀ (exc : PyException) (w w' : World), True →
        (Shutdown.besideOthers env).rely w w' → True := fun _ _ _ _ _ => trivial
    apply Actor.Sat.seq passes (P := fun _ w => scanning env.device left w.trace =
      (!mid.state.readerActive && scanning env.device left mid.state.trace))
    · apply Actor.Sat.seq passes Shutdown.sat_safeShutdownReader
      exact fun _ w scans => Actor.Sat.ret fun w' rely => Shutdown.stable_scanning w w' scans rely
    · intro _ w scans
      cases outcome with
      | ok _ => exact Actor.Sat.ret fun w' rely => Shutdown.stable_scanning w w' scans rely
      | error _ => exact Actor.Sat.raise fun _ _ => trivial
  have ended := Actor.ended_of_steps belongs_of_body control_fixed (belongs_of_run started before)
    after shutdown exited
  rw [show scanning env.device left c.state.trace = _ from ended]
  cases mid.state.readerActive <;> simp

end

namespace Installation

/-- Odoo asks for a START, and the reader answers everything. -/
def onlyStart : Script
  | _, .receive _ expectedCommands =>
      if commandStartInventory ∈ expectedCommands then .ok [startResponse]
      else if commandStop ∈ expectedCommands then .ok [stopResponse]
      else .ok [tag]
  | _, .commands => .ok [commandPayload "start" 1]
  | _, .ack _ => .ok [("ok", .bool true)]
  | _, _ => raised .rfidTransportError "unused"

/-- The same, where the answer to the START gets lost. -/
def lostAnswer : Script
  | w, .receive connection expectedCommands =>
      if commandStartInventory ∈ expectedCommands then raised .rfidTransportError "timed out"
      else onlyStart w (.receive connection expectedCommands)
  | w, op => onlyStart w op

/-- Whether the command has returned, and what became of the reader. -/
def exitOf (c : BridgePool) : Bool × Bool × Bool :=
  ((c.code .control).hasReturned, scanning env.device (fun _ => true) c.state.trace,
    c.state.line.inventorying)

end Installation

open Installation in
/-- A START, and the STOP that the shutdown sends. -/
theorem shutdown_answers_iff_started : ∃ c, BridgeSteps env pool c ∧ c.code .control = .ret () ∧
    scanning env.device (fun _ => true) c.state.trace = false ∧
    (∃ mid, BridgeSteps env pool mid ∧ BridgeSteps env mid c ∧ ShuttingDown env mid) ∧
    ∀ mid, BridgeSteps env pool mid → BridgeSteps env mid c → ShuttingDown env mid →
      (scanning env.device (fun _ => true) c.state.trace = false ↔
        mid.state.readerActive = true ∨
          scanning env.device (fun _ => true) mid.state.trace = false) := by
  have seen : (runSchedule env deliverySettings onlyStart
      [(.control, 3), (.reader, 2), (.control, 19), (.reader, 2), (.control, 27), (.capture 0, 8),
        (.control, 9), (.reader, 2), (.control, 9)] pool).map exitOf =
      some (true, false, false) := by
    decide +kernel
  obtain ⟨c, ran, same⟩ := Option.map_eq_some_iff.mp seen
  simp only [exitOf, Prod.mk.injEq] at same
  have exited : c.code .control = .ret () := Prog.eq_ret_of_hasReturned same.1
  have run : BridgeSteps env pool c := bridgeSteps_of_runSchedule ran
  exact ⟨c, run, exited, same.2.1, shutdown_answers_iff (fun _ => true) started_pool run exited⟩

open Installation in
/-- The answer to a START gets lost. The executor forgets its session, so the shutdown
finds it inactive, and the command returns while the reader is inventorying. -/
theorem lost_answer_left_scanning : ∃ c, BridgeSteps env pool c ∧ c.code .control = .ret () ∧
    scanning env.device (fun _ => true) c.state.trace = true ∧
    c.state.line.inventorying = true := by
  have seen : (runSchedule env deliverySettings lostAnswer
      [(.control, 3), (.reader, 2), (.control, 19), (.reader, 2), (.control, 20)] pool).map
        exitOf = some (true, true, true) := by
    decide +kernel
  obtain ⟨c, ran, same⟩ := Option.map_eq_some_iff.mp seen
  simp only [exitOf, Prod.mk.injEq] at same
  exact ⟨c, bridgeSteps_of_runSchedule ran, Prog.eq_ret_of_hasReturned same.1, same.2.1, same.2.2⟩

end RfidBridge
