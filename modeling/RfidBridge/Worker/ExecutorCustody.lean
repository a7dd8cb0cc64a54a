import RfidBridge.Worker.Custody

/-!
The executor and the capture service under the law of the custody: what a START, a STOP,
a verification, a drain and the hand-over of the capture make of the buffer and of the
session, and where they raise.
-/

namespace RfidBridge
open FinalRuntimeOrchestrator PersistentActiveReaderExecutor

namespace Custody
variable {env : BridgeEnv} {P S : World → Prop} {key : String} {connection : Nat}
  {held : Option String}

/-- The executor counts as active. -/
def Active (w : World) : Prop := w.executor.session ≠ none ∧ w.executor.activeSessionKey ≠ none

theorem lasts_active {p : Prop} : Actor.Lasts Placid fun w => p ↔ Active w := by
  intro w w' placid h
  rw [Active, placid.same.session, placid.same.key]
  exact h

theorem lasts_session {session : Option Nat} :
    Actor.Lasts Placid fun w => w.executor.session = session :=
  fun _ _ placid h => placid.same.session.trans h

theorem lasts_key {key : Option String} :
    Actor.Lasts Placid fun w => w.executor.activeSessionKey = key :=
  fun _ _ placid h => placid.same.key.trans h

/-- What an operation has read. -/
theorem triple_read (op : BridgeOp) (off : op.offCustody) {R : op.Answer → World → Prop}
    (lasts : Actor.Lasts Calm P) (lastsR : ∀ value, Actor.Lasts Calm (R value))
    (reads : ∀ w value w', ownedExec env .control op w (.ok value) w' → R value w) :
    (keeper env).Triple (Holds P) (Prog.perform op)
      (fun value => Holds fun w => P w ∧ R value w) fun _ => Holds P := by
  apply discipline.triple_perform op (Q := fun value w => P w ∧ R value w) lasts
    (fun value => Actor.lasts_and lasts (lastsR value)) (fun _ => stable_holds lasts)
    fun _ _ => law_of_off off
  · intro w value w' h step
    have calm := calm_of_off off step.1
    exact ⟨lasts w w' calm h.2, lastsR value w w' calm (reads w value w' step)⟩
  · exact fun w _ w' h step facts => ⟨facts, lasts w w' (calm_of_off off step.1) h.2⟩

theorem triple_readSession (lasts : Actor.Lasts Calm P) :
    (keeper env).Triple (Holds P) readSession
      (fun session => Holds fun w => P w ∧ w.executor.session = session) fun _ => Holds P := by
  apply triple_read .readSession trivial (R := fun session w => w.executor.session = session) lasts
    fun _ => lasts_calm lasts_session
  intro w session w' step
  obtain ⟨_, ⟨same, -⟩, -⟩ := step.1.effect_of_ok
  exact (Except.ok.inj same).symm

theorem triple_readActiveSessionKey (lasts : Actor.Lasts Calm P) :
    (keeper env).Triple (Holds P) readActiveSessionKey
      (fun key => Holds fun w => P w ∧ w.executor.activeSessionKey = key) fun _ => Holds P := by
  apply triple_read .readActiveSessionKey trivial
    (R := fun key w => w.executor.activeSessionKey = key) lasts fun _ => lasts_calm lasts_key
  intro w key w' step
  obtain ⟨_, ⟨same, -⟩, -⟩ := step.1.effect_of_ok
  exact (Except.ok.inj same).symm

theorem triple_isActive (lasts : Actor.Lasts Calm P) :
    (keeper env).Triple (Holds P) isActive
      (fun active => Holds fun w => P w ∧ (active = true ↔ Active w)) fun _ => Holds P := by
  apply Actor.Triple.seq (fun _ => stable_holds lasts) (triple_readSession lasts)
  intro session
  have known : Actor.Lasts Calm fun w => P w ∧ w.executor.session = session :=
    Actor.lasts_and lasts (lasts_calm lasts_session)
  split
  · rename_i none
    apply Actor.triple_ret (stable_holds known)
    exact fun w h => ⟨h.1, h.2.1, by simp [Active, h.2.2, none]⟩
  · rename_i some
    apply Actor.Triple.seq (fun _ => stable_holds lasts) ((triple_readActiveSessionKey
      known).conseq (fun _ => id) (fun _ _ => id) fun _ _ h => ⟨h.1, h.2.1⟩)
    intro key
    apply Actor.triple_ret (stable_holds (Actor.lasts_and known (lasts_calm lasts_key)))
    exact fun w h => ⟨h.1, h.2.1.1,
      by simp [Active, h.2.1.2, h.2.2, some, Option.isSome_iff_ne_none]⟩

/-- A call of a method of the session that is known. -/
theorem triple_withSession {α : Type} {f : Nat → Bridge α} {Q : α → World → Prop}
    {E : PyException → World → Prop} (lasts : Actor.Lasts Calm P)
    (known : ∀ w, P w → w.executor.session = some connection)
    (stable : ∀ exc, (keeper env).Stable (E exc)) (raises : ∀ exc w, Holds P w → E exc w)
    (body : (keeper env).Triple (Holds P) (f connection) Q E) :
    (keeper env).Triple (Holds P) (withSession f) Q E := by
  apply Actor.Triple.seq stable ((triple_readSession lasts).conseq (fun _ => id) (fun _ _ => id)
    raises)
  intro session w h
  obtain rfl : some connection = session := (known w h.2.1).symm.trans h.2.2
  exact body w ⟨h.1, h.2.1⟩

/-- A request that is no START leaves everything but the line alone. -/
theorem placid_of_send {w w' : World} {request : Bytes} {label : Option String}
    {answer : Except PyException Unit}
    (stop : requestCommand request ≠ some commandStartInventory)
    (step : BridgeStep env .control (.send connection request label) w answer w') :
    Placid w w' := by
  have frame := step.frame.1
  have traced := provenance_of_step step
  rw [Entry.traced, if_neg stop] at traced
  refine ⟨⟨frame.session (by rintro ⟨⟩), frame.activeSessionKey (by rintro ⟨⟩),
    frame.runtime (by rintro ⟨⟩), frame.busy (by rintro ⟨⟩), by rw [traced], ?_⟩, ?_,
    .inl (by rw [traced])⟩
  · rw [frame.threads (by rintro ⟨⟩)]
    exact fun _ => id
  · obtain ⟨_, (rfl | ⟨-, rfl⟩) | ⟨-, rfl⟩, rfl⟩ := step.effect
    · exact .push _ _ stop
    · exact .refl _
    · exact .refl _

theorem keeps_sendStop {request : Bytes} {label : Option String}
    (stop : requestCommand request ≠ some commandStartInventory) (lasts : Actor.Lasts Placid P)
    (opened : ∀ w, Holds P w → connection < w.line.nextConnection) :
    (keeper env).Keeps (Holds P) (send connection request label) := by
  apply Actor.Triple.keeps
  apply discipline.triple_perform (.send connection request label) (Q := fun _ => P)
    (lasts_calm lasts) (fun _ => lasts_calm lasts) fun _ => stable_holds (lasts_calm lasts)
  · exact fun w h => ⟨opened w h, fun start => absurd start stop⟩
  · exact fun w _ w' h step => lasts w w' (placid_of_send stop step.1) h.2
  · exact fun w _ w' h step facts => ⟨facts, lasts w w' (placid_of_send stop step.1) h.2⟩

/-- What the control thread has received last. A STOP answer of status 0 is only heard
from a reader that is quiet. -/
structure Hears (env : BridgeEnv) (connection : Nat) (expectedCommands : List UInt8)
    (frames : List RFIDFrame) (w : World) : Prop where
  received : w.provenance.receives .control = some (connection, frames)
  expected : ∀ frame ∈ frames, frame.command ∈ expectedCommands
  quiet : ∀ frame ∈ frames, frame.command = commandStop → frame.status = 0 →
    frame.address.toNat = env.device.deviceAddress → w.line.Quiet

theorem lasts_hears {expectedCommands : List UInt8} {frames : List RFIDFrame} :
    Actor.Lasts Calm (Hears env connection expectedCommands frames) := by
  intro w w' calm h
  refine ⟨calm.receives.trans h.received, h.expected, ?_⟩
  exact fun frame listed command status address =>
    calm.line.quiet (h.quiet frame listed command status address)

theorem placid_of_receive {w w' : World} {expectedCommands : List UInt8}
    {answer : Except PyException (List RFIDFrame)}
    (step : BridgeStep env .control (.receive connection expectedCommands) w answer w') :
    Placid w w' := by
  have same : Same w w' := same_of_step (.receive connection expectedCommands) nofun trivial step
  refine ⟨same, ?_, .inl ?_⟩
  · rw [step.frame.1.line nofun]
    exact .refl _
  · exact pending_of_step (by nofun) step

theorem triple_receive {expectedCommands : List UInt8} (lasts : Actor.Lasts Placid P)
    (settles : ∀ w, Holds P w → w.line.Settles connection) :
    (keeper env).Triple (Holds P) (receive connection expectedCommands)
      (fun frames => Holds fun w => P w ∧ Hears env connection expectedCommands frames w)
      fun _ => Holds P := by
  apply discipline.triple_perform (.receive connection expectedCommands)
    (Q := fun frames w => P w ∧ Hears env connection expectedCommands frames w)
    (lasts_calm lasts) (fun _ => Actor.lasts_and (lasts_calm lasts) lasts_hears)
    fun _ => stable_holds (lasts_calm lasts)
  · exact fun _ _ => trivial
  · intro w frames w' h step
    refine ⟨lasts w w' (placid_of_receive step.1) h.2, ?_⟩
    have traced := provenance_of_step step.1
    have line := step.1.frame.1.line nofun
    obtain ⟨_, ⟨-, heard⟩, -⟩ := step.1.effect_of_ok
    have heard := heard frames rfl
    refine ⟨by rw [traced]; simp [Entry.traced], fun frame listed => (heard frame listed).1, ?_⟩
    intro frame listed command status address
    rw [line]
    exact (settles w h).answered ((heard frame listed).2 command status address)
  · exact fun w _ w' h step facts => ⟨facts, lasts w w' (placid_of_receive step.1) h.2⟩

/-- The session is opened on this connection, active or not, and the buffer is kept for it. -/
structure Opened (connection : Nat) (key : String) (held : Option String) (w : World) :
    Prop where
  session : w.executor.session = some connection
  active : w.executor.activeSessionKey = held
  started : w.provenance.started connection = some key
  kept : Kept key w
  inside : held = none → w.busy = true

theorem lasts_opened : Actor.Lasts Placid (Opened connection key held) := by
  intro w w' placid h
  refine ⟨placid.same.session.trans h.session, placid.same.key.trans h.active, ?_,
    lasts_kept w w' placid h.kept, ?_⟩
  · rw [placid.same.started]
    exact h.started
  · rw [placid.same.busy]
    exact h.inside

/-- A frame that was received on the connection of the session is put into the buffer. -/
theorem keeps_append {expectedCommands : List UInt8} {frames : List RFIDFrame} {frame : RFIDFrame}
    (lasts : Actor.Lasts Aside S) (listed : frame ∈ frames) :
    (keeper env).Keeps (Holds fun w => (Opened connection key held w ∧ S w) ∧
        Hears env connection expectedCommands frames w)
      (Prog.perform (BridgeOp.appendPendingTagFrame frame)) := by
  have origin : ∀ {w : World}, Hears env connection expectedCommands frames w →
      w.provenance.origin .control frame = some connection := by
    intro w hears
    rw [Provenance.origin, hears.received]
    exact if_pos listed
  have all : Actor.Lasts Calm fun w => (Opened connection key held w ∧ S w) ∧
      Hears env connection expectedCommands frames w :=
    Actor.lasts_and (Actor.lasts_and (lasts_calm lasts_opened)
      (lasts_calm (lasts_aside lasts))) lasts_hears
  have kept : ∀ w answer w', Holds (fun w => (Opened connection key held w ∧ S w) ∧
      Hears env connection expectedCommands frames w) w →
      BridgeStep env .control (.appendPendingTagFrame frame) w answer w' →
      (Opened connection key held w' ∧ S w') ∧ Hears env connection expectedCommands frames w' := by
    rintro w answer w' ⟨-, ⟨opened, side⟩, hears⟩ step
    have same : Same w w' := same_of_step (.appendPendingTagFrame frame) nofun trivial step
    have traced := provenance_of_step step
    have line := step.frame.1.line nofun
    have aside : Aside w w' := ⟨by rw [line]; exact .refl _, same.runtime, same.busy, same.running⟩
    have buffer : PendingOf key w' := by
      cases answer with
      | error _ => exact (pendingOf_congr same.started (by rw [traced]; rfl)).mpr opened.kept.1
      | ok _ =>
          rw [PendingOf, traced, Entry.traced, origin hears]
          refine List.forall_mem_append.mpr ⟨opened.kept.1, fun x last => ?_⟩
          obtain rfl := List.mem_singleton.mp last
          exact ⟨connection, rfl, opened.started⟩
    refine ⟨⟨⟨same.session.trans opened.session, same.key.trans opened.active, ?_, ⟨buffer, ?_⟩,
      ?_⟩, lasts w w' aside side⟩, ?_⟩
    · rw [same.started]
      exact opened.started
    · rw [same.key]
      exact opened.kept.2
    · rw [same.busy]
      exact opened.inside
    · refine ⟨?_, hears.expected, by rw [line]; exact hears.quiet⟩
      rw [traced]
      cases answer <;> exact hears.received
  apply Actor.Triple.keeps
  apply discipline.triple_perform (.appendPendingTagFrame frame)
    (Q := fun _ w => (Opened connection key held w ∧ S w) ∧
      Hears env connection expectedCommands frames w) all (fun _ => all) fun _ => stable_holds all
  · exact fun w h => ⟨connection, origin h.2.2, h.2.1.1.session,
      fun inactive => h.2.1.1.inside (h.2.1.1.active.symm.trans inactive)⟩
  · exact fun w _ w' h step => kept w _ w' h step.1
  · exact fun w _ w' h step facts => ⟨facts, kept w _ w' h step.1⟩

/-- A wait for the answer of the reader. -/
theorem triple_wait {wait : Handshake} {receiveBatch : Bridge (List RFIDFrame)}
    (lasts : Actor.Lasts Placid P) (received : (keeper env).Triple (Holds P) receiveBatch
      (fun frames => Holds fun w => P w ∧ Hears env connection wait.expectedCommands frames w)
      fun _ => Holds P)
    (append : ∀ frames, ∀ frame ∈ frames, frame.command = commandActiveTag →
      (keeper env).Keeps
        (Holds fun w => P w ∧ Hears env connection wait.expectedCommands frames w)
        (Prog.perform (BridgeOp.appendPendingTagFrame frame))) (attempts : Nat) :
    (keeper env).Triple (Holds P) (awaitResponse env.device wait receiveBatch attempts)
      (fun _ => Holds fun w => P w ∧
        (wait.response = commandStop → wait.acceptedStatuses = [0] → w.line.Quiet))
      fun _ => Holds P := by
  intro w before
  apply (sat_awaitResponse (J := fun frames => Holds fun w => P w ∧
    Hears env connection wait.expectedCommands frames w) (stable_holds (lasts_calm lasts))
    (fun _ => stable_holds (Actor.lasts_and (lasts_calm lasts) lasts_hears))
    (fun _ _ h => ⟨h.1, h.2.1⟩) append received attempts w before).mono
  rintro outcome w' after
  cases outcome with
  | error _ => exact after
  | ok frame =>
      obtain ⟨frames, listed, accepted, facts, held, hears⟩ := after
      refine ⟨facts, held, fun stop statuses => ?_⟩
      have status := accepted.status
      rw [statuses] at status
      exact hears.quiet frame listed (accepted.response.trans stop) (List.mem_singleton.mp status)
        accepted.address

theorem requestCommand_stopRequest {device : ReaderDevice} {request : Bytes}
    (built : stopRequest device = .ok request) :
    requestCommand request ≠ some commandStartInventory := by
  rw [requestCommand_of_build built]
  decide

theorem opened_of_holds {w : World} (h : Holds (fun w => Opened connection key held w ∧ S w) w) :
    connection < w.line.nextConnection ∧ w.line.Settles connection :=
  h.1.session connection h.2.1.session

/-- A wait on the connection of the session. -/
theorem triple_waitOpened (wait : Handshake) (lasts : Actor.Lasts Aside S) (attempts : Nat) :
    (keeper env).Triple (Holds fun w => Opened connection key held w ∧ S w)
      (awaitResponse env.device wait
        (withSession fun connection => receive connection wait.expectedCommands) attempts)
      (fun _ => Holds fun w => (Opened connection key held w ∧ S w) ∧
        (wait.response = commandStop → wait.acceptedStatuses = [0] → w.line.Quiet))
      fun _ => Holds fun w => Opened connection key held w ∧ S w := by
  have all : Actor.Lasts Placid fun w => Opened connection key held w ∧ S w :=
    Actor.lasts_and lasts_opened (lasts_aside lasts)
  apply triple_wait all
  · apply triple_withSession (lasts_calm all) (fun _ h => h.1.session)
      (fun _ => stable_holds (lasts_calm all)) fun _ _ => id
    exact triple_receive all fun w h => (opened_of_holds h).2
  · exact fun frames frame listed _ => keeps_append lasts listed

/-- The try block of stop leaves the reader quiet, or the session as it was. -/
theorem triple_stopInventory (lasts : Actor.Lasts Aside S) (sessionKey : String) :
    (keeper env).Triple (Holds fun w => Opened connection key held w ∧ S w)
      (stopInventory env.device sessionKey)
      (fun _ => Holds fun w => (Opened connection key held w ∧ S w) ∧ w.line.Quiet)
      fun _ => Holds fun w => Opened connection key held w ∧ S w := by
  have all : Actor.Lasts Placid fun w => Opened connection key held w ∧ S w :=
    Actor.lasts_and lasts_opened (lasts_aside lasts)
  have stable : ∀ exc : PyException,
      (keeper env).Stable (Holds fun w => Opened connection key held w ∧ S w) :=
    fun _ => stable_holds (lasts_calm all)
  change (keeper env).Triple _ (Prog.bind (Prog.ofExcept (stopRequest env.device)) _) _ _
  cases built : stopRequest env.device with
  | error exc => exact Actor.triple_raise (stable exc) fun _ => id
  | ok request =>
      have sends : (keeper env).Triple (Holds fun w => Opened connection key held w ∧ S w)
          (withSession fun connection => send connection request (some sessionKey))
          (fun _ => Holds fun w => Opened connection key held w ∧ S w)
          fun _ => Holds fun w => Opened connection key held w ∧ S w := by
        apply triple_withSession (lasts_calm all) (fun _ h => h.1.session) stable fun _ _ => id
        exact (keeps_sendStop (requestCommand_stopRequest built) all
          fun w h => (opened_of_holds h).1).triple
      apply Actor.Triple.seq stable sends
      intro _
      apply Actor.Triple.seq stable (triple_waitOpened stopHandshake lasts 32)
      intro _
      apply Actor.triple_ret
      · exact stable_holds (Actor.lasts_and (lasts_calm all) (Actor.lasts_imp (Actor.lasts_imp
          (lasts_calm (lasts_aside lasts_quiet)))))
      · exact fun w h => ⟨h.1, h.2.1, h.2.2 rfl rfl⟩

theorem aside_of_step {w w' : World} {op : BridgeOp} {answer : Except PyException op.Answer}
    (step : BridgeStep env .control op w answer w') (line : op.writes ≠ some .line)
    (runtime : op.writes ≠ some .runtime) (busy : op.writes ≠ some .busy)
    (threads : op.writes ≠ some .threads) : Aside w w' := by
  have frame := step.frame.1
  refine ⟨?_, frame.runtime runtime, frame.busy busy, ?_⟩
  · rw [frame.line line]
    exact .refl _
  · rw [frame.threads threads]
    exact fun _ => id

/-- An operation on the attributes can only be interrupted. -/
theorem raised_of_certain {w w' : World} {op : BridgeOp} {exc : PyException}
    (certain : op.certain = true) (step : ownedExec env .control op w (.error exc) w')
    (facts : Custody w') : Raised P exc w' := by
  obtain ⟨rfl, -⟩ := step.1.interrupted certain
  exact ⟨⟨facts, trivial⟩, nofun⟩

/-- An operation that cannot fail. -/
theorem triple_certain (op : BridgeOp) {P' R : World → Prop} (certain : op.certain = true)
    (lasts : Actor.Lasts Calm P) (lasts' : Actor.Lasts Calm P') (lastsR : Actor.Lasts Calm R)
    (lawful : ∀ w, Holds P w → CustodyLaw .control op w)
    (returns : ∀ w value w', Holds P w → ownedExec env .control op w (.ok value) w' → P' w') :
    (keeper env).Triple (Holds P) (Prog.perform op) (fun _ => Holds P') (Raised R) :=
  discipline.triple_perform op (Q := fun _ => P') lasts (fun _ => lasts') (stable_raised lastsR)
    lawful returns fun _ _ _ _ step facts => raised_of_certain certain step facts

/-- The executor forgets its session; the buffer it keeps. -/
theorem triple_forgetSession {R : World → Prop} (lasts : Actor.Lasts Aside S)
    (lastsR : Actor.Lasts Calm R) :
    (keeper env).Triple (Holds fun w => Kept key w ∧ S w) forgetSession
      (fun _ => Holds fun w => (Kept key w ∧ Off w) ∧ S w) (Raised R) := by
  have side := lasts_aside lasts
  have writes : (keeper env).Triple (Holds fun w => Kept key w ∧ S w)
      (writeSession none)
      (fun _ => Holds fun w => (Kept key w ∧ w.executor.session = none) ∧ S w) (Raised R) := by
    apply triple_certain (.writeSession none) rfl (lasts_calm (Actor.lasts_and lasts_kept side))
      (lasts_calm (Actor.lasts_and (Actor.lasts_and lasts_kept lasts_session) side)) lastsR
    · exact fun _ _ => nofun
    · intro w _ w' h step
      have untouched := untouched_of_step (.writeSession none) nofun nofun step.1
      have aside := aside_of_step step.1 nofun nofun nofun nofun
      refine ⟨⟨⟨?_, ?_⟩, ?_⟩, lasts w w' aside h.2.2⟩
      · exact (pendingOf_congr untouched.started untouched.pending).mpr h.2.1.1
      · rw [step.1.frame.1.activeSessionKey nofun]
        exact h.2.1.2
      · obtain ⟨_, ⟨-, rfl⟩, rfl⟩ := step.1.effect_of_ok
        rfl
  apply Actor.Triple.seq (stable_raised lastsR) writes
  intro _
  apply triple_certain (.writeActiveSessionKey none) rfl
    (lasts_calm (Actor.lasts_and (Actor.lasts_and lasts_kept lasts_session) side))
    (lasts_calm (Actor.lasts_and (Actor.lasts_and lasts_kept lasts_off) side)) lastsR
  · exact fun _ _ => nofun
  · intro w _ w' h step
    have untouched := untouched_of_step (.writeActiveSessionKey none) nofun nofun step.1
    have aside := aside_of_step step.1 nofun nofun nofun nofun
    have session : w'.executor.session = none :=
      (step.1.frame.1.session nofun).trans h.2.1.2
    have inactive : w'.executor.activeSessionKey = none := by
      obtain ⟨_, ⟨-, rfl⟩, rfl⟩ := step.1.effect_of_ok
      rfl
    refine ⟨⟨⟨?_, ?_⟩, session, inactive⟩, lasts w w' aside h.2.2⟩
    · exact (pendingOf_congr untouched.started untouched.pending).mpr h.2.1.1.1
    · rw [inactive]
      nofun

/-- The session is closed and forgotten, or it is left as it was. -/
theorem triple_close (key : String) (lasts : Actor.Lasts Aside S) (lastsP : Actor.Lasts Placid P)
    (kept : ∀ w, P w → Kept key w ∧ S w) :
    (keeper env).Triple (Holds P) close (fun _ => Holds fun w => (Kept key w ∧ Off w) ∧ S w)
      (Raised P) := by
  have closes : (keeper env).Triple (Holds P) closeOpenSession (fun _ => Holds P) (Raised P) := by
    apply triple_off (lasts_calm lastsP)
    apply Prog.calls_bind (Prog.calls_perform trivial)
    intro session
    split
    · exact Prog.calls_pure _ _
    · exact calls_withSession trivial fun connection => Prog.calls_perform trivial
  apply Actor.Triple.seq (stable_raised (lasts_calm lastsP)) closes
  intro _
  exact (triple_forgetSession lasts (lasts_calm lastsP)).conseq (fun w h => ⟨h.1, kept w h.2⟩)
    (fun _ _ => id) fun _ _ => id

theorem working_of_off {w : World} (h : (Kept key w ∧ Off w) ∧ S w) : Working key w ∧ S w :=
  ⟨⟨h.1.1, .inl h.1.2⟩, h.2⟩

theorem working_of_opened {w : World} (h : Opened connection key (some key) w ∧ S w) :
    Working key w ∧ S w := by
  refine ⟨⟨h.1.kept, .inr ⟨?_, h.1.active⟩⟩, h.2⟩
  rw [h.1.session]
  nofun

/-- A session that is worked on and active is opened. -/
theorem opened_of_active {w : World} (facts : Custody w) (h : Working key w) (on : Active w) :
    ∃ connection, Opened connection key (some key) w := by
  obtain ⟨kept, off | ⟨-, active⟩⟩ := h
  · exact absurd off.1 on.1
  · obtain ⟨connection, session⟩ := Option.ne_none_iff_exists'.mp on.1
    exact ⟨connection, session, active, (facts.held key active).2.2 connection session, kept, nofun⟩

/-- A stop leaves the reader quiet and the executor off, or it can be tried again. -/
theorem triple_stop (lasts : Actor.Lasts Aside S) (sessionKey readerCode : String) :
    (keeper env).Triple (Holds fun w => Working key w ∧ S w)
      (PersistentActiveReaderExecutor.stop env.device sessionKey readerCode)
      (fun _ => Holds fun w => ((Kept key w ∧ Off w) ∧ S w) ∧ w.line.Quiet)
      (Raised fun w => Working key w ∧ S w) := by
  have side := lasts_aside lasts
  have all : Actor.Lasts Calm fun w => Working key w ∧ S w :=
    lasts_calm (Actor.lasts_and lasts_working side)
  unfold PersistentActiveReaderExecutor.stop
  split
  · exact Actor.triple_raise (stable_holds all) fun _ => raised_of_holds
  apply Actor.Triple.seq (stable_raised all) ((triple_isActive all).conseq (fun _ => id)
    (fun _ _ => id) fun _ _ => raised_of_holds)
  intro active
  have known : Actor.Lasts Calm fun w => (Working key w ∧ S w) ∧ (active = true ↔ Active w) :=
    Actor.lasts_and all (lasts_calm lasts_active)
  split
  · exact Actor.triple_raise (stable_holds known) fun _ h => raised_of_holds ⟨h.1, h.2.1⟩
  rename_i on
  apply Actor.Triple.seq (stable_raised all) ((triple_readActiveSessionKey known).conseq
    (fun _ => id) (fun _ _ => id) fun _ _ h => raised_of_holds ⟨h.1, h.2.1⟩)
  intro activeKey
  split
  · exact Actor.triple_raise (stable_holds (Actor.lasts_and known (lasts_calm lasts_key)))
      fun _ h => raised_of_holds ⟨h.1, h.2.1.1⟩
  rintro w ⟨facts, ⟨⟨working, beside⟩, isActive⟩, -⟩
  obtain ⟨connection, opened⟩ := opened_of_active facts working
    (isActive.mp (Bool.not_eq_false _ ▸ on))
  have stops : (keeper env).Triple
      (Holds fun w => Opened connection key (some key) w ∧ S w)
      (Prog.tryFinally (stopInventory env.device (strip sessionKey)) close)
      (fun _ => Holds fun w => ((Kept key w ∧ Off w) ∧ S w) ∧ w.line.Quiet)
      (Raised fun w => Working key w ∧ S w) := by
    have quiet : Actor.Lasts Aside fun w => S w ∧ w.line.Quiet :=
      Actor.lasts_and lasts lasts_quiet
    apply Actor.Triple.handle (triple_stopInventory lasts (strip sessionKey))
    · intro _
      apply Actor.Triple.seq (stable_raised all) ((triple_close key quiet
        (Actor.lasts_and (Actor.lasts_and lasts_opened side) (lasts_aside lasts_quiet))
        fun w h => ⟨h.1.1.kept, h.1.2, h.2⟩).conseq (fun _ => id) (fun _ _ => id)
        fun _ _ h => raised_mono h fun _ h => working_of_opened h.1)
      intro _
      apply Actor.triple_ret
      · exact stable_holds (lasts_calm (Actor.lasts_and (Actor.lasts_and lasts_kept lasts_off)
          (lasts_aside quiet)))
      · exact fun w h => ⟨h.1, ⟨h.2.1, h.2.2.1⟩, h.2.2.2⟩
    · intro exc
      apply Actor.Triple.seq (stable_raised all) ((triple_close key lasts
        (Actor.lasts_and lasts_opened side) fun w h => ⟨h.1.kept, h.2⟩).conseq (fun _ => id)
        (fun _ _ => id) fun _ _ h => raised_mono h fun _ => working_of_opened)
      intro _
      apply Actor.triple_raise
      · exact stable_holds (lasts_calm (Actor.lasts_and (Actor.lasts_and lasts_kept lasts_off)
          side))
      · exact fun w h => raised_of_holds ⟨h.1, working_of_off h.2⟩
  exact stops w ⟨facts, opened, beside⟩

/-- A START is being executed, before its session is read. -/
def Begun (P : LocalReaderRuntime → Prop) (w : World) : Prop :=
  (w.busy = true ∧ P w.runtime) ∧ NoneRunning w

section
variable {P : LocalReaderRuntime → Prop}

theorem lasts_begun : Actor.Lasts Aside (Begun P) :=
  Actor.lasts_and (lasts_runtime (P := fun busy runtime => busy = true ∧ P runtime))
    lasts_noneRunning

theorem begun_of_step {w w' : World} {op : BridgeOp} {answer : Except PyException op.Answer}
    (step : BridgeStep env .control op w answer w') (runtime : op.writes ≠ some .runtime)
    (busy : op.writes ≠ some .busy) (threads : op.writes ≠ some .threads) (h : Begun P w) :
    Begun P w' := by
  have frame := step.frame.1
  refine ⟨?_, ?_⟩
  · rw [frame.busy busy, frame.runtime runtime]
    exact h.1
  · rw [NoneRunning, frame.threads threads]
    exact h.2

theorem lasts_fresh : Actor.Lasts Calm (Fresh connection) := by
  intro w w' calm h
  refine ⟨calm.same.key.trans h.inactive, Nat.lt_of_lt_of_le h.opened calm.line.opened,
    calm.unused connection h.unused, ?_⟩
  rw [calm.same.started]
  exact h.unstarted

/-- The session is opened on a connection that has not been used. -/
def OpenedFresh (connection : Nat) (key : String) (w : World) : Prop :=
  (Kept key w ∧ w.executor.session = some connection) ∧ Fresh connection w

theorem lasts_openedFresh : Actor.Lasts Calm (OpenedFresh connection key) :=
  Actor.lasts_and (lasts_calm (Actor.lasts_and lasts_kept lasts_session)) lasts_fresh

theorem triple_connect :
    (keeper env).Triple (Holds fun w => (Kept key w ∧ Off w) ∧ Begun P w)
      (Prog.perform BridgeOp.connect : Bridge Nat)
      (fun connection => Holds fun w => ((Kept key w ∧ Off w) ∧ Begun P w) ∧ Fresh connection w)
      (Raised fun w => (Kept key w ∧ Off w) ∧ Begun P w) := by
  have lasts : Actor.Lasts Calm fun w => (Kept key w ∧ Off w) ∧ Begun P w :=
    lasts_calm (Actor.lasts_and (Actor.lasts_and lasts_kept lasts_off) (lasts_aside lasts_begun))
  apply triple_step .connect (Q := fun connection w =>
    ((Kept key w ∧ Off w) ∧ Begun P w) ∧ Fresh connection w) lasts
    (fun _ => Actor.lasts_and lasts lasts_fresh) lasts fun _ _ => trivial
  · intro w connection w' h step
    refine ⟨lasts w w' (calm_of_connect step.1) h.2, ?_⟩
    have started := started_of_step (by nofun) step.1
    have inactive := step.1.frame.1.activeSessionKey nofun
    obtain ⟨_, ⟨same, rfl⟩ | ⟨⟨_, failed⟩, -⟩, rfl⟩ := step.1.effect_of_ok
    · obtain rfl := Except.ok.inj same
      refine ⟨inactive.trans h.2.1.2.2, Nat.lt_succ_self _, h.1.numbered.unused, ?_⟩
      rw [started]
      by_contra named
      obtain ⟨k, named⟩ := Option.ne_none_iff_exists'.mp named
      exact Nat.lt_irrefl _ (h.1.started _ k named)
    · cases failed
  · exact fun w exc w' h step => lasts w w' (calm_of_connect step.1) h.2

theorem triple_openSession :
    (keeper env).Triple
      (Holds fun w => ((Kept key w ∧ Off w) ∧ Begun P w) ∧ Fresh connection w)
      (writeSession (some connection))
      (fun _ => Holds fun w => OpenedFresh connection key w ∧ Begun P w)
      (Raised fun w => Kept key w ∧ Begun P w) := by
  have begun : Actor.Lasts Calm (Begun P) := lasts_calm (lasts_aside lasts_begun)
  apply triple_certain (.writeSession (some connection)) rfl
    (Actor.lasts_and (Actor.lasts_and
      (lasts_calm (Actor.lasts_and lasts_kept lasts_off)) begun) lasts_fresh)
    (Actor.lasts_and lasts_openedFresh begun) (Actor.lasts_and (lasts_calm lasts_kept) begun)
  · rintro w h _ ⟨⟩
    exact ⟨h.2.1.2.1.1, h.2.2⟩
  · intro w _ w' h step
    have untouched := untouched_of_step (.writeSession (some connection)) nofun nofun step.1
    have same := step.1.frame.1.activeSessionKey nofun
    refine ⟨⟨⟨⟨?_, ?_⟩, ?_⟩, ?_⟩, begun_of_step step.1 nofun nofun nofun h.2.1.2⟩
    · exact (pendingOf_congr untouched.started untouched.pending).mpr h.2.1.1.1.1
    · rw [same]
      exact h.2.1.1.1.2
    · obtain ⟨_, ⟨-, rfl⟩, rfl⟩ := step.1.effect_of_ok
      rfl
    · refine ⟨same.trans h.2.2.inactive, ?_, ?_, ?_⟩
      · rw [untouched.line]
        exact h.2.2.opened
      · rw [untouched.line]
        exact h.2.2.unused
      · rw [untouched.started]
        exact h.2.2.unstarted

theorem requestCommand_startRequest {device : ReaderDevice} {request : Bytes}
    (built : startRequest device = .ok request) :
    requestCommand request = some commandStartInventory :=
  requestCommand_of_build built

/-- From here on the connection is the one of this session, whether the call raises or not. -/
theorem triple_sendStart {request : Bytes}
    (start : requestCommand request = some commandStartInventory) :
    (keeper env).Triple (Holds fun w => OpenedFresh connection key w ∧ Begun P w)
      (send connection request (some key))
      (fun _ => Holds fun w => Opened connection key none w ∧ Begun P w)
      (Raised fun w => Kept key w ∧ Begun P w) := by
  have begun : Actor.Lasts Calm (Begun P) := lasts_calm (lasts_aside lasts_begun)
  have opens : ∀ w answer w', Holds (fun w => OpenedFresh connection key w ∧ Begun P w) w →
      BridgeStep env .control (.send connection request (some key)) w answer w' →
      Opened connection key none w' ∧ Begun P w' := by
    rintro w answer w' ⟨-, ⟨⟨kept, session⟩, fresh⟩, begun⟩ step
    have frame := step.frame.1
    have traced := provenance_of_step step
    rw [Entry.traced, if_pos start] at traced
    have begun' := begun_of_step step (by rintro ⟨⟩) (by rintro ⟨⟩) (by rintro ⟨⟩) begun
    refine ⟨⟨(frame.session (by rintro ⟨⟩)).trans session, ?_, ?_, ⟨?_, ?_⟩,
      fun _ => begun'.1.1⟩, begun'⟩
    · exact (frame.activeSessionKey (by rintro ⟨⟩)).trans fresh.inactive
    · rw [traced]
      exact Function.update_self ..
    · rw [PendingOf, traced]
      intro x buffered
      obtain ⟨other, from_, named⟩ := kept.1 x buffered
      refine ⟨other, from_, ?_⟩
      have apart : other ≠ connection := by
        rintro rfl
        cases fresh.unstarted.symm.trans named
      exact (Function.update_of_ne apart _ _).trans named
    · rw [frame.activeSessionKey (by rintro ⟨⟩)]
      exact kept.2
  apply triple_step (.send connection request (some key))
    (Q := fun _ w => Opened connection key none w ∧ Begun P w)
    (Actor.lasts_and lasts_openedFresh begun)
    (fun _ => Actor.lasts_and (lasts_calm lasts_opened) begun)
    (Actor.lasts_and (lasts_calm lasts_kept) begun)
  · exact fun w h => ⟨h.2.1.2.opened, fun _ => ⟨rfl, h.2.2.1.1, h.2.1.1.2, h.2.1.2⟩⟩
  · exact fun w _ w' h step => opens w _ w' h step.1
  · intro w exc w' h step
    obtain ⟨opened, begun⟩ := opens w _ w' h step.1
    exact ⟨opened.kept, begun⟩

/-- The session is active once the reader has answered the START. -/
theorem triple_activate (clean : strip key = key) :
    (keeper env).Triple (Holds fun w => Opened connection key none w ∧ Begun P w)
      (writeActiveSessionKey (some key))
      (fun _ => Holds fun w => (Kept key w ∧ On key w) ∧ Begun P w)
      (Raised fun w => Kept key w ∧ Begun P w) := by
  have begun : Actor.Lasts Calm (Begun P) := lasts_calm (lasts_aside lasts_begun)
  apply triple_certain (.writeActiveSessionKey (some key)) rfl
    (Actor.lasts_and (lasts_calm lasts_opened) begun)
    (Actor.lasts_and (lasts_calm (Actor.lasts_and lasts_kept lasts_on)) begun)
    (Actor.lasts_and (lasts_calm lasts_kept) begun)
  · rintro w ⟨-, opened, begun⟩ _ ⟨⟩
    refine ⟨begun.1.1, clean, opened.kept.1, fun other session => ?_⟩
    obtain rfl : connection = other := Option.some.inj (opened.session.symm.trans session)
    exact opened.started
  · rintro w _ w' ⟨-, opened, begun⟩ step
    have untouched := untouched_of_step (.writeActiveSessionKey (some key)) nofun nofun step.1
    have session := (step.1.frame.1.session nofun).trans opened.session
    have active : w'.executor.activeSessionKey = some key := by
      obtain ⟨_, ⟨-, rfl⟩, rfl⟩ := step.1.effect_of_ok
      rfl
    refine ⟨⟨⟨?_, ?_⟩, ?_, active⟩, begun_of_step step.1 nofun nofun nofun begun⟩
    · exact (pendingOf_congr untouched.started untouched.pending).mpr opened.kept.1
    · rw [active]
      rintro k ⟨⟩
      rfl
    · rw [session]
      nofun

theorem triple_startInventory (clean : strip key = key) :
    (keeper env).Triple
      (Holds fun w => ((Kept key w ∧ Off w) ∧ Begun P w) ∧ Fresh connection w)
      (startInventory env.device connection key)
      (fun _ => Holds fun w => (Kept key w ∧ On key w) ∧ Begun P w)
      (Raised fun w => Kept key w ∧ Begun P w) := by
  have begun : Actor.Lasts Calm (Begun P) := lasts_calm (lasts_aside lasts_begun)
  have stable : ∀ exc, (keeper env).Stable (Raised (fun w => Kept key w ∧ Begun P w) exc) :=
    stable_raised (Actor.lasts_and (lasts_calm lasts_kept) begun)
  have fresh : Actor.Lasts Calm fun w => OpenedFresh connection key w ∧ Begun P w :=
    Actor.lasts_and lasts_openedFresh begun
  have fails : ∀ exc w, Holds (fun w => OpenedFresh connection key w ∧ Begun P w) w →
      Raised (fun w => Kept key w ∧ Begun P w) exc w :=
    fun exc w h => raised_of_holds ⟨h.1, h.2.1.1.1, h.2.2⟩
  apply Actor.Triple.seq stable triple_openSession
  intro _
  change (keeper env).Triple _ (Prog.bind (Prog.ofExcept (startRequest env.device)) _) _ _
  cases built : startRequest env.device with
  | error exc => exact Actor.triple_raise (stable_holds fresh) (fails exc)
  | ok request =>
      apply Actor.Triple.seq stable (triple_withSession fresh (fun _ h => h.1.1.2) stable fails
        (triple_sendStart (requestCommand_startRequest built)))
      intro _
      have waits : (keeper env).Triple
          (Holds fun w => Opened connection key none w ∧ Begun P w)
          (waitForStartResponse env.device)
          (fun _ => Holds fun w => Opened connection key none w ∧ Begun P w)
          (Raised fun w => Kept key w ∧ Begun P w) :=
        (triple_waitOpened startHandshake lasts_begun 32).conseq (fun _ => id)
          (fun _ w h => ⟨h.1, h.2.1⟩) fun exc w h => raised_of_holds ⟨h.1, h.2.1.kept, h.2.2⟩
      exact Actor.Triple.seq stable waits fun _ => triple_activate clean

/-- A START leaves the session active, or the executor off. -/
theorem triple_openAndStart (clean : strip key = key) :
    (keeper env).Triple (Holds fun w => (Kept key w ∧ Off w) ∧ Begun P w)
      (openAndStart env.device key)
      (fun _ => Holds fun w => (Kept key w ∧ On key w) ∧ Begun P w)
      (Raised fun w => (Kept key w ∧ Off w) ∧ Begun P w) := by
  have begun : Actor.Lasts Placid (Begun P) := lasts_aside lasts_begun
  have kept : Actor.Lasts Placid fun w => Kept key w ∧ Begun P w :=
    Actor.lasts_and lasts_kept begun
  have off : Actor.Lasts Placid fun w => (Kept key w ∧ Off w) ∧ Begun P w :=
    Actor.lasts_and (Actor.lasts_and lasts_kept lasts_off) begun
  have stable : ∀ exc, (keeper env).Stable
      (Raised (fun w => (Kept key w ∧ Off w) ∧ Begun P w) exc) :=
    stable_raised (lasts_calm off)
  have passes : ∀ {α : Type} {Q : α → World → Prop} {P' : World → Prop} (exc : PyException),
      Actor.Lasts Calm P' → exc.isException = false →
      (keeper env).Triple (Raised P' exc) (.raise exc : Bridge α) Q
        (Raised fun w => (Kept key w ∧ Off w) ∧ Begun P w) :=
    fun exc lasts interrupt => Actor.triple_raise (stable_raised lasts exc) fun _ h =>
      ⟨h.1, fun caught => absurd caught (by simp [interrupt])⟩
  have forgets : (keeper env).Triple (Holds fun w => Kept key w ∧ Begun P w) forgetSession
      (fun _ => Holds fun w => (Kept key w ∧ Off w) ∧ Begun P w)
      (Raised fun w => (Kept key w ∧ Off w) ∧ Begun P w) :=
    triple_forgetSession lasts_begun (lasts_calm off)
  have reraises : ∀ {Q : Unit → World → Prop} (exc : PyException),
      (keeper env).Triple (Holds fun w => (Kept key w ∧ Off w) ∧ Begun P w)
        (.raise exc : Bridge Unit) Q (Raised fun w => (Kept key w ∧ Off w) ∧ Begun P w) :=
    fun exc => Actor.triple_raise (stable_holds (lasts_calm off)) fun _ => raised_of_holds
  change (keeper env).Triple _ (Prog.bind (Prog.ofExcept (buildTransport env.device)) _) _ _
  cases buildTransport env.device with
  | error exc => exact reraises exc
  | ok _ =>
  refine triple_tryElse triple_connect ?_ (fun exc => passes exc (lasts_calm off)) ?_
  · intro exc caught
    apply Actor.Triple.seq stable (forgets.conseq (fun w h => ⟨h.1.1, ?_⟩) (fun _ _ => id)
      fun _ _ => id)
    · exact fun _ => reraises exc
    · exact ⟨(h.2 caught).2.1.1, (h.2 caught).2.2⟩
  · intro connection
    refine triple_tryElse (triple_startInventory clean) ?_
      (fun exc => passes exc (lasts_calm kept)) ?_
    · intro exc caught
      have closes : (keeper env).Triple (Holds fun w => Kept key w ∧ Begun P w)
          (closeSession connection) (fun _ => Holds fun w => Kept key w ∧ Begun P w)
          fun _ => Holds fun w => Kept key w ∧ Begun P w :=
        (keeps_harmless discipline (lasts_calm kept) ((Prog.calls_perform trivial).mono
          harmless_of_off)).triple
      have cleans : (keeper env).Triple (Holds fun w => Kept key w ∧ Begun P w)
          (Prog.tryFinally (closeSession connection) forgetSession)
          (fun _ => Holds fun w => (Kept key w ∧ Off w) ∧ Begun P w)
          (Raised fun w => (Kept key w ∧ Off w) ∧ Begun P w) := by
        apply Actor.Triple.handle closes
        · intro _
          apply Actor.Triple.seq stable forgets
          exact fun _ => Actor.triple_ret (stable_holds (lasts_calm off)) fun _ => id
        · intro exc
          exact Actor.Triple.seq stable forgets fun _ => reraises exc
      apply Actor.Triple.seq stable (cleans.conseq (fun w h => h.2 caught) (fun _ _ => id)
        fun _ _ => id)
      exact fun _ => reraises exc
    · exact fun _ => Actor.triple_ret (stable_holds (Actor.lasts_and (lasts_calm
        (Actor.lasts_and lasts_kept lasts_on)) (lasts_calm begun))) fun _ => id

theorem triple_start (clean : strip key = key) (readerCode : String) :
    (keeper env).Triple (Holds fun w => (Kept key w ∧ Off w) ∧ Begun P w)
      (PersistentActiveReaderExecutor.start env.device key readerCode)
      (fun _ => Holds fun w => (Kept key w ∧ On key w) ∧ Begun P w)
      (Raised fun w => (Kept key w ∧ Off w) ∧ Begun P w) := by
  have off : Actor.Lasts Calm fun w => (Kept key w ∧ Off w) ∧ Begun P w :=
    lasts_calm (Actor.lasts_and (Actor.lasts_and lasts_kept lasts_off) (lasts_aside lasts_begun))
  have raises : ∀ {α : Type} {Q : α → World → Prop} (exc : PyException),
      (keeper env).Triple (Holds fun w => (Kept key w ∧ Off w) ∧ Begun P w)
        (.raise exc : Bridge α) Q (Raised fun w => (Kept key w ∧ Off w) ∧ Begun P w) :=
    fun exc => Actor.triple_raise (stable_holds off) fun _ => raised_of_holds
  unfold PersistentActiveReaderExecutor.start
  split
  · exact raises _
  split
  · exact raises _
  apply Actor.Triple.seq (stable_raised off) ((triple_isActive off).conseq (fun _ => id)
    (fun _ _ => id) fun _ _ => raised_of_holds)
  rintro active w ⟨facts, holds, isActive⟩
  have inactive : active = false := by
    apply Bool.eq_false_iff.mpr
    exact fun on => (isActive.mp on).1 holds.1.2.1
  rw [inactive, clean]
  exact triple_openAndStart clean w ⟨facts, holds⟩

end

/-- A STOP that is answered on this connection leaves the reader quiet. -/
def Settled (connection : Nat) (w : World) : Prop :=
  connection < w.line.nextConnection ∧ w.line.Settles connection

theorem lasts_settled : Actor.Lasts Aside (Settled connection) :=
  fun _ _ aside h => ⟨Nat.lt_of_lt_of_le h.1 aside.line.opened, aside.line.settles connection h.2⟩

/-- The startup verification on its connection. -/
theorem triple_verifyStopped (lasts : Actor.Lasts Placid P) :
    (keeper env).Triple (Holds fun w => P w ∧ Settled connection w)
      (verifyStopped env.device connection) (fun _ => Holds fun w => P w ∧ w.line.Quiet)
      fun _ => Holds P := by
  have all : Actor.Lasts Placid fun w => P w ∧ Settled connection w :=
    Actor.lasts_and lasts (lasts_aside lasts_settled)
  have stable : ∀ exc : PyException, (keeper env).Stable (Holds P) :=
    fun _ => stable_holds (lasts_calm lasts)
  have weaken : ∀ (_ : PyException) w, Holds (fun w => P w ∧ Settled connection w) w →
      Holds P w :=
    fun _ w h => ⟨h.1, h.2.1⟩
  change (keeper env).Triple _ (Prog.bind (Prog.ofExcept (stopRequest env.device)) _) _ _
  cases built : stopRequest env.device with
  | error exc => exact Actor.triple_raise (stable_holds (lasts_calm all)) (weaken exc)
  | ok request =>
      have sends : (keeper env).Keeps (Holds fun w => P w ∧ Settled connection w)
          (send connection request none) :=
        keeps_sendStop (requestCommand_stopRequest built) all fun w h => h.2.2.1
      apply Actor.Triple.seq stable (sends.triple.conseq (fun _ => id) (fun _ _ => id) weaken)
      intro _
      have receives : (keeper env).Triple (Holds fun w => P w ∧ Settled connection w)
          (receive connection verifyHandshake.expectedCommands)
          (fun frames => Holds fun w => (P w ∧ Settled connection w) ∧
            Hears env connection verifyHandshake.expectedCommands frames w)
          fun _ => Holds fun w => P w ∧ Settled connection w :=
        triple_receive all fun w h => h.2.2.2
      have waits := triple_wait all receives ?_ 32
      · apply Actor.Triple.seq stable (waits.conseq (fun _ => id) (fun _ _ => id) weaken)
        intro _
        apply Actor.triple_ret
        · exact stable_holds (Actor.lasts_and (lasts_calm all) (Actor.lasts_imp (Actor.lasts_imp
            (lasts_calm (lasts_aside lasts_quiet)))))
        · exact fun w h => ⟨h.1, h.2.1.1, h.2.2 rfl rfl⟩
      · -- only STOP answers are received here
        rintro frames frame listed tag w ⟨-, -, hears⟩
        have stop : frame.command = commandStop :=
          List.mem_singleton.mp (hears.expected frame listed)
        rw [tag] at stop
        cases stop

theorem triple_connectSettled (lasts : Actor.Lasts Placid P) :
    (keeper env).Triple (Holds P) (Prog.perform BridgeOp.connect : Bridge Nat)
      (fun connection => Holds fun w => P w ∧ Settled connection w) fun _ => Holds P := by
  apply discipline.triple_perform .connect (Q := fun connection w => P w ∧ Settled connection w)
    (lasts_calm lasts) (fun _ => lasts_calm (Actor.lasts_and lasts (lasts_aside lasts_settled)))
    (fun _ => stable_holds (lasts_calm lasts)) fun _ _ => trivial
  · intro w connection w' h step
    refine ⟨lasts_calm lasts w w' (calm_of_connect step.1) h.2, ?_⟩
    obtain ⟨_, ⟨same, rfl⟩ | ⟨⟨_, failed⟩, -⟩, rfl⟩ := step.1.effect_of_ok
    · obtain rfl := Except.ok.inj same
      exact ⟨Nat.lt_succ_self _, h.1.numbered.unused.settles⟩
    · cases failed
  · exact fun w _ w' h step facts =>
      ⟨facts, lasts_calm lasts w w' (calm_of_connect step.1) h.2⟩

/-- A verification of the idle reader. -/
theorem triple_verifyIdle (lasts : Actor.Lasts Placid P) :
    (keeper env).Triple (Holds P) (verifyIdle env.device)
      (fun _ => Holds fun w => P w ∧ w.line.Quiet) fun _ => Holds P := by
  have stable : ∀ exc : PyException, (keeper env).Stable (Holds P) :=
    fun _ => stable_holds (lasts_calm lasts)
  have raises : ∀ {α : Type} {Q : α → World → Prop} (exc : PyException),
      (keeper env).Triple (Holds P) (.raise exc : Bridge α) Q fun _ => Holds P :=
    fun exc => Actor.triple_raise (stable exc) fun _ => id
  apply Actor.Triple.seq stable ((triple_isActive (lasts_calm lasts)).conseq (fun _ => id)
    (fun _ w h => (⟨h.1, h.2.1⟩ : Holds P w)) fun _ _ => id)
  intro active
  split
  · exact raises _
  change (keeper env).Triple _ (Prog.bind (Prog.ofExcept (buildTransport env.device)) _) _ _
  cases buildTransport env.device with
  | error exc => exact raises exc
  | ok _ =>
  apply Actor.Triple.seq stable (triple_connectSettled lasts)
  intro connection
  have closes : ∀ {P' : World → Prop}, Actor.Lasts Calm P' →
      (keeper env).Triple (Holds P') (closeSession connection) (fun _ => Holds P')
        fun _ => Holds P' :=
    fun lasts => (keeps_harmless discipline lasts ((Prog.calls_perform trivial).mono
      harmless_of_off)).triple
  have quiet : Actor.Lasts Calm fun w => P w ∧ w.line.Quiet :=
    lasts_calm (Actor.lasts_and lasts (lasts_aside lasts_quiet))
  apply Actor.Triple.handle (triple_verifyStopped lasts)
  · intro _
    apply Actor.Triple.seq stable ((closes quiet).conseq (fun _ => id) (fun _ _ => id)
      fun _ _ h => ⟨h.1, h.2.1⟩)
    exact fun _ => Actor.triple_ret (stable_holds quiet) fun _ => id
  · intro exc
    exact Actor.Triple.seq stable (closes (lasts_calm lasts)) fun _ => raises exc

theorem lasts_captureKey {key : Option String} :
    Actor.Lasts Calm fun w => w.capture.sessionKey = key :=
  fun _ _ calm h => calm.captureKey.trans h

theorem placid_of_writeCaptureSessionKey {w w' : World} {key : Option String}
    {answer : Except PyException Unit}
    (step : BridgeStep env .control (.writeCaptureSessionKey key) w answer w') : Placid w w' :=
  placid_of_plain step trivial nofun rfl

/-- The capture service takes or drops a session while no capture thread is alive. -/
theorem triple_writeCaptureSessionKey (lasts : Actor.Lasts Placid P) (key : Option String) :
    (keeper env).Triple (Holds fun w => P w ∧ NoneRunning w)
      (FinalCaptureService.writeSessionKey key)
      (fun _ => Holds fun w => (P w ∧ NoneRunning w) ∧ w.capture.sessionKey = key) (Raised P) := by
  have free : Actor.Lasts Placid fun w => P w ∧ NoneRunning w :=
    Actor.lasts_and lasts (lasts_aside lasts_noneRunning)
  apply triple_certain (.writeCaptureSessionKey key) rfl (lasts_calm free)
    (Actor.lasts_and (lasts_calm free) lasts_captureKey) (lasts_calm lasts)
  · exact fun _ h => h.2.2
  · intro w _ w' h step
    refine ⟨free w w' (placid_of_writeCaptureSessionKey step.1) h.2, ?_⟩
    obtain ⟨_, ⟨-, rfl⟩, rfl⟩ := step.1.effect_of_ok
    rfl

/-- The capture service hands the reader back, or it raises. -/
theorem triple_requireJoined (lasts : Actor.Lasts Placid P) (thread : Nat) :
    (keeper env).Triple (Holds P) (FinalCaptureService.requireJoined thread)
      (fun _ => Holds fun w => P w ∧ NoneRunning w) (Raised P) := by
  have stable : ∀ exc, (keeper env).Stable (Raised P exc) := stable_raised (lasts_calm lasts)
  have free : Actor.Lasts Placid fun w => P w ∧ NoneRunning w :=
    Actor.lasts_and lasts (lasts_aside lasts_noneRunning)
  apply Actor.Triple.seq stable (triple_offOp (.threadIsAlive thread) trivial (lasts_calm lasts))
  intro alive
  split
  · exact Actor.triple_raise (stable_holds (lasts_calm lasts)) fun _ => raised_of_holds
  have forgets : (keeper env).Triple (Holds P)
      (Prog.perform (BridgeOp.writeCaptureThread none))
      (fun _ => Holds fun w => P w ∧ NoneRunning w) (Raised P) := by
    apply triple_certain (.writeCaptureThread none) rfl (lasts_calm lasts) (lasts_calm free)
      (lasts_calm lasts) fun _ _ => trivial
    intro w _ w' h step
    refine ⟨lasts_calm lasts w w'
      (calm_of_plain step.1 trivial (by rintro ⟨⟩) (by rintro ⟨⟩) rfl) h.2, ?_⟩
    rw [NoneRunning, step.1.frame.1.threads (by rintro ⟨⟩)]
    exact step.2.1
  apply Actor.Triple.seq stable forgets
  exact fun _ => (triple_writeCaptureSessionKey lasts none).conseq (fun _ => id)
    (fun _ w h => ⟨h.1, h.2.1⟩) fun _ _ => id

/-- A stop of the capture service leaves no capture thread alive, or it raises. -/
theorem triple_stopCapture (lasts : Actor.Lasts Placid P)
    (sessionKey readerCode : Option String) :
    (keeper env).Triple (Holds P)
      (FinalWorkerCycle.stopCapture env.device sessionKey readerCode)
      (fun _ => Holds fun w => P w ∧ NoneRunning w) (Raised P) := by
  have stable : ∀ exc, (keeper env).Stable (Raised P exc) := stable_raised (lasts_calm lasts)
  have raises : ∀ {α : Type} {Q : α → World → Prop} (exc : PyException),
      (keeper env).Triple (Holds P) (.raise exc : Bridge α) Q (Raised P) :=
    fun exc => Actor.triple_raise (stable_holds (lasts_calm lasts)) fun _ => raised_of_holds
  unfold FinalWorkerCycle.stopCapture
  split
  · exact raises _
  apply Actor.Triple.seq stable (triple_offOp .readCaptureSessionKey trivial (lasts_calm lasts))
  intro activeCaptureKey
  split
  · exact raises _
  have reads : (keeper env).Triple (Holds P) FinalCaptureService.readThread
      (fun thread => Holds fun w => P w ∧ (thread = none → NoneRunning w)) (Raised P) := by
    apply (triple_read .readCaptureThread trivial
      (R := fun thread w => thread = none → NoneRunning w) (lasts_calm lasts)
      (fun _ => Actor.lasts_imp (lasts_calm (lasts_aside lasts_noneRunning))) ?_).conseq
      (fun _ => id) (fun _ _ => id) fun _ _ => raised_of_holds
    rintro w thread w' ⟨step, -, owns⟩ none n running
    obtain ⟨_, ⟨same, -⟩, -⟩ := step.effect_of_ok
    cases ((Except.ok.inj same).symm.trans none).symm.trans (owns.current n running)
  apply Actor.Triple.seq stable reads
  intro thread
  have known : Actor.Lasts Placid fun w => P w ∧ (thread = none → NoneRunning w) :=
    Actor.lasts_and lasts (Actor.lasts_imp (lasts_aside lasts_noneRunning))
  cases thread with
  | none =>
      exact (triple_writeCaptureSessionKey lasts none).conseq
        (fun w h => ⟨h.1, h.2.1, h.2.2 rfl⟩) (fun _ w h => ⟨h.1, h.2.1⟩) fun _ _ => id
  | some thread =>
      have weaken : ∀ w, Holds (fun w => P w ∧ (some thread = none → NoneRunning w)) w →
          Holds P w :=
        fun w h => ⟨h.1, h.2.1⟩
      apply Actor.Triple.seq stable ((triple_offOp .setStopEvent trivial
        (lasts_calm lasts)).conseq weaken (fun _ _ => id) fun _ _ => id)
      intro _
      apply Actor.Triple.seq stable (triple_offOp (.joinThread thread) trivial (lasts_calm lasts))
      exact fun _ => triple_requireJoined lasts thread

/-- What was taken from the buffer is for the session that it was kept for. -/
def Taken (key : String) (frames : List RFIDFrame) (w : World) : Prop :=
  (w.provenance.taken .control).map Prod.fst = frames ∧ TakenOf .control key w

theorem lasts_taken {frames : List RFIDFrame} : Actor.Lasts Calm (Taken key frames) := by
  intro w w' calm h
  rw [Taken, TakenOf, calm.taken]
  exact ⟨h.1, fun x listed => (of_congr calm.same.started).mpr (h.2 x listed)⟩

theorem triple_readPending (lasts : Actor.Lasts Aside S) {R : World → Prop}
    (lastsR : Actor.Lasts Calm R) :
    (keeper env).Triple (Holds fun w => (Kept key w ∧ Off w) ∧ S w)
      (Prog.perform BridgeOp.readPendingTagFrames : Bridge (List RFIDFrame))
      (fun frames => Holds fun w => (Off w ∧ S w) ∧ Taken key frames w) (Raised R) := by
  have side := lasts_aside lasts
  apply discipline.triple_perform .readPendingTagFrames
    (Q := fun frames w => (Off w ∧ S w) ∧ Taken key frames w)
    (lasts_calm (Actor.lasts_and (Actor.lasts_and lasts_kept lasts_off) side))
    (fun _ => Actor.lasts_and (lasts_calm (Actor.lasts_and lasts_off side)) lasts_taken)
    (stable_raised lastsR) fun _ _ => trivial
  · intro w frames w' h step
    have traced := provenance_of_step step.1
    have frame := step.1.frame.1
    have started := started_of_step (by nofun) step.1
    refine ⟨⟨⟨(frame.session nofun).trans h.2.1.2.1,
      (frame.activeSessionKey nofun).trans h.2.1.2.2⟩,
      lasts w w' (aside_of_step step.1 nofun nofun nofun nofun) h.2.2⟩, ?_⟩
    have taken : w'.provenance.taken .control = w.provenance.pending := by
      simp [traced, Entry.traced]
    rw [Taken, TakenOf, taken]
    refine ⟨?_, fun x buffered => (of_congr started).mpr (h.2.1.1.1 x buffered)⟩
    obtain ⟨_, ⟨same, -⟩, -⟩ := step.1.effect_of_ok
    exact h.1.mirrors.trans (Except.ok.inj same).symm
  · exact fun _ _ _ _ step facts => raised_of_certain rfl step facts

theorem triple_clearPending (lasts : Actor.Lasts Aside S) {frames : List RFIDFrame}
    {R : World → Prop} (lastsR : Actor.Lasts Calm R) :
    (keeper env).Triple (Holds fun w => (Off w ∧ S w) ∧ Taken key frames w)
      (Prog.perform BridgeOp.clearPendingTagFrames)
      (fun _ => Holds fun w => (Cleared w ∧ S w) ∧ Taken key frames w) (Raised R) := by
  have side := lasts_aside lasts
  apply triple_certain .clearPendingTagFrames rfl
    (Actor.lasts_and (lasts_calm (Actor.lasts_and lasts_off side)) lasts_taken)
    (Actor.lasts_and (lasts_calm (Actor.lasts_and lasts_cleared side)) lasts_taken) lastsR
    fun _ _ => trivial
  intro w _ w' h step
  have traced := provenance_of_step step.1
  have frame := step.1.frame.1
  refine ⟨⟨⟨by rw [traced]; rfl, (frame.session nofun).trans h.2.1.1.1,
    (frame.activeSessionKey nofun).trans h.2.1.1.2⟩,
    lasts w w' (aside_of_step step.1 nofun nofun nofun nofun) h.2.1.2⟩, ?_⟩
  rw [Taken, TakenOf, traced]
  exact h.2.2

/-- The buffer is emptied, and what was in it is stored for its session. -/
theorem triple_drainPendingTags (lasts : Actor.Lasts Aside S) (clean : strip key = key)
    {readerCode : String} (mine : readerCode = env.device.code) :
    (keeper env).Triple (Holds fun w => (Kept key w ∧ Off w) ∧ S w)
      (FinalWorkerCycle.drainPendingTags env.device key readerCode)
      (fun _ => Holds fun w => Cleared w ∧ S w) (Raised fun w => Cleared w ∧ S w) := by
  have side := lasts_aside lasts
  have cleared : Actor.Lasts Calm fun w => Cleared w ∧ S w :=
    lasts_calm (Actor.lasts_and lasts_cleared side)
  have stable : ∀ exc, (keeper env).Stable (Raised (fun w => Cleared w ∧ S w) exc) :=
    stable_raised cleared
  unfold FinalWorkerCycle.drainPendingTags
  rw [if_neg (not_not.mpr mine)]
  apply Actor.Triple.seq stable (Q := fun frames => Holds fun w => (Cleared w ∧ S w) ∧
    Taken key frames w)
  · apply Actor.Triple.seq stable (triple_readPending lasts cleared)
    intro frames
    apply Actor.Triple.seq stable (triple_clearPending lasts cleared)
    exact fun _ => Actor.triple_ret (stable_holds (Actor.lasts_and cleared lasts_taken))
      fun _ => id
  intro frames
  have all : Actor.Lasts Calm fun w => (Cleared w ∧ S w) ∧ Taken key frames w :=
    Actor.lasts_and cleared lasts_taken
  split
  · exact Actor.triple_ret (stable_holds all) fun w h => ⟨h.1, h.2.1⟩
  have ingests : (keeper env).Triple
      (Holds fun w => (Cleared w ∧ S w) ∧ Taken key frames w)
      (Prog.perform (BridgeOp.store (.ingestFinalActiveTagFrames env.device key frames)))
      (fun _ => Holds fun w => Cleared w ∧ S w) (Raised fun w => Cleared w ∧ S w) := by
    have after : ∀ w answer w', Holds (fun w => (Cleared w ∧ S w) ∧ Taken key frames w) w →
        BridgeStep env .control (.store (.ingestFinalActiveTagFrames env.device key frames)) w
          answer w' → Cleared w' ∧ S w' :=
      fun w _ w' h step => cleared w w' (calm_of_plain step trivial nofun nofun rfl) h.2.1
    apply triple_step (.store (.ingestFinalActiveTagFrames env.device key frames))
      (Q := fun _ w => Cleared w ∧ S w) all (fun _ => cleared) cleared
    · intro w h
      rw [CustodyLaw, clean]
      exact h.2.2
    · exact fun w _ w' h step => after w _ w' h step.1
    · exact fun w _ w' h step => after w _ w' h step.1
  apply Actor.Triple.seq stable ingests
  exact fun _ => Actor.triple_ret (stable_holds cleared) fun _ => id

theorem calls_isRunning : FinalCaptureService.isRunning.Calls BridgeOp.offCustody := by
  apply Prog.calls_bind (Prog.calls_perform trivial)
  intro thread
  cases thread with
  | some thread => exact Prog.calls_perform trivial
  | none => exact Prog.calls_pure _ _

section
variable {P : LocalReaderRuntime → Prop}

/-- The session is active, and its capture thread may be started. -/
def Ready (key : String) (P : LocalReaderRuntime → Prop) (w : World) : Prop :=
  (Kept key w ∧ On key w) ∧ w.busy = true ∧ P w.runtime

theorem lasts_inside : Actor.Lasts Aside fun w => w.busy = true ∧ P w.runtime :=
  lasts_runtime (P := fun busy runtime => busy = true ∧ P runtime)

theorem lasts_ready : Actor.Lasts Placid (Ready key P) :=
  Actor.lasts_and (Actor.lasts_and lasts_kept lasts_on) (lasts_aside lasts_inside)

theorem triple_startThread (thread : Nat) :
    (keeper env).Triple
      (Holds fun w => (Ready key P w ∧ NoneRunning w) ∧ w.capture.sessionKey = some key)
      (Prog.perform (BridgeOp.startThread thread)) (fun _ => Holds (Ready key P))
      (Raised (Ready key P)) := by
  have ready : Actor.Lasts Calm (Ready key P) := lasts_calm lasts_ready
  have after : ∀ w answer w', Holds (fun w => (Ready key P w ∧ NoneRunning w) ∧
      w.capture.sessionKey = some key) w →
      BridgeStep env .control (.startThread thread) w answer w' → Ready key P w' := by
    rintro w answer w' ⟨-, ⟨⟨⟨kept, on⟩, inside⟩, -⟩, -⟩ step
    have untouched := untouched_of_step (.startThread thread) (by rintro ⟨⟩) (by rintro ⟨⟩) step
    have frame := step.frame.1
    refine ⟨⟨⟨?_, ?_⟩, ?_⟩, ?_⟩
    · exact (pendingOf_congr untouched.started untouched.pending).mpr kept.1
    · rw [frame.activeSessionKey (by rintro ⟨⟩)]
      exact kept.2
    · rw [On, frame.session (by rintro ⟨⟩), frame.activeSessionKey (by rintro ⟨⟩)]
      exact on
    · rw [frame.busy (by rintro ⟨⟩), frame.runtime (by rintro ⟨⟩)]
      exact inside
  apply triple_step (.startThread thread) (Q := fun _ => Ready key P)
    (Actor.lasts_and (lasts_calm (Actor.lasts_and lasts_ready (lasts_aside lasts_noneRunning)))
      lasts_captureKey) (fun _ => ready) ready
  · rintro w ⟨-, ⟨⟨⟨-, on⟩, -⟩, -⟩, owned⟩
    rw [CustodyLaw, on.2]
    exact ⟨by rintro ⟨⟩, owned⟩
  · exact fun w _ w' h step => after w _ w' h step.1
  · exact fun w _ w' h step => after w _ w' h step.1

theorem triple_spawn :
    (keeper env).Triple (Holds fun w => Ready key P w ∧ NoneRunning w)
      (FinalCaptureService.spawn key) (fun _ => Holds (Ready key P)) (Raised (Ready key P)) := by
  have free : Actor.Lasts Calm fun w => Ready key P w ∧ NoneRunning w :=
    lasts_calm (Actor.lasts_and lasts_ready (lasts_aside lasts_noneRunning))
  have stable : ∀ exc, (keeper env).Stable (Raised (Ready key P) exc) :=
    stable_raised (lasts_calm lasts_ready)
  have passes : ∀ {Q : World → Prop} (op : BridgeOp), op.offCustody → Actor.Lasts Calm Q →
      (∀ w, Q w → Ready key P w) →
      (keeper env).Triple (Holds Q) (Prog.perform op : Bridge op.Answer) (fun _ => Holds Q)
        (Raised (Ready key P)) :=
    fun op off lasts weaken => (triple_off lasts (Prog.calls_perform off)).conseq (fun _ => id)
      (fun _ _ => id) fun _ _ h => raised_mono h weaken
  apply Actor.Triple.seq stable (passes .clearStopEvent trivial free fun _ h => h.1)
  intro _
  apply Actor.Triple.seq stable (passes (.writeCaptureError none) trivial free fun _ h => h.1)
  intro _
  apply Actor.Triple.seq stable (triple_writeCaptureSessionKey lasts_ready (some key))
  intro _
  have owned : Actor.Lasts Calm fun w => (Ready key P w ∧ NoneRunning w) ∧
      w.capture.sessionKey = some key :=
    Actor.lasts_and free lasts_captureKey
  apply Actor.Triple.seq stable (passes .newThread trivial owned fun _ h => h.1.1)
  intro thread
  apply Actor.Triple.seq stable (passes (.writeCaptureThread (some thread)) trivial owned
    fun _ h => h.1.1)
  exact fun _ => triple_startThread thread

/-- Whether a capture thread is started or not, the session stays active. -/
theorem triple_startCapture (clean : strip key = key) (readerCode : String) :
    (keeper env).Triple (Holds fun w => Ready key P w ∧ NoneRunning w)
      (FinalWorkerCycle.startCapture env.device key readerCode) (fun _ => Holds (Ready key P))
      (Raised (Ready key P)) := by
  have free : Actor.Lasts Calm fun w => Ready key P w ∧ NoneRunning w :=
    lasts_calm (Actor.lasts_and lasts_ready (lasts_aside lasts_noneRunning))
  have stable : ∀ exc, (keeper env).Stable (Raised (Ready key P) exc) :=
    stable_raised (lasts_calm lasts_ready)
  have raises : ∀ {α : Type} {Q : α → World → Prop} (exc : PyException),
      (keeper env).Triple (Holds fun w => Ready key P w ∧ NoneRunning w) (.raise exc : Bridge α) Q
        (Raised (Ready key P)) :=
    fun exc => Actor.triple_raise (stable_holds free) fun _ h => raised_of_holds ⟨h.1, h.2.1⟩
  have passes : ∀ {α : Type} (p : Bridge α), p.Calls BridgeOp.offCustody →
      (keeper env).Triple (Holds fun w => Ready key P w ∧ NoneRunning w) p
        (fun _ => Holds fun w => Ready key P w ∧ NoneRunning w) (Raised (Ready key P)) :=
    fun _ calls => (triple_off free calls).conseq (fun _ => id) (fun _ _ => id)
      fun _ _ h => raised_mono h fun _ => And.left
  unfold FinalWorkerCycle.startCapture FinalCaptureService.start
  rw [clean]
  split
  · exact raises _
  split
  · exact raises _
  apply Actor.Triple.seq stable (passes _ calls_isRunning)
  intro running
  split
  · apply Actor.Triple.seq stable (passes FinalCaptureService.readSessionKey
      (Prog.calls_perform trivial))
    intro owned
    split
    · exact Actor.triple_ret (stable_holds free) fun w h => ⟨h.1, h.2.1⟩
    · exact raises _
  apply Actor.Triple.seq stable (passes _ (calls_isActive trivial trivial))
  intro active
  split
  · exact raises _
  apply Actor.Triple.seq stable (passes readActiveSessionKey (Prog.calls_perform trivial))
  intro activeKey
  split
  · exact raises _
  · exact triple_spawn

end

end Custody
end RfidBridge
