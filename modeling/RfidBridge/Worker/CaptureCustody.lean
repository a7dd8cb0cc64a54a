import RfidBridge.Worker.Custody

/-!
A capture thread under the law of the custody. While it is alive nobody else touches the
session, so what it has received belongs to the session that it stores it for.
-/

namespace RfidBridge
open PersistentActiveReaderExecutor

namespace Custody
variable {env : BridgeEnv} {n connection : Nat} {w w' : World} {P : World → Prop}

/-- The thread was alive, and the session is the same. -/
structure Stays (n : Nat) (w w' : World) : Prop where
  running : w.threads n = .running
  session : w'.executor.session = w.executor.session
  key : w'.executor.activeSessionKey = w.executor.activeSessionKey
  captureKey : w'.capture.sessionKey = w.capture.sessionKey
  started : w'.provenance.started = w.provenance.started

/-- What capture thread `n` sees of the steps of the others. -/
structure Alongside (n : Nat) (w w' : World) : Prop where
  born : w.threads n ≠ .unborn → w'.threads n ≠ .unborn
  receives : w'.provenance.receives (.capture n) = w.provenance.receives (.capture n)
  taken : w'.provenance.taken (.capture n) = w.provenance.taken (.capture n)
  alive : w.threads n ≠ .unborn → w'.threads n = .running → Stays n w w'

/-- The thread was started, and while it is alive, `P` holds. -/
def Alive (n : Nat) (P : World → Prop) (w : World) : Prop :=
  w.threads n ≠ .unborn ∧ (w.threads n = .running → P w)

/-- An assertion of capture thread `n`. -/
abbrev Runs (n : Nat) (P : World → Prop) : World → Prop := Actor.Under Custody (Alive n P)

section
variable {t : Thread} {op : BridgeOp} {answer : Except PyException op.Answer}

/-- A thread is started once. -/
theorem born_of_step (step : BridgeStep env t op w answer w') (born : w.threads n ≠ .unborn) :
    w'.threads n ≠ .unborn := by
  have set : ∀ {m : Nat} {life : Life}, life ≠ .unborn →
      Function.update w.threads m life n ≠ .unborn := by
    intro m life later
    by_cases same : n = m
    · subst same
      rw [Function.update_self]
      exact later
    · rw [Function.update_of_ne same]
      exact born
  cases op with
  | startThread m =>
      obtain ⟨_, (⟨-, rfl⟩ | ⟨-, rfl⟩) | ⟨-, rfl⟩, rfl⟩ := step.effect
      · exact set nofun
      · exact born
      · exact born
  | threadEnds m =>
      obtain ⟨_, ⟨-, rfl⟩ | ⟨-, rfl⟩, rfl⟩ := step.effect
      · exact set nofun
      · exact born
  | _ =>
      rw [step.frame.1.threads nofun]
      exact born

theorem running_of_step (step : BridgeStep env t op w answer w') (born : w.threads n ≠ .unborn)
    (running : w'.threads n = .running) : w.threads n = .running := by
  cases op with
  | startThread m =>
      obtain ⟨_, (⟨unborn, rfl⟩ | ⟨-, rfl⟩) | ⟨-, rfl⟩, rfl⟩ := step.effect
      · by_cases same : n = m
        · exact absurd (same ▸ unborn) born
        · exact (Function.update_of_ne same _ _).symm.trans running
      · exact running
      · exact running
  | threadEnds m => exact Ownership.running_of_threadEnds step n running
  | _ => exact (congrFun (step.frame.1.threads nofun) n).symm.trans running

/-- Only the control thread touches the session, and only while no capture thread is alive. -/
theorem stays_of_step (law : CustodyLaw t op w) (owner : OwnerLaw t op w)
    (step : BridgeStep env t op w answer w') (born : w.threads n ≠ .unborn)
    (alive : w'.threads n = .running) : Stays n w w' := by
  have running := running_of_step step born alive
  have frame := step.frame.1
  cases op with
  | writeSession session =>
      obtain rfl := Ownership.control_of_law owner (fun _ => id) id nofun
      exact absurd running (owner rfl n)
  | writeActiveSessionKey key =>
      obtain rfl := Ownership.control_of_law owner (fun _ => id) id nofun
      exact absurd running (owner.1 n)
  | writeCaptureSessionKey key =>
      obtain rfl := Ownership.control_of_law owner (fun _ => id) id nofun
      exact absurd running (law n)
  | send connection request label =>
      obtain rfl := Ownership.control_of_law owner (fun _ => id) id nofun
      exact absurd running (owner rfl n)
  | _ =>
      exact ⟨running, frame.session nofun, frame.activeSessionKey nofun,
        frame.captureSessionKey nofun, started_of_step (by nofun) step⟩

/-- The operations behind which a thread knows of other frames than before. -/
def notes : BridgeOp → Bool
  | .receive .. | .readPendingTagFrames => true
  | _ => false

theorem noted_of_step {u : Thread} (unnoted : notes op = false)
    (step : BridgeStep env t op w answer w') :
    w'.provenance.taken u = w.provenance.taken u ∧
      w'.provenance.receives u = w.provenance.receives u := by
  rw [provenance_of_step step]
  cases op with
  | send _ request _ =>
      rw [Entry.traced]
      split <;> exact ⟨rfl, rfl⟩
  | receive | readPendingTagFrames => cases unnoted
  | _ => cases answer <;> exact ⟨rfl, rfl⟩

theorem alongside_of_step (apart : t ≠ .capture n ∨ notes op = false) (law : CustodyLaw t op w)
    (owner : OwnerLaw t op w) (step : BridgeStep env t op w answer w') : Alongside n w w' := by
  obtain ⟨taken, receives⟩ : w'.provenance.taken (.capture n) = w.provenance.taken (.capture n) ∧
      w'.provenance.receives (.capture n) = w.provenance.receives (.capture n) := by
    obtain other | unnoted := apart
    · exact noted_of_others other step
    · exact noted_of_step unnoted step
  exact ⟨born_of_step step, receives, taken, stays_of_step law owner step⟩

end

theorem captureDiscipline :
    Actor.Discipline (ownedExec env) CustodyLaw (.capture n) Custody (Alongside n) where
  keeps _ _ _ _ _ law step h := of_step law step.2.1 step.1 h
  others _ _ _ _ _ other law step _ := alongside_of_step (.inl other) law step.2.1 step.1

/-- Capture thread `n`, under the law of the custody. -/
abbrev hand (env : BridgeEnv) (n : Nat) : Actor BridgeOp BridgeOp.Answer PyException World :=
  Actor.member (ownedExec env) CustodyLaw (.capture n)

theorem lasts_alive
    (lasts : ∀ w w', Alongside n w w' → Stays n w w' → P w → P w') :
    Actor.Lasts (Alongside n) (Alive n P) := by
  intro w w' along h
  refine ⟨along.born h.1, fun running => ?_⟩
  have stays := along.alive h.1 running
  exact lasts w w' along stays (h.2 stays.running)

theorem lasts_aliveTrue : Actor.Lasts (Alongside n) (Alive n fun _ => True) :=
  lasts_alive fun _ _ _ _ => id

theorem lasts_aliveSession {session : Option Nat} :
    Actor.Lasts (Alongside n) (Alive n fun w => w.executor.session = session) :=
  lasts_alive fun _ _ _ stays h => stays.session.trans h

theorem lasts_aliveCaptureKey {key : Option String} :
    Actor.Lasts (Alongside n) (Alive n fun w => w.capture.sessionKey = key) :=
  lasts_alive fun _ _ _ stays h => stays.captureKey.trans h

/-- The thread has received these frames on the connection of the session. -/
structure Received (n connection : Nat) (frames : List RFIDFrame) (w : World) : Prop where
  receives : w.provenance.receives (.capture n) = some (connection, frames)
  session : w.executor.session = some connection

theorem lasts_received {frames : List RFIDFrame} :
    Actor.Lasts (Alongside n) (Alive n (Received n connection frames)) :=
  lasts_alive fun _ _ along stays h =>
    ⟨along.receives.trans h.receives, stays.session.trans h.session⟩

/-- The thread has taken these frames from the buffer, all of them for the session. -/
structure Held (n : Nat) (frames : List RFIDFrame) (w : World) : Prop where
  frames : (w.provenance.taken (.capture n)).map Prod.fst = frames
  taken : ∃ key, w.executor.activeSessionKey = some key ∧ TakenOf (.capture n) key w

theorem lasts_held {frames : List RFIDFrame} :
    Actor.Lasts (Alongside n) (Alive n (Held n frames)) := by
  apply lasts_alive
  rintro w w' along stays ⟨same, key, active, taken⟩
  refine ⟨by rw [along.taken]; exact same, key, stays.key.trans active, ?_⟩
  rw [TakenOf, along.taken]
  exact fun x listed => (of_congr stays.started).mpr (taken x listed)

theorem lasts_both {P' : World → Prop} (lasts : Actor.Lasts (Alongside n) (Alive n P))
    (lasts' : Actor.Lasts (Alongside n) (Alive n P')) :
    Actor.Lasts (Alongside n) (Alive n fun w => P w ∧ P' w) := by
  intro w w' along h
  have first := lasts w w' along ⟨h.1, fun running => (h.2 running).1⟩
  have second := lasts' w w' along ⟨h.1, fun running => (h.2 running).2⟩
  exact ⟨first.1, fun running => ⟨first.2 running, second.2 running⟩⟩

theorem stable_runs (lasts : Actor.Lasts (Alongside n) (Alive n P)) :
    (hand env n).Stable (Runs n P) :=
  captureDiscipline.stable lasts

theorem stable_ended (_ : PyException) : (hand env n).Stable (Runs n fun _ => True) :=
  stable_runs lasts_aliveTrue

theorem runs_weaken {w : World} (h : Runs n P w) : Runs n (fun _ => True) w :=
  ⟨h.1, h.2.1, fun _ => trivial⟩

/-- A thread that executes anything behind its beginning is alive. -/
theorem running_of_exec {op : BridgeOp} {answer : Except PyException op.Answer}
    (step : ownedExec env (.capture n) op w answer w') (begun : op ≠ .threadBegins n) :
    w.threads n = .running :=
  running_of_law step.2.1 begun

/-- An operation behind which the thread knows what it knew, and what it has read. -/
theorem triple_reads (op : BridgeOp) (unnoted : notes op = false) (begun : op ≠ .threadBegins n)
    {R : op.Answer → World → Prop} (lasts : Actor.Lasts (Alongside n) (Alive n P))
    (lastsR : ∀ value, Actor.Lasts (Alongside n) (Alive n (R value)))
    (lawful : ∀ w, Custody w → w.threads n = .running → P w → CustodyLaw (.capture n) op w)
    (reads : ∀ w value w', BridgeStep env (.capture n) op w (.ok value) w' → R value w) :
    (hand env n).Triple (Runs n P) (Prog.perform op)
      (fun value => Runs n fun w => P w ∧ R value w) fun _ => Runs n fun _ => True := by
  have may : ∀ w answer w', Runs n P w → ownedExec env (.capture n) op w answer w' →
      CustodyLaw (.capture n) op w := by
    intro w answer w' h step
    have running := running_of_exec step begun
    exact lawful w h.1 running (h.2.2 running)
  have along : ∀ w answer w', Runs n P w → ownedExec env (.capture n) op w answer w' →
      Alongside n w w' :=
    fun w answer w' h step => alongside_of_step (.inr unnoted) (may w answer w' h step) step.2.1
      step.1
  apply captureDiscipline.triple_act op (Q := fun value => Alive n fun w => P w ∧ R value w) lasts
    (fun value => lasts_both lasts (lastsR value)) stable_ended may
  · intro w value w' h step
    apply lasts_both lasts (lastsR value) w w' (along w _ w' h step)
    exact ⟨h.2.1, fun running => ⟨h.2.2 running, reads w value w' step.1⟩⟩
  · exact fun w exc w' h step facts =>
      ⟨facts, born_of_step step.1 h.2.1, fun _ => trivial⟩

theorem triple_does (op : BridgeOp) (unnoted : notes op = false) (begun : op ≠ .threadBegins n)
    (lasts : Actor.Lasts (Alongside n) (Alive n P))
    (lawful : ∀ w, Custody w → w.threads n = .running → P w → CustodyLaw (.capture n) op w) :
    (hand env n).Triple (Runs n P) (Prog.perform op) (fun _ => Runs n P)
      fun _ => Runs n fun _ => True :=
  (triple_reads op unnoted begun (R := fun _ _ => True) lasts (fun _ => lasts_aliveTrue) lawful
    fun _ _ _ _ => trivial).conseq (fun _ => id)
    (fun _ _ h => ⟨h.1, h.2.1, fun running => (h.2.2 running).1⟩) fun _ _ => id

theorem triple_receives (connection : Nat) (expectedCommands : List UInt8) :
    (hand env n).Triple (Runs n fun w => w.executor.session = some connection)
      (receive connection expectedCommands) (fun frames => Runs n (Received n connection frames))
      fun _ => Runs n fun _ => True := by
  apply captureDiscipline.triple_act (.receive connection expectedCommands)
    (Q := fun frames => Alive n (Received n connection frames)) lasts_aliveSession
    (fun _ => lasts_received) stable_ended fun _ _ _ _ _ => trivial
  · intro w frames w' h step
    have traced := provenance_of_step step.1
    have frame := step.1.frame.1
    refine ⟨born_of_step step.1 h.2.1, fun _ => ⟨?_, ?_⟩⟩
    · simp [traced, Entry.traced]
    · exact (frame.session (by rintro ⟨⟩)).trans (h.2.2 (running_of_exec step (by rintro ⟨⟩)))
  · exact fun w exc w' h step facts =>
      ⟨facts, born_of_step step.1 h.2.1, fun _ => trivial⟩

theorem triple_readsPending :
    (hand env n).Triple (Runs n fun _ => True)
      (Prog.perform BridgeOp.readPendingTagFrames : Bridge (List RFIDFrame))
      (fun frames => Runs n (Held n frames)) fun _ => Runs n fun _ => True := by
  apply captureDiscipline.triple_act .readPendingTagFrames
    (Q := fun frames => Alive n (Held n frames)) lasts_aliveTrue (fun _ => lasts_held) stable_ended
    fun _ _ _ _ _ => trivial
  · intro w frames w' h step
    have traced := provenance_of_step step.1
    have started := started_of_step (by simp) step.1
    have frame := step.1.frame.1
    obtain ⟨active, -⟩ := h.1.manned n (running_of_exec step (by rintro ⟨⟩))
    obtain ⟨key, active⟩ := Option.ne_none_iff_exists'.mp active
    refine ⟨born_of_step step.1 h.2.1, fun _ => ⟨?_, key, ?_, ?_⟩⟩
    · obtain ⟨_, ⟨same, -⟩, -⟩ := step.1.effect_of_ok
      simpa [traced, Entry.traced] using h.1.mirrors.trans (Except.ok.inj same).symm
    · exact (frame.activeSessionKey (by rintro ⟨⟩)).trans active
    · have taken : w'.provenance.taken (.capture n) = w.provenance.pending := by
        simp [traced, Entry.traced]
      rw [TakenOf, taken]
      exact fun x buffered => (of_congr started).mpr ((h.1.held key active).2.1 x buffered)
  · exact fun w exc w' h step facts =>
      ⟨facts, born_of_step step.1 h.2.1, fun _ => trivial⟩

theorem triple_takes :
    (hand env n).Triple (Runs n fun _ => True) takePendingTagFrames
      (fun frames => Runs n (Held n frames)) fun _ => Runs n fun _ => True := by
  apply Actor.Triple.seq stable_ended triple_readsPending
  intro frames
  apply Actor.Triple.seq stable_ended
    (triple_does .clearPendingTagFrames rfl nofun lasts_held fun _ _ _ _ => trivial)
  exact fun _ => Actor.triple_ret (stable_runs lasts_held) fun _ => id

theorem triple_ends {α : Type} {Q : α → World → Prop} (exc : PyException)
    (lasts : Actor.Lasts (Alongside n) (Alive n P)) :
    (hand env n).Triple (Runs n P) (.raise exc : Bridge α) Q fun _ => Runs n fun _ => True :=
  Actor.triple_raise (stable_runs lasts) fun _ => runs_weaken

/-- A frame of the batch is put into the buffer, or the call raises. -/
theorem triple_captureTagFrame {frames : List RFIDFrame} {frame : RFIDFrame}
    (listed : frame ∈ frames) :
    (hand env n).Triple (Runs n (Received n connection frames)) (captureTagFrame env.device frame)
      (fun _ => Runs n (Received n connection frames)) fun _ => Runs n fun _ => True := by
  change (hand env n).Triple _ (Prog.bind (Prog.ofExcept (validateFrameAddress _ _)) _) _ _
  cases validateFrameAddress env.device frame with
  | error exc => exact triple_ends exc lasts_received
  | ok _ =>
  show (hand env n).Triple _ (if _ then _ else _) _ _
  split
  · exact Actor.triple_ret (stable_runs lasts_received) fun _ => id
  split
  · exact triple_ends _ lasts_received
  apply triple_does (.appendPendingTagFrame frame) rfl nofun lasts_received
  intro w facts running h
  refine ⟨connection, ?_, h.session, fun inactive => ?_⟩
  · rw [Provenance.origin, h.receives]
    exact if_pos listed
  · exact absurd inactive (facts.manned n running).1

theorem triple_receiveTagFrames :
    (hand env n).Triple (Runs n fun _ => True) (receiveTagFrames env.device)
      (fun frames => Runs n (Held n frames)) fun _ => Runs n fun _ => True := by
  have receives : (hand env n).Triple (Runs n fun _ => True)
      (withSession fun connection => receive connection [commandActiveTag])
      (fun frames w => ∃ connection, Runs n (Received n connection frames) w)
      fun _ => Runs n fun _ => True := by
    have reads : (hand env n).Triple (Runs n fun _ => True) readSession
        (fun session => Runs n fun w => True ∧ w.executor.session = session)
        fun _ => Runs n fun _ => True := by
      apply triple_reads .readSession rfl nofun (R := fun session w => w.executor.session = session)
        lasts_aliveTrue (fun _ => lasts_aliveSession) fun _ _ _ _ => trivial
      intro w session w' step
      obtain ⟨_, ⟨same, -⟩, -⟩ := step.effect_of_ok
      exact (Except.ok.inj same).symm
    apply Actor.Triple.seq stable_ended reads
    intro session
    have known : Actor.Lasts (Alongside n)
        (Alive n fun w => True ∧ w.executor.session = session) :=
      lasts_both lasts_aliveTrue lasts_aliveSession
    cases session with
    | none => exact triple_ends _ known
    | some connection =>
        exact (triple_receives connection [commandActiveTag]).conseq
          (fun w h => ⟨h.1, h.2.1, fun running => (h.2.2 running).2⟩)
          (fun _ w h => ⟨connection, h⟩) fun _ _ => id
  apply Actor.Triple.seq stable_ended receives
  rintro frames w ⟨connection, received⟩
  revert w
  apply Actor.Triple.seq stable_ended (Q := fun _ => Runs n (Received n connection frames))
  · apply Actor.triple_forEach (stable_runs lasts_received) stable_ended
    exact fun frame listed => triple_captureTagFrame listed
  · exact fun _ => triple_takes.conseq (fun _ => runs_weaken) (fun _ _ => id) fun _ _ => id

/-- What the thread polls is all for the session. -/
def Polled (n : Nat) (frames : List RFIDFrame) (w : World) : Prop := frames ≠ [] → Held n frames w

theorem triple_isActiveHere :
    (hand env n).Triple (Runs n fun _ => True) isActive (fun _ => Runs n fun _ => True)
      fun _ => Runs n fun _ => True := by
  apply Actor.Triple.seq stable_ended
    (triple_does .readSession rfl nofun lasts_aliveTrue fun _ _ _ _ => trivial)
  intro session
  split
  · exact Actor.triple_ret (stable_runs lasts_aliveTrue) fun _ => id
  apply Actor.Triple.seq stable_ended
    (triple_does .readActiveSessionKey rfl nofun lasts_aliveTrue fun _ _ _ _ => trivial)
  exact fun _ => Actor.triple_ret (stable_runs lasts_aliveTrue) fun _ => id

theorem triple_pollTagFrames :
    (hand env n).Triple (Runs n fun _ => True) (pollTagFrames env.device)
      (fun frames => Runs n (Polled n frames)) fun _ => Runs n fun _ => True := by
  apply Actor.Triple.seq stable_ended triple_takes
  intro pending
  split
  · exact Actor.triple_ret (stable_runs lasts_held)
      fun w h => ⟨h.1, h.2.1, fun running _ => h.2.2 running⟩
  apply Actor.Triple.seq stable_ended
    (triple_isActiveHere.conseq (fun _ => runs_weaken) (fun _ _ => id) fun _ _ => id)
  intro active
  split
  · exact Actor.triple_ret (stable_runs lasts_aliveTrue)
      fun w h => ⟨h.1, h.2.1, fun _ some => absurd rfl some⟩
  · exact triple_receiveTagFrames.conseq (fun _ => id)
      (fun _ w h => ⟨h.1, h.2.1, fun running _ => h.2.2 running⟩) fun _ _ => id

theorem triple_ingest {frames : List RFIDFrame} {sessionKey : Option String} :
    (hand env n).Triple
      (Runs n fun w => Held n frames w ∧ w.capture.sessionKey = sessionKey)
      (FinalCaptureService.ingest env.device sessionKey frames) (fun _ => Runs n fun _ => True)
      fun _ => Runs n fun _ => True := by
  have known : Actor.Lasts (Alongside n)
      (Alive n fun w => Held n frames w ∧ w.capture.sessionKey = sessionKey) :=
    lasts_both lasts_held lasts_aliveCaptureKey
  apply Actor.Triple.seq stable_ended (Q := fun _ => Runs n fun w => Held n frames w ∧
    w.capture.sessionKey = sessionKey)
  · apply triple_does (.store _) rfl nofun known
    rintro w facts running ⟨⟨same, key, active, taken⟩, owned⟩
    obtain rfl : some key = sessionKey :=
      active.symm.trans ((facts.manned n running).2.symm.trans owned)
    refine ⟨same, ?_⟩
    rw [Option.getD_some, (facts.held key active).1]
    exact taken
  · exact fun _ => Actor.triple_ret (stable_runs known) fun _ => runs_weaken

theorem triple_captureOnce :
    (hand env n).Triple (Runs n fun _ => True) (FinalCaptureService.captureOnce env.device)
      (fun _ => Runs n fun _ => True) fun _ => Runs n fun _ => True := by
  apply Actor.Triple.seq stable_ended triple_pollTagFrames
  intro frames
  split
  · rename_i some
    have reads : (hand env n).Triple (Runs n (Held n frames)) FinalCaptureService.readSessionKey
        (fun key => Runs n fun w => Held n frames w ∧ w.capture.sessionKey = key)
        fun _ => Runs n fun _ => True := by
      apply triple_reads .readCaptureSessionKey rfl nofun
        (R := fun key w => w.capture.sessionKey = key) lasts_held (fun _ => lasts_aliveCaptureKey)
        fun _ _ _ _ => trivial
      intro w key w' step
      obtain ⟨_, ⟨same, -⟩, -⟩ := step.effect_of_ok
      exact (Except.ok.inj same).symm
    apply Actor.Triple.seq stable_ended (reads.conseq
      (fun w h => ⟨h.1, h.2.1, fun running => h.2.2 running some⟩) (fun _ _ => id) fun _ _ => id)
    exact fun _ => triple_ingest
  · exact (triple_does .sleep rfl nofun lasts_aliveTrue fun _ _ _ _ => trivial).conseq
      (fun _ => runs_weaken) (fun _ _ => id) fun _ _ => id

theorem triple_run :
    (hand env n).Triple (Runs n fun _ => True) (FinalCaptureService.run env.device)
      (fun _ => Runs n fun _ => True) fun _ => Runs n fun _ => True := by
  have stable : (hand env n).Stable (Runs n fun _ => True) := stable_runs lasts_aliveTrue
  have does : ∀ op : BridgeOp, notes op = false → op ≠ .threadBegins n →
      (∀ w, CustodyLaw (.capture n) op w) →
      (hand env n).Keeps (Runs n fun _ => True) (Prog.perform op : Bridge op.Answer) :=
    fun op unnoted begun lawful =>
      (triple_does op unnoted begun lasts_aliveTrue fun w _ _ _ => lawful w).keeps
  have rounds : (hand env n).Keeps (Runs n fun _ => True)
      (whileTrue (FinalCaptureService.captureRound env.device)) := by
    apply Actor.keeps_bind stable (does .rounds rfl nofun fun _ => trivial)
    intro rounds
    induction rounds with
    | zero =>
        exact Actor.keeps_bind stable (does .beyond rfl nofun fun _ => trivial) nofun
    | succ rounds ih =>
        apply Actor.keeps_bind stable
        · apply Actor.keeps_bind stable (does .stopEventIsSet rfl nofun fun _ => trivial)
          intro stopped
          split
          · exact Actor.keeps_ret stable _
          · apply Actor.keeps_bind stable triple_captureOnce.keeps
            exact fun _ => Actor.keeps_ret stable _
        · intro found
          cases found with
          | some value => exact Actor.keeps_ret stable _
          | none => exact ih
  have loops : (hand env n).Keeps (Runs n fun _ => True)
      (FinalCaptureService.captureLoop env.device) := by
    apply keeps_tryElse stable rounds
    · exact fun exc => does (.writeCaptureError (some exc)) rfl nofun fun _ => trivial
    · exact fun _ => Actor.keeps_ret stable _
  have ends : (hand env n).Keeps (Runs n fun _ => True) (do
      Prog.perform BridgeOp.setStopEvent
      FinalCaptureService.closeOldConnections) := by
    apply Actor.keeps_bind stable (does .setStopEvent rfl nofun fun _ => trivial)
    exact fun _ => does .closeOldConnections rfl nofun fun _ => trivial
  apply Actor.Keeps.triple
  apply Actor.keeps_bind stable (does .closeOldConnections rfl nofun fun _ => trivial)
  intro _
  apply Actor.keeps_handle loops
  intro outcome
  cases outcome with
  | ok value => exact Actor.keeps_bind stable ends fun _ => Actor.keeps_ret stable _
  | error exc => exact Actor.keeps_bind stable ends fun _ => Actor.keeps_raise stable _

/-- A capture thread keeps to the law of the custody. -/
theorem sat_threadMain (facts : Custody w) :
    (hand env n).Sat (FinalCaptureService.threadMain env.device n) (fun _ => Custody) w := by
  have stable : ∀ exc : PyException, (hand env n).Stable Custody :=
    fun _ _ _ facts rely =>
      (captureDiscipline.stable Actor.lasts_true _ _ ⟨facts, trivial⟩ rely).1
  have begins : (hand env n).Triple (Actor.Under Custody fun _ => True)
      (Prog.perform (BridgeOp.threadBegins n)) (fun _ => Runs n fun _ => True)
      fun _ => Custody := by
    apply captureDiscipline.triple_act (.threadBegins n) (Q := fun _ => Alive n fun _ => True)
      Actor.lasts_true (fun _ => lasts_aliveTrue) stable fun _ _ _ _ _ => trivial
    · intro w _ w' _ step
      obtain ⟨_, ⟨running, -, rfl⟩, rfl⟩ := step.1.effect_of_ok
      refine ⟨?_, fun _ => trivial⟩
      rw [show (World.log _ _).threads n = _ from running]
      nofun
    · exact fun _ _ _ _ _ facts => facts
  have ends : (hand env n).Triple (Runs n fun _ => True)
      (Prog.perform (BridgeOp.threadEnds n)) (fun _ => Custody) fun _ => Custody :=
    (triple_does (.threadEnds n) rfl nofun lasts_aliveTrue fun _ _ _ _ => trivial).conseq
      (fun _ => id) (fun _ _ h => h.1) fun _ _ h => h.1
  have main : (hand env n).Triple (Actor.Under Custody fun _ => True)
      (FinalCaptureService.threadMain env.device n) (fun _ => Custody) fun _ => Custody := by
    apply Actor.Triple.seq stable begins
    exact fun _ => Actor.Triple.handle triple_run (fun _ => ends) fun _ => ends
  apply (main w ⟨facts, trivial⟩).mono
  intro outcome _ after
  cases outcome <;> exact after

end Custody
end RfidBridge
