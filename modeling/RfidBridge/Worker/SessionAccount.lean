import RfidBridge.Worker.ControlAccount

/-!
The two ends of a session's account: the START request opens a fresh one, with which a capture
thread is started, and behind the stop of the reader the buffer is drained into it.
-/

namespace RfidBridge
open PersistentActiveReaderExecutor

namespace Watch
variable {env : BridgeEnv} {w w' : World} {held : List RFIDFrame} {P P' : World → Prop}
  {S : Option String → LocalReaderRuntime → Prop} {c : Prop}

/-- The control thread holds these frames; if the accounts are watched, it knows them. -/
def Drawn (env : BridgeEnv) (c : Prop) (S : Option String → LocalReaderRuntime → Prop)
    (held : List RFIDFrame) (w : World) : Prop :=
  NoneRunning w ∧ (c → Accounts env held w) ∧ S (accountAt env w).session w.runtime

theorem lasts_drawn : Actor.Lasts (Placid env) (Drawn env c S held) := by
  rintro w w' placid ⟨none, accounts, named⟩
  obtain ⟨none', kept⟩ := placid.rests none
  exact ⟨none', fun watching => accounts_of_kept kept (accounts watching),
    lasts_label w w' placid named⟩

/-- The same, with an empty buffer. -/
def Emptied (env : BridgeEnv) (c : Prop) (S : Option String → LocalReaderRuntime → Prop)
    (held : List RFIDFrame) (w : World) : Prop :=
  Drawn env c S held w ∧ w.executor.pendingTagFrames = []

theorem lasts_emptied : Actor.Lasts (Calm env) (Emptied env c S held) :=
  fun w w' calm h => ⟨lasts_drawn w w' calm.toPlacid h.1, (calm.buffer h.1.1).trans h.2⟩

theorem drained_of_emptied (h : Emptied env c S [] w) :
    (c → Drained env w) ∧ S (accountAt env w).session w.runtime :=
  ⟨fun watching => ⟨h.1.1, h.1.2.1 watching, h.2⟩, h.1.2.2⟩

theorem triple_readPending :
    (keeper env).Triple
      (Holds fun w => (c → Watched env w) ∧ S (accountAt env w).session w.runtime)
      (Prog.perform BridgeOp.readPendingTagFrames : Bridge (List RFIDFrame))
      (fun frames => Holds (Drawn env c S frames)) fun _ _ => True := by
  apply discipline.triple_perform .readPendingTagFrames (Q := fun frames => Drawn env c S frames)
    (lasts_calm (Actor.lasts_and (Actor.lasts_imp lasts_watched) lasts_label))
    (fun _ => lasts_calm lasts_drawn) stable_true (fun _ _ => trivial)
  · rintro w frames w' ⟨-, watched, named⟩ step
    have none : NoneRunning w := step.1.2.1 rfl
    have error := step.1.1.frame.1.captureError (by rintro ⟨⟩)
    have account := account_of_step step.1.1
    rw [Entry.record] at account
    refine ⟨(noneRunning_of_threads (step.1.1.frame.1.threads (by rintro ⟨⟩))).mpr none,
      fun watching => ⟨?_, ?_⟩, ?_⟩
    · rw [error, accountAt, account]
      intro sound
      obtain ⟨handed, fine⟩ := (watched watching none).sound sound
      exact ⟨by rw [handed, List.append_nil], fine⟩
    · rw [error, accountAt, account]
      exact (watched watching none).spoiled
    · rw [accountAt, account, step.1.1.frame.1.runtime (by rintro ⟨⟩)]
      exact named
  · exact fun _ _ _ _ _ _ => trivial

theorem triple_clearPending :
    (keeper env).Triple (Holds (Drawn env c S held)) (Prog.perform BridgeOp.clearPendingTagFrames)
      (fun _ => Holds (Emptied env c S held)) fun _ _ => True := by
  apply discipline.triple_perform .clearPendingTagFrames (Q := fun _ => Emptied env c S held)
    (lasts_calm lasts_drawn) (fun _ => lasts_emptied) stable_true (fun _ _ => trivial)
  · intro w _ w' h step
    refine ⟨lasts_drawn w w' (placid_of_off .clearPendingTagFrames trivial step.1.1) h.2, ?_⟩
    obtain ⟨_, ⟨-, rfl⟩, rfl⟩ := step.1.1.effect_of_ok
    rfl
  · exact fun _ _ _ _ _ _ => trivial

theorem triple_storePending (sessionKey : String) :
    (keeper env).Triple (Holds (Emptied env c S held))
      (Prog.perform (BridgeOp.store (.ingestFinalActiveTagFrames env.device sessionKey held)))
      (fun _ => Holds (Emptied env c S [])) fun _ _ => True := by
  apply discipline.triple_perform (.store (.ingestFinalActiveTagFrames env.device sessionKey held))
    (Q := fun _ => Emptied env c S []) lasts_emptied (fun _ => lasts_emptied) stable_true
    (fun w h => h.2.1.1)
  · rintro w value w' ⟨-, ⟨none, accounts, named⟩, empty⟩ step
    have error := step.1.1.frame.1.captureError (by rintro ⟨⟩)
    have account := account_of_step step.1.1
    rw [Entry.record] at account
    refine ⟨⟨(noneRunning_of_threads (step.1.1.frame.1.threads (by rintro ⟨⟩))).mpr none,
      fun watching => ⟨?_, ?_⟩, ?_⟩, ?_⟩
    · rw [error, accountAt, account, List.append_nil]
      exact (accounts watching).sound
    · rw [error, accountAt, account]
      exact (accounts watching).spoiled
    · rw [accountAt, account, step.1.1.frame.1.runtime (by rintro ⟨⟩)]
      exact named
    · exact (step.1.1.frame.1.pendingTagFrames (by rintro ⟨⟩)).trans empty
  · exact fun _ _ _ _ _ _ => trivial

/-- What is still in the buffer behind the stop is taken and stored, or the call raises. -/
theorem triple_drain (sessionKey readerCode : String) :
    (keeper env).Triple
      (Holds fun w => (c → Watched env w) ∧ S (accountAt env w).session w.runtime)
      (FinalWorkerCycle.drainPendingTags env.device sessionKey readerCode)
      (fun _ => Holds fun w => (c → Drained env w) ∧ S (accountAt env w).session w.runtime)
      fun _ _ => True := by
  unfold FinalWorkerCycle.drainPendingTags
  split
  · exact fun _ _ => Actor.Sat.raise fun _ _ => trivial
  apply Actor.Triple.seq stable_true (Q := fun frames => Holds (Emptied env c S frames))
  · apply Actor.Triple.seq stable_true triple_readPending
    intro frames
    apply Actor.Triple.seq stable_true triple_clearPending
    exact fun _ => Actor.triple_ret (stable_holds lasts_emptied) fun _ => id
  intro frames
  split
  · rename_i none
    rw [none]
    exact Actor.triple_ret (stable_holds lasts_emptied)
      fun _ h => ⟨trivial, drained_of_emptied h.2⟩
  · apply Actor.Triple.seq stable_true (triple_storePending sessionKey)
    exact fun _ => Actor.triple_ret (stable_holds lasts_emptied)
      fun _ h => ⟨trivial, drained_of_emptied h.2⟩

/-- The account of a session whose START request has been sent, and of no other. -/
structure Begun (env : BridgeEnv) (key : String) (w : World) : Prop where
  none : NoneRunning w
  session : (accountAt env w).session = some key
  handed : (accountAt env w).handed = (accountAt env w).ingested
  sound : (accountAt env w).failed = false

theorem lasts_begun {key : String} : Actor.Lasts (Placid env) (Begun env key) := by
  intro w w' placid h
  obtain ⟨none, kept⟩ := placid.rests h.none
  refine ⟨none, placid.session.trans h.session, ?_, ?_⟩
  · rw [kept.account]
    exact h.handed
  · rw [kept.account]
    exact h.sound

section
variable {key : String} {R : LocalReaderRuntime → Prop}

theorem lasts_runtime : Actor.Lasts (Placid env) fun w => R w.runtime :=
  lasts_label (S := fun _ runtime => R runtime)

theorem lasts_begunFor : Actor.Lasts (Placid env) fun w => Begun env key w ∧ R w.runtime :=
  Actor.lasts_and lasts_begun lasts_runtime

/-- A START request opens a fresh account. -/
theorem triple_sendStart {request : Bytes}
    (start : requestCommand request = some commandStartInventory) (connection : Nat) :
    (keeper env).Triple (Holds fun w => R w.runtime) (send connection request (some key))
      (fun _ => Holds fun w => Begun env key w ∧ R w.runtime) fun _ _ => True := by
  apply discipline.triple_perform (.send connection request (some key))
    (Q := fun _ w => Begun env key w ∧ R w.runtime) (lasts_calm lasts_runtime)
    (fun _ => lasts_calm lasts_begunFor) stable_true (fun _ _ => trivial)
  · rintro w _ w' ⟨-, runs⟩ step
    have account := account_of_step step.1.1
    rw [Entry.record, if_pos start] at account
    have none : NoneRunning w' :=
      (noneRunning_of_threads (step.1.1.frame.1.threads (by rintro ⟨⟩))).mpr (step.1.2.1 rfl)
    refine ⟨⟨none, ?_, ?_, ?_⟩, ?_⟩
    iterate 3 rw [accountAt, account]
    rw [step.1.1.frame.1.runtime (by rintro ⟨⟩)]
    exact runs
  · exact fun _ _ _ _ _ _ => trivial

theorem triple_startInventory (connection : Nat) :
    (keeper env).Triple (Holds fun w => R w.runtime) (startInventory env.device connection key)
      (fun _ => Holds fun w => Begun env key w ∧ R w.runtime) fun _ _ => True := by
  apply Actor.Triple.seq stable_true
    (triple_placidOp (.writeSession (some connection)) trivial lasts_runtime)
  intro _
  change (keeper env).Triple _ (Prog.bind (Prog.ofExcept (startRequest env.device)) _) _ _
  cases built : startRequest env.device with
  | error exc => exact fun _ _ => Actor.Sat.raise fun _ _ => trivial
  | ok request =>
      change (keeper env).Triple _ (Prog.bind (withSession _) _) _ _
      apply Actor.Triple.seq stable_true
        (Q := fun _ => Holds fun w => Begun env key w ∧ R w.runtime)
      · apply Actor.Triple.seq stable_true (triple_placidOp .readSession trivial lasts_runtime)
        intro session
        cases session with
        | none => exact fun _ _ => Actor.Sat.raise fun _ _ => trivial
        | some connection => exact triple_sendStart (Custody.requestCommand_startRequest built) _
      intro _
      apply triple_placid lasts_begunFor
      exact Prog.calls_bind (calls_awaitResponse (fun _ => trivial)
        (offAccount_sessionReceive _) 32) fun _ => Prog.calls_perform trivial

/-- A handler that cleans up and raises again. -/
theorem triple_reraise {α : Type} {Q : α → World → Prop} {cleanup : Bridge Unit}
    (calls : cleanup.Calls BridgeOp.offAccount) (exc : PyException) :
    (keeper env).Triple (fun _ => True) (cleanup.bind fun _ => .raise exc) Q fun _ _ => True :=
  Actor.Triple.seq stable_true (triple_lawful calls)
    fun _ _ _ => Actor.Sat.raise fun _ _ => trivial

theorem triple_openAndStart :
    (keeper env).Triple (Holds fun w => R w.runtime) (openAndStart env.device key)
      (fun _ => Holds fun w => Begun env key w ∧ R w.runtime) fun _ _ => True := by
  apply Actor.Triple.seq stable_true
    (triple_placid lasts_runtime (Prog.calls_ofExcept BridgeOp.offAccount _))
  intro _
  apply triple_tryElse (triple_placidOp .connect trivial lasts_runtime)
  · exact fun exc _ => triple_reraise offAccount_forgetSession exc
  · exact fun exc _ _ _ => Actor.Sat.raise fun _ _ => trivial
  intro connection
  apply triple_tryElse (triple_startInventory connection)
  · exact fun exc _ => triple_reraise
      (Prog.calls_tryFinally (Prog.calls_perform trivial) offAccount_forgetSession) exc
  · exact fun exc _ _ _ => Actor.Sat.raise fun _ _ => trivial
  · exact fun _ => Actor.triple_ret (stable_holds (lasts_calm lasts_begunFor)) fun _ => id

/-- The executor has no session, and it says so. -/
theorem triple_inactive (lasts : Actor.Lasts (Calm env) P)
    (off : ∀ w, P w → ¬ Custody.Active w) :
    (keeper env).Triple (Holds P) isActive (fun active => Holds fun w => P w ∧ active = false)
      fun _ _ => True := by
  have lastsSession : ∀ session : Option Nat, Actor.Lasts (Calm env) fun w =>
      P w ∧ w.executor.session = session :=
    fun session => Actor.lasts_and lasts fun w w' calm h => calm.connection.trans h
  have readsSession : (keeper env).Triple (Holds P) readSession
      (fun session => Holds fun w => P w ∧ w.executor.session = session) fun _ _ => True := by
    apply discipline.triple_perform .readSession
      (Q := fun session w => P w ∧ w.executor.session = session) lasts lastsSession stable_true
      (fun _ _ => trivial)
    · intro w session w' h step
      refine ⟨lasts w w' (calm_of_off .readSession trivial step.1.1) h.2, ?_⟩
      obtain ⟨_, ⟨same, rfl⟩, rfl⟩ := step.1.1.effect_of_ok
      exact (Except.ok.inj same).symm
    · exact fun _ _ _ _ _ _ => trivial
  apply Actor.Triple.seq stable_true readsSession
  intro session
  split
  · exact Actor.triple_ret (stable_holds (lastsSession session)) fun _ h => ⟨h.1, h.2.1, rfl⟩
  rename_i open_
  have readsKey : (keeper env).Triple (Holds fun w => P w ∧ w.executor.session = session)
      readActiveSessionKey (fun key => Holds fun w => P w ∧ key = none) fun _ _ => True := by
    apply discipline.triple_perform .readActiveSessionKey (Q := fun key w => P w ∧ key = none)
      (lastsSession session) (fun key => Actor.lasts_and lasts fun _ _ _ => id) stable_true
      (fun _ _ => trivial)
    · rintro w key w' ⟨-, h, rfl⟩ step
      refine ⟨lasts w w' (calm_of_off .readActiveSessionKey trivial step.1.1) h, ?_⟩
      obtain ⟨_, ⟨same, rfl⟩, rfl⟩ := step.1.1.effect_of_ok
      rw [Except.ok.inj same]
      by_contra active
      exact off _ h ⟨open_, active⟩
    · exact fun _ _ _ _ _ _ => trivial
  apply Actor.Triple.seq stable_true readsKey
  exact fun key => Actor.triple_ret
    (stable_holds (Actor.lasts_and lasts fun _ _ _ => id))
    fun _ h => ⟨h.1, h.2.1, by rw [h.2.2]; rfl⟩

/-- A START from an inactive executor. -/
theorem triple_start (clean : strip key = key) (readerCode : String) :
    (keeper env).Triple (Holds fun w => ¬ Custody.Active w ∧ R w.runtime)
      (PersistentActiveReaderExecutor.start env.device key readerCode)
      (fun _ => Holds fun w => Begun env key w ∧ R w.runtime) fun _ _ => True := by
  have lasts : Actor.Lasts (Calm env) fun w => ¬ Custody.Active w ∧ R w.runtime := by
    rintro w w' calm ⟨off, runs⟩
    refine ⟨?_, lasts_runtime w w' calm.toPlacid runs⟩
    rw [Custody.Active, calm.connection, calm.key]
    exact off
  unfold PersistentActiveReaderExecutor.start
  split
  · exact fun _ _ => Actor.Sat.raise fun _ _ => trivial
  split
  · exact fun _ _ => Actor.Sat.raise fun _ _ => trivial
  apply Actor.Triple.seq stable_true (triple_inactive lasts fun _ h => h.1)
  rintro active w ⟨-, h, rfl⟩
  rw [if_neg (by simp), clean]
  exact triple_openAndStart w ⟨trivial, h.2⟩

/-- No capture thread is alive, as far as the service can see. -/
theorem triple_notRunning (lasts : Actor.Lasts (Calm env) P) (none : ∀ w, P w → NoneRunning w) :
    (keeper env).Triple (Holds P) FinalCaptureService.isRunning
      (fun running => Holds fun w => P w ∧ running = false) fun _ _ => True := by
  apply Actor.Triple.seq stable_true (triple_offOp .readCaptureThread trivial lasts)
  intro thread
  cases thread with
  | none => exact Actor.triple_ret (stable_holds lasts) fun _ h => ⟨h.1, h.2, rfl⟩
  | some thread =>
      apply discipline.triple_perform (.threadIsAlive thread)
        (Q := fun running w => P w ∧ running = false) lasts
        (fun _ => Actor.lasts_and lasts fun _ _ _ => id) stable_true (fun _ _ => trivial)
      · intro w running w' h step
        refine ⟨lasts w w' (calm_of_off (.threadIsAlive thread) trivial step.1.1) h.2, ?_⟩
        obtain ⟨_, ⟨same, rfl⟩, rfl⟩ := step.1.1.effect_of_ok
        rw [Except.ok.inj same]
        simpa using none _ h.2 thread
      · exact fun _ _ _ _ _ _ => trivial

/-- The service has forgotten what an earlier capture thread has left. -/
def Armed (env : BridgeEnv) (key : String) (R : LocalReaderRuntime → Prop) (w : World) : Prop :=
  (Begun env key w ∧ R w.runtime) ∧ w.capture.error = none

theorem lasts_armed : Actor.Lasts (Placid env) (Armed env key R) :=
  fun w w' placid h => ⟨lasts_begunFor w w' placid h.1,
    (placid.rests h.1.1.none).2.error.trans h.2⟩

theorem triple_forgetError :
    (keeper env).Triple (Holds fun w => Begun env key w ∧ R w.runtime)
      (FinalCaptureService.writeError none) (fun _ => Holds (Armed env key R))
      fun _ _ => True := by
  apply discipline.triple_perform (.writeCaptureError none) (Q := fun _ => Armed env key R)
    (lasts_calm lasts_begunFor) (fun _ => lasts_calm lasts_armed) stable_true
    (fun w h => h.2.1.none)
  · rintro w _ w' ⟨-, begun, runs⟩ step
    have account : accountAt env w' = accountAt env w := by
      rw [accountAt, account_of_step step.1.1, record_of_unrecorded rfl]
    refine ⟨⟨⟨?_, ?_, ?_, ?_⟩, ?_⟩, ?_⟩
    · exact (noneRunning_of_threads (step.1.1.frame.1.threads (by rintro ⟨⟩))).mpr begun.none
    · rw [account]
      exact begun.session
    · rw [account]
      exact begun.handed
    · rw [account]
      exact begun.sound
    · rw [step.1.1.frame.1.runtime (by rintro ⟨⟩)]
      exact runs
    · obtain ⟨_, ⟨-, rfl⟩, rfl⟩ := step.1.1.effect_of_ok
      rfl
  · exact fun _ _ _ _ _ _ => trivial

/-- The session is read, and whoever ends its capture thread leaves settled accounts. -/
def Reading (env : BridgeEnv) (key : String) (R : LocalReaderRuntime → Prop) (w : World) : Prop :=
  ((accountAt env w).session = some key ∧ R w.runtime) ∧ Watched env w

theorem lasts_reading : Actor.Lasts (Placid env) (Reading env key R) :=
  Actor.lasts_and (lasts_label (S := fun session runtime => session = some key ∧ R runtime))
    lasts_watched

theorem triple_startThread (thread : Nat) :
    (keeper env).Triple (Holds (Armed env key R)) (Prog.perform (BridgeOp.startThread thread))
      (fun _ => Holds (Reading env key R)) fun _ _ => True := by
  apply discipline.triple_perform (.startThread thread) (Q := fun _ => Reading env key R)
    (lasts_calm lasts_armed) (fun _ => lasts_calm lasts_reading) stable_true
  · rintro w ⟨-, ⟨begun, -⟩, error⟩
    exact sound_of error (by rw [begun.handed, List.append_nil]) begun.sound
  · rintro w _ w' ⟨-, ⟨begun, runs⟩, -⟩ step
    refine ⟨⟨(session_of_step (by rintro _ _ _ ⟨⟩) step.1.1).trans begun.session, ?_⟩, ?_⟩
    · rw [step.1.1.frame.1.runtime (by rintro ⟨⟩)]
      exact runs
    · obtain ⟨_, ⟨-, rfl⟩ | ⟨⟨_, failed⟩, -⟩, rfl⟩ := step.1.1.effect_of_ok
      · exact fun none => absurd (Function.update_self _ _ _) (none thread)
      · cases failed
  · exact fun _ _ _ _ _ _ => trivial

theorem triple_spawn :
    (keeper env).Triple (Holds fun w => Begun env key w ∧ R w.runtime)
      (FinalCaptureService.spawn key) (fun _ => Holds (Reading env key R)) fun _ _ => True := by
  apply Actor.Triple.seq stable_true (triple_placidOp .clearStopEvent trivial lasts_begunFor)
  intro _
  apply Actor.Triple.seq stable_true triple_forgetError
  intro _
  apply Actor.Triple.seq stable_true
    (triple_placidOp (.writeCaptureSessionKey (some key)) trivial lasts_armed)
  intro _
  apply Actor.Triple.seq stable_true (triple_placidOp .newThread trivial lasts_armed)
  intro thread
  apply Actor.Triple.seq stable_true
    (triple_placidOp (.writeCaptureThread (some thread)) trivial lasts_armed)
  exact fun _ => triple_startThread thread

/-- The hook behind the start of the reader. -/
theorem triple_startCapture (clean : strip key = key) (readerCode : String) :
    (keeper env).Triple (Holds fun w => Begun env key w ∧ R w.runtime)
      (FinalWorkerCycle.startCapture env.device key readerCode)
      (fun _ => Holds (Reading env key R)) fun _ _ => True := by
  have lasts : Actor.Lasts (Calm env) fun w => Begun env key w ∧ R w.runtime :=
    lasts_calm lasts_begunFor
  unfold FinalWorkerCycle.startCapture FinalCaptureService.start
  rw [clean]
  split
  · exact fun _ _ => Actor.Sat.raise fun _ _ => trivial
  split
  · exact fun _ _ => Actor.Sat.raise fun _ _ => trivial
  apply Actor.Triple.seq stable_true (triple_notRunning lasts fun _ h => h.1.none)
  rintro running w ⟨-, begun, rfl⟩
  rw [if_neg (by simp)]
  revert w
  have goesOn : (keeper env).Triple (Holds fun w => Begun env key w ∧ R w.runtime)
      (do
        let active ← isActive
        if active = false then
          raising .finalCaptureServiceError "Cannot start capture while reader is inactive."
        else do
          let activeKey ← readActiveSessionKey
          if activeKey ≠ some key then
            raising .finalCaptureServiceError
              "Capture session does not match active reader session."
          else FinalCaptureService.spawn key)
      (fun _ => Holds (Reading env key R)) fun _ _ => True := by
    apply Actor.Triple.seq stable_true (triple_placid lasts_begunFor offAccount_isActive)
    intro active
    split
    · exact fun _ _ => Actor.Sat.raise fun _ _ => trivial
    apply Actor.Triple.seq stable_true
      (triple_placidOp .readActiveSessionKey trivial lasts_begunFor)
    intro activeKey
    split
    · exact fun _ _ => Actor.Sat.raise fun _ _ => trivial
    · exact triple_spawn
  exact fun w begun => goesOn w ⟨trivial, begun⟩

end

end Watch
end RfidBridge
