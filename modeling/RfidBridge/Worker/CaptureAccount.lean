import RfidBridge.Worker.CaptureWatch

/-!
The account of one capture thread: it stores what it takes from the buffer before it looks
for more, and when anything fails it leaves the error behind and ends.
-/

namespace RfidBridge
open PersistentActiveReaderExecutor

/-- What a capture thread does that the account does not record. -/
def BridgeOp.unaccounted : BridgeOp → Bool
  | .readSession | .readActiveSessionKey | .appendPendingTagFrame _ | .clearPendingTagFrames
  | .readCaptureSessionKey | .stopEventIsSet | .setStopEvent | .sleep | .closeOldConnections
  | .rounds | .beyond => true
  | _ => false

namespace Watch
variable {env : BridgeEnv} {n : Nat} {P E : World → Prop} {held : List RFIDFrame}

/-- A capture thread is about to give up. -/
def Stops (n : Nat) (E : World → Prop) (exc : PyException) (w : World) : Prop :=
  exc.isException = true ∧ Runs n E w

theorem stable_runs (lasts : Actor.Lasts (Alongside env n) (Custody.Alive n P)) :
    (hand env n).Stable (Runs n P) :=
  captureDiscipline.stable lasts

theorem stable_stops (lasts : Actor.Lasts (Alongside env n) (Custody.Alive n E))
    (exc : PyException) : (hand env n).Stable (Stops n E exc) :=
  fun w w' h rely => ⟨h.1, stable_runs lasts w w' h.2 rely⟩

theorem lasts_any : Actor.Lasts (Alongside env n) (Custody.Alive n fun _ => True) :=
  lasts_alive fun _ _ _ _ => trivial

theorem runs_weaken {w : World} (h : Runs n P w) : Runs n (fun _ => True) w :=
  ⟨trivial, h.2.1, fun _ => trivial⟩

/-- One operation of a capture thread that goes on behind it. -/
theorem triple_op (op : BridgeOp) {Q : op.Answer → World → Prop}
    (begun : op ≠ .threadBegins n) (ends : ∀ m, op ≠ .threadEnds m)
    (lasts : Actor.Lasts (Alongside env n) (Custody.Alive n P))
    (lasts' : ∀ value, Actor.Lasts (Alongside env n) (Custody.Alive n (Q value)))
    (lastsE : Actor.Lasts (Alongside env n) (Custody.Alive n E))
    (returns : ∀ w value w', P w → BridgeStep env (.capture n) op w (.ok value) w' → Q value w')
    (raises : ∀ w exc w', P w → BridgeStep env (.capture n) op w (.error exc) w' → E w') :
    (hand env n).Triple (Runs n P) (Prog.perform op) (fun value => Runs n (Q value))
      (Stops n E) := by
  have alive : ∀ {w : World} {answer : Except PyException op.Answer} {w' : World}, Runs n P w →
      watchedExec env (.capture n) op w answer w' → w'.threads n ≠ .unborn ∧ P w := by
    intro w answer w' h step
    exact ⟨Custody.born_of_step step.1.1 h.2.1,
      h.2.2 (Custody.running_of_law step.1.2.1 begun)⟩
  apply captureDiscipline.triple_act op (Q := fun value => Custody.Alive n (Q value)) lasts lasts'
    (stable_stops lastsE)
  · intro w _ _ _ _
    cases op with
    | threadEnds m => exact absurd rfl (ends m)
    | _ => trivial
  · intro w value w' h step
    obtain ⟨born, before⟩ := alive h step
    exact ⟨born, fun _ => returns w value w' before step.1.1⟩
  · intro w exc w' h step _
    obtain ⟨born, before⟩ := alive h step
    refine ⟨(step.1.1.exception exc rfl).resolve_left (by rintro ⟨⟩), trivial, born, fun _ => ?_⟩
    exact raises w exc w' before step.1.1

theorem triple_aside (op : BridgeOp) (unaccounted : op.unaccounted = true)
    (kept : ∀ w w', Kept env w w' → P w → P w') :
    (hand env n).Triple (Runs n P) (Prog.perform op : Bridge op.Answer) (fun _ => Runs n P)
      (Stops n P) := by
  have keeps : ∀ w (answer : Except PyException op.Answer) w', P w →
      BridgeStep env (.capture n) op w answer w' → P w' := by
    intro w answer w' h step
    refine kept w w' (kept_of_unrecorded op ?_ ?_ step) h
    · cases op <;> first | rfl | cases unaccounted
    · cases op <;> first | rintro ⟨⟩; done | cases unaccounted
  refine triple_op op ?_ ?_ (lasts_alive kept) (fun _ => lasts_alive kept) (lasts_alive kept)
    (fun w value w' => keeps w (.ok value) w') fun w exc w' => keeps w (.error exc) w'
  · rintro rfl
    cases unaccounted
  · rintro m rfl
    cases unaccounted

theorem stops_weaken {exc : PyException} {w : World} (h : Stops n P exc w) :
    Stops n (fun _ => True) exc w :=
  ⟨h.1, runs_weaken h.2⟩

/-- The same, where nothing is asked behind a failure. -/
theorem triple_reads (op : BridgeOp) (unaccounted : op.unaccounted = true)
    (kept : ∀ w w', Kept env w w' → P w → P w') :
    (hand env n).Triple (Runs n P) (Prog.perform op : Bridge op.Answer) (fun _ => Runs n P)
      (Stops n fun _ => True) :=
  (triple_aside op unaccounted kept).conseq (fun _ => id) (fun _ _ => id)
    fun _ _ => stops_weaken

theorem stable_ending (exc : PyException) : (hand env n).Stable (Stops n (fun _ => True) exc) :=
  stable_stops lasts_any exc

/-- Such an operation while nothing is held. -/
theorem triple_unheld (op : BridgeOp) (unaccounted : op.unaccounted = true) :
    (hand env n).Triple (Runs n (Sound env [])) (Prog.perform op : Bridge op.Answer)
      (fun _ => Runs n (Sound env [])) (Stops n fun _ => True) :=
  triple_reads op unaccounted fun _ _ => sound_of_kept

/-- What the executor hands out is held from here on. -/
theorem triple_takes :
    (hand env n).Triple (Runs n (Sound env [])) takePendingTagFrames
      (fun frames => Runs n (Sound env frames)) (Stops n fun _ => True) := by
  have reads : (hand env n).Triple (Runs n (Sound env []))
      (Prog.perform BridgeOp.readPendingTagFrames : Bridge (List RFIDFrame))
      (fun frames => Runs n (Sound env frames)) (Stops n fun _ => True) := by
    apply triple_op .readPendingTagFrames (Q := fun frames => Sound env frames) (by rintro ⟨⟩)
      (by rintro _ ⟨⟩) lasts_sound (fun _ => lasts_sound) lasts_any
    · rintro w frames w' ⟨error, accounts⟩ step
      obtain ⟨handed, sound⟩ := accounts.sound error
      have account := account_of_step step
      rw [Entry.record] at account
      apply sound_of ((step.frame.1.captureError (by rintro ⟨⟩)).trans error)
      · rw [accountAt, account, handed, List.append_nil]
      · rw [accountAt, account, sound]
    · exact fun _ _ _ _ _ => trivial
  apply Actor.Triple.seq stable_ending reads
  intro frames
  apply Actor.Triple.seq stable_ending
    (triple_reads .clearPendingTagFrames rfl fun _ _ => sound_of_kept)
  exact fun _ => Actor.triple_ret (stable_runs lasts_sound) fun _ => id

/-- A thread that has received these frames fails if it refuses one of them. -/
def Received (env : BridgeEnv) (frames : List RFIDFrame) (w : World) : Prop :=
  w.capture.error = none ∧ (accountAt env w).handed = (accountAt env w).ingested ∧
    (accountAt env w).failed = frames.any (refused env.device)

theorem received_of_kept {frames : List RFIDFrame} (w w' : World) (kept : Kept env w w')
    (h : Received env frames w) : Received env frames w' := by
  rw [Received, kept.account, kept.error]
  exact h

theorem triple_receives (connection : Nat) (expectedCommands : List UInt8) :
    (hand env n).Triple (Runs n (Sound env [])) (receive connection expectedCommands)
      (fun frames => Runs n (Received env frames)) (Stops n fun _ => True) := by
  apply triple_op (.receive connection expectedCommands) (Q := fun frames => Received env frames)
    (by rintro ⟨⟩) (by rintro _ ⟨⟩) lasts_sound (fun _ => lasts_alive received_of_kept) lasts_any
  · rintro w frames w' ⟨error, accounts⟩ step
    obtain ⟨handed, sound⟩ := accounts.sound error
    have account := account_of_step step
    rw [Entry.record] at account
    refine ⟨(step.frame.1.captureError (by rintro ⟨⟩)).trans error, ?_, ?_⟩
    · rw [accountAt, account, handed, List.append_nil]
    · rw [accountAt, account, sound, Bool.false_or]
  · exact fun _ _ _ _ _ => trivial

/-- A frame is captured, or it is refused and the call raises. -/
theorem triple_captureTagFrame (frame : RFIDFrame) (kept : ∀ w w', Kept env w w' → P w → P w') :
    (hand env n).Triple (Runs n P) (captureTagFrame env.device frame)
      (fun _ w => Runs n P w ∧ refused env.device frame = false) (Stops n fun _ => True) := by
  have raises : ∀ (exc : PyException), exc.isException = true →
      (hand env n).Triple (Runs n P) (.raise exc : Bridge Unit)
        (fun _ w => Runs n P w ∧ refused env.device frame = false) (Stops n fun _ => True) :=
    fun exc caught => Actor.triple_raise (stable_runs (lasts_alive kept))
      fun w h => ⟨caught, runs_weaken h⟩
  change (hand env n).Triple _ (Prog.bind (Prog.ofExcept (validateFrameAddress _ _)) _) _ _
  unfold validateFrameAddress
  split
  · exact raises _ rfl
  rename_i mine
  show (hand env n).Triple _ (if _ then _ else _) _ _
  split
  · rename_i other
    refine Actor.triple_ret (stable_runs (lasts_alive kept)) fun w h => ⟨h, ?_⟩
    simp [refused, not_not.mp mine, other]
  split
  · exact raises _ rfl
  · rename_i good
    refine (triple_reads (.appendPendingTagFrame frame) rfl kept).conseq (fun _ => id)
      (fun _ w h => ⟨h, ?_⟩) fun _ _ => id
    simp [refused, not_not.mp mine, not_not.mp good]

theorem triple_captures (frames : List RFIDFrame) (kept : ∀ w w', Kept env w w' → P w → P w') :
    (hand env n).Triple (Runs n P) (Prog.forEach frames (captureTagFrame env.device))
      (fun _ w => Runs n P w ∧ frames.any (refused env.device) = false)
      (Stops n fun _ => True) := by
  induction frames with
  | nil => exact Actor.triple_ret (stable_runs (lasts_alive kept)) fun w h => ⟨h, rfl⟩
  | cons frame frames ih =>
      apply Actor.Triple.seq stable_ending (triple_captureTagFrame frame kept)
      rintro value w ⟨h, fine⟩
      revert w h
      apply Actor.Triple.seq stable_ending ih
      rintro values w ⟨h, rest⟩
      revert w h
      exact Actor.triple_ret (stable_runs (lasts_alive kept))
        fun w h => ⟨h, by rw [List.any_cons, fine, rest, Bool.false_or]⟩

/-- What the thread receives it takes over in full, or it fails. -/
theorem triple_receiveTagFrames :
    (hand env n).Triple (Runs n (Sound env [])) (receiveTagFrames env.device)
      (fun frames => Runs n (Sound env frames)) (Stops n fun _ => True) := by
  have receives : (hand env n).Triple (Runs n (Sound env []))
      (withSession fun connection => receive connection [commandActiveTag])
      (fun frames => Runs n (Received env frames)) (Stops n fun _ => True) := by
    apply Actor.Triple.seq stable_ending (triple_unheld .readSession rfl)
    intro session
    cases session with
    | none => exact Actor.triple_raise (stable_runs lasts_sound) fun w h => ⟨rfl, runs_weaken h⟩
    | some connection => exact triple_receives connection [commandActiveTag]
  apply Actor.Triple.seq stable_ending receives
  intro frames
  apply Actor.Triple.seq stable_ending (triple_captures frames received_of_kept)
  rintro values w ⟨h, fine⟩
  apply triple_takes w
  refine ⟨trivial, h.2.1, fun running => ?_⟩
  obtain ⟨error, handed, failed⟩ := h.2.2 running
  exact sound_of error (by rw [handed, List.append_nil]) (failed.trans fine)

theorem triple_pollTagFrames :
    (hand env n).Triple (Runs n (Sound env [])) (pollTagFrames env.device)
      (fun frames => Runs n (Sound env frames)) (Stops n fun _ => True) := by
  have ret : ∀ {α : Type} (value : α), (hand env n).Triple (Runs n (Sound env []))
      (.ret value : Bridge α) (fun _ => Runs n (Sound env [])) (Stops n fun _ => True) :=
    fun value => Actor.triple_ret (stable_runs lasts_sound) fun _ => id
  have isActive : (hand env n).Triple (Runs n (Sound env [])) isActive
      (fun _ => Runs n (Sound env [])) (Stops n fun _ => True) := by
    apply Actor.Triple.seq stable_ending (triple_unheld .readSession rfl)
    intro session
    split
    · exact ret _
    · apply Actor.Triple.seq stable_ending (triple_unheld .readActiveSessionKey rfl)
      exact fun _ => ret _
  apply Actor.Triple.seq stable_ending triple_takes
  intro pending
  split
  · exact Actor.triple_ret (stable_runs lasts_sound) fun _ => id
  rename_i none
  rw [not_not.mp none]
  apply Actor.Triple.seq stable_ending isActive
  intro active
  split
  · exact Actor.triple_ret (stable_runs lasts_sound) fun _ => id
  · exact triple_receiveTagFrames

/-- What the thread holds is stored, or it fails. -/
theorem triple_ingest (sessionKey : Option String) (frames : List RFIDFrame) :
    (hand env n).Triple (Runs n (Sound env frames))
      (FinalCaptureService.ingest env.device sessionKey frames) (fun _ => Runs n (Sound env []))
      (Stops n fun _ => True) := by
  apply Actor.Triple.seq stable_ending (Q := fun _ => Runs n (Sound env []))
  · apply triple_op (.store (.ingestFinalActiveTagFrames env.device (sessionKey.getD "") frames))
      (Q := fun _ => Sound env []) (by rintro ⟨⟩) (by rintro _ ⟨⟩) lasts_sound
      (fun _ => lasts_sound) lasts_any
    · rintro w value w' ⟨error, accounts⟩ step
      obtain ⟨handed, sound⟩ := accounts.sound error
      have account := account_of_step step
      rw [Entry.record] at account
      apply sound_of ((step.frame.1.captureError (by rintro ⟨⟩)).trans error)
      · rw [accountAt, account, handed, List.append_nil]
      · rw [accountAt, account, sound]
    · exact fun _ _ _ _ _ => trivial
  · exact fun _ => Actor.triple_ret (stable_runs lasts_sound) fun _ => id

theorem triple_captureOnce :
    (hand env n).Triple (Runs n (Sound env [])) (FinalCaptureService.captureOnce env.device)
      (fun _ => Runs n (Sound env [])) (Stops n fun _ => True) := by
  apply Actor.Triple.seq stable_ending triple_pollTagFrames
  intro frames
  split
  · apply Actor.Triple.seq stable_ending
      (triple_reads .readCaptureSessionKey rfl fun _ _ => sound_of_kept)
    exact fun sessionKey => triple_ingest sessionKey frames
  · rename_i none
    rw [not_not.mp none]
    exact triple_unheld .sleep rfl

/-- The loop of the thread, for any number of rounds. -/
theorem triple_captureRounds :
    (hand env n).Triple (Runs n (Sound env []))
      (whileTrue (FinalCaptureService.captureRound env.device)) (fun _ => Runs n (Sound env []))
      (Stops n fun _ => True) := by
  apply Actor.Triple.seq stable_ending (triple_unheld .rounds rfl)
  intro rounds
  induction rounds with
  | zero =>
      apply Actor.Triple.seq stable_ending (triple_unheld .beyond rfl)
      rintro ⟨⟩
  | succ rounds ih =>
      apply Actor.Triple.seq stable_ending (Q := fun _ => Runs n (Sound env []))
      · apply Actor.Triple.seq stable_ending (triple_unheld .stopEventIsSet rfl)
        intro stopped
        split
        · exact Actor.triple_ret (stable_runs lasts_sound) fun _ => id
        · apply Actor.Triple.seq stable_ending triple_captureOnce
          exact fun _ => Actor.triple_ret (stable_runs lasts_sound) fun _ => id
      · intro found
        cases found with
        | some value => exact Actor.triple_ret (stable_runs lasts_sound) fun _ => id
        | none => exact ih

/-- An exception is left in the capture service. -/
theorem triple_writeError (exc : PyException) :
    (hand env n).Triple (Runs n fun _ => True) (FinalCaptureService.writeError (some exc))
      (fun _ => Runs n (Accounts env [])) fun _ => Runs n (Accounts env []) := by
  have writes : ∀ (w : World) (answer : Except PyException Unit) (w' : World),
      BridgeStep env (.capture n) (.writeCaptureError (some exc)) w answer w' →
      Accounts env [] w' := by
    intro w answer w' step
    have failed : (accountAt env w').failed = true := by
      rw [accountAt, account_of_step step, Entry.record]
    refine ⟨fun none => ?_, fun _ => failed⟩
    obtain ⟨_, ⟨-, rfl⟩ | ⟨⟨main, -⟩, -⟩, rfl⟩ := step.effect
    · cases none
    · cases main
  refine (triple_op (.writeCaptureError (some exc)) (Q := fun _ => Accounts env [])
    (E := Accounts env []) (by rintro ⟨⟩) (by rintro _ ⟨⟩) lasts_any (fun _ => lasts_accounts)
    lasts_accounts ?_ ?_).conseq (fun _ => id) (fun _ _ => id) fun _ _ h => h.2
  · exact fun w value w' _ step => writes w (.ok value) w' step
  · exact fun w failure w' _ step => writes w (.error failure) w' step

theorem triple_run :
    (hand env n).Triple (Runs n (Sound env [])) (FinalCaptureService.run env.device)
      (fun _ => Runs n (Accounts env [])) fun _ => Runs n (Accounts env []) := by
  have stable : ∀ exc : PyException, (hand env n).Stable (Runs n (Accounts env [])) :=
    fun _ => stable_runs lasts_accounts
  have settled : ∀ w, Runs n (Sound env []) w → Runs n (Accounts env []) w :=
    fun w h => ⟨trivial, h.2.1, fun running => (h.2.2 running).2⟩
  have aside : ∀ op : BridgeOp, op.unaccounted = true →
      (hand env n).Triple (Runs n (Accounts env [])) (Prog.perform op : Bridge op.Answer)
        (fun _ => Runs n (Accounts env [])) fun _ => Runs n (Accounts env []) :=
    fun op unaccounted => (triple_aside op unaccounted fun _ _ => accounts_of_kept).conseq
        (fun _ => id) (fun _ _ => id) fun _ _ h => h.2
  have loops : (hand env n).Triple (Runs n (Sound env []))
      (FinalCaptureService.captureLoop env.device) (fun _ => Runs n (Accounts env []))
      fun _ => Runs n (Accounts env []) := by
    refine triple_tryElse triple_captureRounds ?_ ?_ ?_
    · exact fun exc _ => (triple_writeError exc).conseq (fun _ h => h.2) (fun _ _ => id)
        fun _ _ => id
    · rintro exc caught w ⟨exception, -⟩
      cases exception.symm.trans caught
    · exact fun _ => Actor.triple_ret (stable_runs lasts_sound) settled
  have ends : (hand env n).Triple (Runs n (Accounts env []))
      (do
        Prog.perform BridgeOp.setStopEvent
        FinalCaptureService.closeOldConnections)
      (fun _ => Runs n (Accounts env [])) fun _ => Runs n (Accounts env []) := by
    apply Actor.Triple.seq stable (aside .setStopEvent rfl)
    exact fun _ => aside .closeOldConnections rfl
  apply Actor.Triple.seq stable ((triple_aside .closeOldConnections rfl
    fun _ _ => sound_of_kept).conseq (fun _ => id) (fun _ _ => id) fun _ w h => settled w h.2)
  intro _
  refine Actor.Triple.handle loops ?_ ?_
  · exact fun _ => Actor.Triple.seq stable ends
      fun _ => Actor.triple_ret (stable_runs lasts_accounts) fun _ => id
  · exact fun _ => Actor.Triple.seq stable ends
      fun _ => Actor.triple_raise (stable_runs lasts_accounts) fun _ => id

/-- A capture thread keeps to the law of the accounts. -/
theorem sat_threadMain {w : World} (sound : w.threads n = .running → Sound env [] w) :
    (hand env n).Sat (FinalCaptureService.threadMain env.device n)
      (fun _ w => w.threads n = .running → Sound env [] w) w := by
  have begins : (hand env n).Triple
      (Actor.Under (fun _ => True) fun w => w.threads n = .running → Sound env [] w)
      (Prog.perform (BridgeOp.threadBegins n)) (fun _ => Runs n (Sound env []))
      fun _ w => w.threads n = .running → Sound env [] w := by
    apply captureDiscipline.triple_act (.threadBegins n)
      (Q := fun _ => Custody.Alive n (Sound env [])) lasts_unbegun (fun _ => lasts_sound)
      (fun _ w w' h rely => (captureDiscipline.stable lasts_unbegun w w' ⟨trivial, h⟩ rely).2)
      fun _ _ _ _ _ => trivial
    · intro w _ w' h step
      have kept : Kept env w w' :=
        kept_of_unrecorded (.threadBegins n) rfl (by rintro ⟨⟩) step.1.1
      obtain ⟨_, ⟨running, -, rfl⟩, rfl⟩ := step.1.1.effect_of_ok
      refine ⟨?_, fun _ => sound_of_kept kept (h.2 running)⟩
      rw [show (World.log _ _).threads n = _ from running]
      rintro ⟨⟩
    · intro w exc w' _ step _
      obtain ⟨-, main, -⟩ := step.1.1.interrupted rfl
      cases main
  have ends : (hand env n).Triple (Runs n (Accounts env []))
      (Prog.perform (BridgeOp.threadEnds n))
      (fun _ w => w.threads n = .running → Sound env [] w)
      fun _ w => w.threads n = .running → Sound env [] w := by
    refine (captureDiscipline.triple_act (.threadEnds n)
      (Q := fun _ w => w.threads n = .running → Sound env [] w) lasts_accounts
      (fun _ => lasts_unbegun)
      (fun _ w w' h rely => (captureDiscipline.stable lasts_unbegun w w' ⟨trivial, h⟩ rely).2)
      ?_ ?_ ?_).conseq (fun _ => id) (fun _ _ h => h.2) fun _ _ => id
    · intro w answer w' h step
      exact h.2.2 (Custody.running_of_law step.1.2.1 (by rintro ⟨⟩))
    · intro w value w' _ step
      obtain ⟨_, ⟨-, rfl⟩, rfl⟩ := step.1.1.effect_of_ok
      intro running
      cases (Function.update_self _ _ _).symm.trans running
    · intro w exc w' _ step _
      obtain ⟨-, main, -⟩ := step.1.1.interrupted rfl
      cases main
  have main : (hand env n).Triple
      (Actor.Under (fun _ => True) fun w => w.threads n = .running → Sound env [] w)
      (FinalCaptureService.threadMain env.device n)
      (fun _ w => w.threads n = .running → Sound env [] w)
      fun _ w => w.threads n = .running → Sound env [] w := by
    apply Actor.Triple.seq (fun _ w w' h rely =>
      (captureDiscipline.stable lasts_unbegun w w' ⟨trivial, h⟩ rely).2) begins
    exact fun _ => Actor.Triple.handle triple_run (fun _ => ends) fun _ => ends
  apply (main w ⟨trivial, sound⟩).mono
  intro outcome _ after
  cases outcome <;> exact after

end Watch
end RfidBridge
