import RfidBridge.Worker.Attribution
import RfidBridge.Worker.FrameAccount

/-!
The account of the tag frames while threads come and go. A capture thread that has ended
has stored whatever it took from the buffer, or it has left its error behind; the control
thread looks at the buffer again only when no capture thread is alive.
-/

namespace RfidBridge
open PersistentActiveReaderExecutor

/-- The steps that runs take, with the ownership and the custody at hand. -/
def watchedExec (env : BridgeEnv) :
    Pool.Exec Thread BridgeOp BridgeOp.Answer PyException World :=
  fun t op w answer w' => ownedExec env t op w answer w' ∧ Custody w

theorem watchedSteps_of_run {env : BridgeEnv} {settings : CommandSettings} {c₀ c : BridgePool}
    (started : Started env settings c₀) (run : BridgeSteps env c₀ c) :
    Pool.Steps (watchedExec env) (BridgeBody env) c₀ c := by
  induction run with
  | refl => exact .refl
  | tail before step ih =>
      refine .tail ih ?_
      cases step with
      | call code ex =>
          exact .call code ⟨⟨ex, (Attribution.laws_of_call started before code ex).1,
            Ownership.ownership_of_run started before⟩, Custody.custody_of_run started before⟩
      | begin code chosen => exact .begin code chosen

/-- The account at a point of a run. -/
abbrev accountAt (env : BridgeEnv) (w : World) : FrameAccount := account env.device w.trace

/-- Without an error in the capture service, all frames that were handed out are stored but
for the given ones, and nothing has failed; and an error there means that something has. -/
structure Accounts (env : BridgeEnv) (held : List RFIDFrame) (w : World) : Prop where
  sound : w.capture.error = none →
    (accountAt env w).handed = (accountAt env w).ingested ++ held ∧ (accountAt env w).failed = false
  spoiled : w.capture.error ≠ none → (accountAt env w).failed = true

/-- The accounts of a thread that goes on. -/
def Sound (env : BridgeEnv) (held : List RFIDFrame) (w : World) : Prop :=
  w.capture.error = none ∧ Accounts env held w

/-- As soon as no capture thread is alive, the accounts are settled. -/
def Watched (env : BridgeEnv) (w : World) : Prop := NoneRunning w → Accounts env [] w

/-- No capture thread is alive, the accounts are settled and the buffer is empty. -/
structure Drained (env : BridgeEnv) (w : World) : Prop where
  none : NoneRunning w
  accounts : Accounts env [] w
  buffer : w.executor.pendingTagFrames = []

/-- When a thread is started and may end, when the control thread may touch the accounts, and
when it may report a success of STOP. -/
def WatchLaw (env : BridgeEnv) : Thread → BridgeOp → World → Prop
  | .control, .writeCaptureError _, w | .control, .store (.ingestFinalActiveTagFrames ..), w =>
      NoneRunning w
  | .control, .startThread _, w => Sound env [] w
  | .control, .ack request, w => request.success = true → request.command = .stop →
      (accountAt env w).session = some request.sessionKey ∧ Drained env w
  | .capture _, .threadEnds _, w => Accounts env [] w
  | _, _, _ => True

namespace Watch
variable {env : BridgeEnv} {n : Nat} {t : Thread} {op : BridgeOp} {w w' : World}
  {answer : Except PyException op.Answer} {held : List RFIDFrame} {P : World → Prop}

/-- The account and the error of the capture service are the same. -/
structure Kept (env : BridgeEnv) (w w' : World) : Prop where
  account : accountAt env w' = accountAt env w
  error : w'.capture.error = w.capture.error

theorem accounts_of_kept (kept : Kept env w w') (h : Accounts env held w) :
    Accounts env held w' := by
  refine ⟨?_, ?_⟩
  · rw [kept.error, kept.account]
    exact h.sound
  · rw [kept.error, kept.account]
    exact h.spoiled

theorem sound_of_kept (kept : Kept env w w') (h : Sound env held w) : Sound env held w' :=
  ⟨kept.error.trans h.1, accounts_of_kept kept h.2⟩

/-- Without an error and without a failure, the accounts are these. -/
theorem sound_of (error : w.capture.error = none)
    (handed : (accountAt env w).handed = (accountAt env w).ingested ++ held)
    (sound : (accountAt env w).failed = false) : Sound env held w :=
  ⟨error, fun _ => ⟨handed, sound⟩, fun some => absurd error some⟩

theorem kept_of_unrecorded (op : BridgeOp) {answer : Except PyException op.Answer}
    (unrecorded : op.recorded t = false) (unwritten : op.writes ≠ some .captureError)
    (step : BridgeStep env t op w answer w') : Kept env w w' := by
  refine ⟨?_, step.frame.1.captureError unwritten⟩
  rw [accountAt, account_of_step step, record_of_unrecorded unrecorded]

/-- Only a START request is for another session. -/
theorem session_of_step (unsent : ∀ connection request label, op = .send connection request label →
    requestCommand request ≠ some commandStartInventory)
    (step : BridgeStep env t op w answer w') :
    (accountAt env w').session = (accountAt env w).session := by
  rw [accountAt, account_of_step step]
  unfold Entry.record
  split
  · rename_i connection request label _ same
    cases same
    rw [if_neg (unsent connection request label rfl)]
  all_goals rfl

/-- What the control thread does to the accounts while it works on a session, and what it sees
of the others. -/
structure Placid (env : BridgeEnv) (w w' : World) : Prop where
  runtime : w'.runtime = w.runtime
  busy : w'.busy = w.busy
  session : (accountAt env w').session = (accountAt env w).session
  rests : NoneRunning w → NoneRunning w' ∧ Kept env w w'
  ends : NoneRunning w' → NoneRunning w ∨ Accounts env [] w'

/-- The same, with the executor left alone. -/
structure Calm (env : BridgeEnv) (w w' : World) : Prop extends Placid env w w' where
  connection : w'.executor.session = w.executor.session
  key : w'.executor.activeSessionKey = w.executor.activeSessionKey
  buffer : NoneRunning w → w'.executor.pendingTagFrames = w.executor.pendingTagFrames

theorem noneRunning_of_threads (threads : w'.threads = w.threads) :
    NoneRunning w' ↔ NoneRunning w := by
  rw [NoneRunning, NoneRunning, threads]

theorem placid_of_kept (runtime : w'.runtime = w.runtime) (busy : w'.busy = w.busy)
    (threads : w'.threads = w.threads) (kept : Kept env w w') : Placid env w w' :=
  ⟨runtime, busy, by rw [kept.account],
    fun none => ⟨(noneRunning_of_threads threads).mpr none, kept⟩,
    fun none => .inl ((noneRunning_of_threads threads).mp none)⟩

/-- A step of another thread while no capture thread is alive. -/
theorem calm_of_unrecorded (op : BridgeOp) {answer : Except PyException op.Answer}
    (unrecorded : op.recorded t = false) (step : BridgeStep env t op w answer w')
    (part : ∀ field, op.writes = some field → field = .db ∨ field = .line ∨ field = .stopEvent) :
    Calm env w w' := by
  have apart : ∀ field, field ≠ .db → field ≠ .line → field ≠ .stopEvent →
      op.writes ≠ some field := by
    intro field db line stop written
    obtain same | same | same := part field written <;> contradiction
  have frame := step.frame.1
  refine ⟨placid_of_kept (frame.runtime (apart _ nofun nofun nofun))
    (frame.busy (apart _ nofun nofun nofun)) (frame.threads (apart _ nofun nofun nofun))
    (kept_of_unrecorded op unrecorded (apart _ nofun nofun nofun) step),
    frame.session (apart _ nofun nofun nofun), frame.activeSessionKey (apart _ nofun nofun nofun),
    fun _ => frame.pendingTagFrames (apart _ nofun nofun nofun)⟩

/-- A capture thread that is alive, but for its end. -/
theorem calm_of_alive (op : BridgeOp) {answer : Except PyException op.Answer} (polls : op.polls n)
    (alive : w.threads n = .running) (goesOn : ∀ m, op ≠ .threadEnds m)
    (step : BridgeStep env t op w answer w') : Calm env w w' := by
  have frame := step.frame.1
  have threads : w'.threads = w.threads := by
    apply frame.threads
    cases op <;> first | exact absurd rfl (goesOn _) | exact polls.elim | rintro ⟨⟩
  have running : ¬ NoneRunning w := fun none => none n alive
  refine ⟨⟨frame.runtime ?_, frame.busy ?_, session_of_step ?_ step,
    fun none => absurd none running,
    fun none => absurd ((noneRunning_of_threads threads).mp none) running⟩,
    frame.session ?_, frame.activeSessionKey ?_, fun none => absurd none running⟩
  · cases op <;> first | exact polls.elim | rintro ⟨⟩
  · cases op <;> first | exact polls.elim | rintro ⟨⟩
  · rintro connection request label rfl
    exact polls.elim
  · cases op <;> first | exact polls.elim | rintro ⟨⟩
  · cases op <;> first | exact polls.elim | rintro ⟨⟩

/-- The others leave the control thread's session alone, and a capture thread that was the last
one alive leaves the accounts settled. -/
theorem calm_of_others (other : t ≠ .control) (law : WatchLaw env t op w)
    (step : ownedExec env t op w answer w') : Calm env w w' := by
  obtain ⟨step, owner, -⟩ := step
  cases t with
  | control => exact absurd rfl other
  | reader =>
      obtain rfl : op = .processRequest := owner
      exact calm_of_unrecorded .processRequest rfl step (by rintro _ ⟨⟩; simp)
  | delivery m =>
      cases op with
      | store op' =>
          refine calm_of_unrecorded (.store op') ?_ step (by rintro _ ⟨⟩; simp)
          cases op' with
          | ingestFinalActiveTagFrames => cases owner.2 <;> contradiction
          | _ => rfl
      | events => exact calm_of_unrecorded (.events ..) rfl step (by rintro _ ⟨⟩)
      | _ => exact owner.elim
  | capture m =>
      by_cases begins : op = .threadBegins m
      · subst begins
        exact calm_of_unrecorded (.threadBegins m) rfl step (by rintro _ ⟨⟩)
      have alive := owner.2.resolve_left begins
      by_cases ends : op = .threadEnds m
      · subst ends
        have frame := step.frame.1
        have kept : Kept env w w' := kept_of_unrecorded (.threadEnds m) rfl (by rintro ⟨⟩) step
        exact ⟨⟨frame.runtime (by rintro ⟨⟩), frame.busy (by rintro ⟨⟩), by rw [kept.account],
          fun none => absurd alive (none m), fun _ => .inr (accounts_of_kept kept law)⟩,
          frame.session (by rintro ⟨⟩), frame.activeSessionKey (by rintro ⟨⟩),
          fun none => absurd alive (none m)⟩
      · refine calm_of_alive op owner.1 alive ?_ step
        rintro k rfl
        exact ends (congrArg BridgeOp.threadEnds owner.1)

theorem discipline :
    Actor.Discipline (watchedExec env) (WatchLaw env) .control (fun _ => True) (Calm env) where
  keeps _ _ _ _ _ _ _ _ := trivial
  others _ _ _ _ _ other law step _ := calm_of_others other law step.1

/-- What capture thread `n` sees of the steps of the others: it is started with sound accounts,
and while it is alive nobody else touches them. -/
structure Alongside (env : BridgeEnv) (n : Nat) (w w' : World) : Prop where
  born : w.threads n ≠ .unborn → w'.threads n ≠ .unborn
  starts : w'.threads n = .running → w.threads n ≠ .running →
    w.threads n = .unborn ∧ Sound env [] w'
  alive : w'.threads n = .running → w.threads n = .running → Kept env w w'

/-- The control thread touches the accounts only while no capture thread is alive. -/
theorem noneRunning_of_law (owner : OwnerLaw .control op w) (law : WatchLaw env .control op w)
    (touches : op.recorded .control = true ∨ op.writes = some .captureError) : NoneRunning w := by
  cases op with
  | writeCaptureError => exact law
  | send | readPendingTagFrames => exact owner rfl
  | store op' =>
      cases op' with
      | ingestFinalActiveTagFrames => exact law
      | _ => obtain recorded | written := touches <;> first | cases recorded | cases written
  | _ => obtain recorded | written := touches <;> first | cases recorded | cases written

/-- An operation of a delivery worker or of the reader is not recorded. -/
theorem unrecorded_of_aside (owner : OwnerLaw t op w) (control : t ≠ .control)
    (capture : ∀ m, t ≠ .capture m) :
    op.recorded t = false ∧ op.writes ≠ some .captureError := by
  cases t with
  | control => exact absurd rfl control
  | capture m => exact absurd rfl (capture m)
  | reader =>
      obtain rfl : op = .processRequest := owner
      exact ⟨rfl, by rintro ⟨⟩⟩
  | delivery m =>
      cases op with
      | store op' =>
          refine ⟨?_, by rintro ⟨⟩⟩
          cases op' with
          | ingestFinalActiveTagFrames => cases owner.2 <;> contradiction
          | _ => rfl
      | events => exact ⟨rfl, by rintro ⟨⟩⟩
      | _ => exact owner.elim

theorem kept_of_others (other : t ≠ .capture n) (law : WatchLaw env t op w)
    (step : ownedExec env t op w answer w') (alive : w.threads n = .running) :
    Kept env w w' := by
  obtain ⟨step, owner, owns⟩ := step
  by_cases touches : op.recorded t = true ∨ op.writes = some .captureError
  · cases t with
    | control => exact absurd alive (noneRunning_of_law owner law touches n)
    | capture m =>
        by_cases begins : op = .threadBegins m
        · subst begins
          obtain recorded | written := touches <;> first | cases recorded | cases written
        · have same := (owns.current n alive).symm.trans
            (owns.current m (owner.2.resolve_left begins))
          exact absurd (congrArg Thread.capture (Option.some.inj same).symm) other
    | delivery | reader =>
        obtain ⟨recorded, written⟩ := unrecorded_of_aside owner (by rintro ⟨⟩) (by rintro _ ⟨⟩)
        obtain yes | yes := touches
        · cases recorded.symm.trans yes
        · exact absurd yes written
  · rw [not_or, Bool.not_eq_true] at touches
    exact kept_of_unrecorded op touches.1 touches.2 step

theorem alongside_of_others (other : t ≠ .capture n) (law : WatchLaw env t op w)
    (step : ownedExec env t op w answer w') : Alongside env n w w' := by
  refine ⟨Custody.born_of_step step.1, fun later before => ?_,
    fun _ alive => kept_of_others other law step alive⟩
  obtain ⟨step, owner, -⟩ := step
  cases op with
  | startThread m =>
      obtain rfl := Ownership.control_of_law owner (fun _ => id) id (by rintro ⟨⟩)
      have sound : Sound env [] w' := sound_of_kept
        (kept_of_unrecorded (.startThread m) rfl (by rintro ⟨⟩) step) law
      refine ⟨?_, sound⟩
      obtain ⟨_, (⟨unborn, rfl⟩ | ⟨-, rfl⟩) | ⟨-, rfl⟩, rfl⟩ := step.effect
      · by_cases same : n = m
        · exact same ▸ unborn
        · exact absurd ((Function.update_of_ne same _ _).symm.trans later) before
      · exact absurd later before
      · exact absurd later before
  | threadEnds m => exact absurd (Ownership.running_of_threadEnds step n later) before
  | _ => exact absurd ((congrFun (step.frame.1.threads (by rintro ⟨⟩)) n).symm.trans later) before

theorem captureDiscipline :
    Actor.Discipline (watchedExec env) (WatchLaw env) (.capture n) (fun _ => True)
      (Alongside env n) where
  keeps _ _ _ _ _ _ _ _ := trivial
  others _ _ _ _ _ other law step _ := alongside_of_others other law step.1

/-- Capture thread `n` under the law of the accounts. -/
abbrev hand (env : BridgeEnv) (n : Nat) : Actor BridgeOp BridgeOp.Answer PyException World :=
  Actor.member (watchedExec env) (WatchLaw env) (.capture n)

/-- An assertion of capture thread `n` behind its beginning. -/
abbrev Runs (n : Nat) (P : World → Prop) : World → Prop :=
  Actor.Under (fun _ => True) (Custody.Alive n P)

theorem lasts_alive (kept : ∀ w w', Kept env w w' → P w → P w') :
    Actor.Lasts (Alongside env n) (Custody.Alive n P) := by
  intro w w' along h
  refine ⟨along.born h.1, fun later => ?_⟩
  by_cases alive : w.threads n = .running
  · exact kept w w' (along.alive later alive) (h.2 alive)
  · exact absurd (along.starts later alive).1 h.1

theorem lasts_sound : Actor.Lasts (Alongside env n) (Custody.Alive n (Sound env held)) :=
  lasts_alive fun _ _ => sound_of_kept

theorem lasts_accounts : Actor.Lasts (Alongside env n) (Custody.Alive n (Accounts env held)) :=
  lasts_alive fun _ _ => accounts_of_kept

/-- A thread that has not begun will begin with sound accounts. -/
theorem lasts_unbegun :
    Actor.Lasts (Alongside env n) fun w => w.threads n = .running → Sound env [] w := by
  intro w w' along h later
  by_cases alive : w.threads n = .running
  · exact sound_of_kept (along.alive later alive) (h alive)
  · exact (along.starts later alive).2

end Watch
end RfidBridge
