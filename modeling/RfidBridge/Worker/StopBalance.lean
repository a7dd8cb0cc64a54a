import RfidBridge.Worker.OpenSessions
import RfidBridge.Worker.StopAccount

/-!
The account of a session under the whole worker. At the success of a STOP everything that was
handed out has been stored, unless the capture thread of the session has failed; the worker
knows whether it has, and reports the success all the same.
-/

namespace RfidBridge
open FinalRuntimeOrchestrator PersistentActiveReaderExecutor

namespace Watch
variable {env : BridgeEnv} {command : OdooRFIDCommand} {w w' : World}
  {settings : CommandSettings} {c₀ c : BridgePool} {t : Thread}

theorem lasts_outside : Actor.Lasts (Placid env) fun w => w.busy = false :=
  fun _ _ placid outside => placid.busy.trans outside

/-- In the control loop, outside process_command. -/
def Waiting (env : BridgeEnv) (w : World) : Prop := w.busy = false ∧ Rested env w

theorem lasts_waiting : Actor.Lasts (Calm env) (Waiting env) :=
  Actor.lasts_and (lasts_calm lasts_outside) lasts_rested

theorem rested_of_apart (apart : Apart env w w') (same : w'.runtime = w.runtime)
    (h : Rested env w) : Rested env w' := by
  refine ⟨?_, ?_⟩
  · rw [same, apart.kept.account]
    exact fun reading => ⟨(h.reading reading).1, watched_of_apart apart (h.reading reading).2⟩
  · rw [same]
    exact fun stopped => closed_of_apart apart (h.stopped stopped)

theorem triple_markReaderVerifiedIdle :
    (keeper env).Triple (Holds fun w => w.busy = false)
      (markReaderVerifiedIdle (FinalWorkerCycle.collaborators env.device))
      (fun _ => Holds (Waiting env)) fun _ _ => True := by
  apply Actor.Triple.seq stable_true (triple_placidOp .readRuntime trivial lasts_outside)
  intro runtime
  split
  · exact fun _ _ => Actor.Sat.raise fun _ _ => trivial
  apply discipline.triple_perform (.writeRuntime _) (Q := fun _ => Waiting env)
    (lasts_calm lasts_outside) (fun _ => lasts_waiting) stable_true (fun _ _ => trivial)
  · rintro w _ w' ⟨-, outside⟩ step
    refine ⟨(step.1.1.frame.1.busy (by rintro ⟨⟩)).trans outside, ?_⟩
    obtain ⟨_, ⟨-, rfl⟩, rfl⟩ := step.1.1.effect_of_ok
    exact ⟨by rintro ⟨⟩, by rintro ⟨⟩⟩
  · exact fun _ _ _ _ _ _ => trivial

theorem stable_leaving (exc : PyException) :
    (keeper env).Stable (LeavesLoop (fun _ => True) (Holds (Waiting env)) exc) :=
  fun w w' h rely => ⟨trivial, fun transport =>
    stable_holds lasts_waiting w w' (h.2 transport) rely⟩

/-- A mark of process_command. -/
theorem apart_of_mark (op : BridgeOp) {answer : Except PyException op.Answer}
    (mark : op.isMark = true) (written : op.writes = some .busy)
    (step : BridgeStep env .control op w answer w') : Apart env w w' := by
  refine ⟨kept_of_unrecorded op ?_ ?_ step, step.frame.1.threads ?_,
    step.frame.1.pendingTagFrames ?_⟩
  · cases op <;> first | rfl | cases mark
  all_goals
    rw [written]
    rintro ⟨⟩

/-- The runtime and the executor agree outside process_command. -/
theorem inactive_of_idle (custody : Custody w) (outside : w.busy = false)
    (idle : w.runtime.state = .idle) : ¬ Custody.Active w := by
  rintro ⟨session, active⟩
  have rests := custody.returned outside
  obtain ⟨connection, session⟩ := Option.ne_none_iff_exists'.mp session
  obtain ⟨key, active⟩ := Option.ne_none_iff_exists'.mp active
  cases (rests.idle idle).2.symm.trans (rests.active connection key session active)

theorem triple_enters (command : OdooRFIDCommand) :
    (keeper env).Triple (Holds (Waiting env)) (Prog.perform (BridgeOp.commandEntered command))
      (fun _ => Holds (Between env)) (LeavesLoop (fun _ => True) (Holds (Waiting env))) := by
  apply discipline.triple_perform (.commandEntered command) (Q := fun _ => Between env)
    lasts_waiting (fun _ => lasts_between) stable_leaving (fun _ _ => trivial)
  · rintro w _ w' ⟨-, outside, rested⟩ step
    have same := step.1.1.frame.1.runtime (by rintro ⟨⟩)
    refine ⟨rested_of_apart (apart_of_mark (.commandEntered command) rfl rfl step.1.1) same rested,
      ?_⟩
    rw [same, Custody.Active, step.1.1.frame.1.session (by rintro ⟨⟩),
      step.1.1.frame.1.activeSessionKey (by rintro ⟨⟩)]
    exact inactive_of_idle step.2 outside
  · intro w exc w' _ step _
    obtain ⟨-, -, mark, -⟩ := step.1.1.interrupted rfl
    cases mark

theorem triple_returns (command : OdooRFIDCommand) :
    (keeper env).Triple (Holds (Rested env)) (Prog.perform (BridgeOp.commandReturned command))
      (fun _ => Holds (Waiting env)) (LeavesLoop (fun _ => True) (Holds (Waiting env))) := by
  apply discipline.triple_perform (.commandReturned command) (Q := fun _ => Waiting env)
    lasts_rested (fun _ => lasts_waiting) stable_leaving (fun _ _ => trivial)
  · rintro w _ w' ⟨-, rested⟩ step
    refine ⟨?_, rested_of_apart (apart_of_mark (.commandReturned command) rfl rfl step.1.1)
      (step.1.1.frame.1.runtime (by rintro ⟨⟩)) rested⟩
    obtain ⟨_, ⟨-, rfl⟩, rfl⟩ := step.1.1.effect_of_ok
    rfl
  · intro w exc w' _ step _
    obtain ⟨-, -, mark, -⟩ := step.1.1.interrupted rfl
    cases mark

/-- The shutdown keeps to the law, whatever it has cut off. -/
theorem triple_safeShutdownReader :
    (keeper env).Triple (fun _ => True) (Command.safeShutdownReader env.device)
      (fun _ _ => True) fun _ _ => True := by
  have ret : ∀ {α : Type} (value : α), (keeper env).Triple (fun _ => True)
      (.ret value : Bridge α) (fun _ _ => True) fun _ _ => True :=
    fun value _ _ => Actor.Sat.ret fun _ _ => trivial
  have checked : ∀ {p : Bridge Unit} (message : String),
      (keeper env).Triple (fun _ => True) p (fun _ _ => True) (fun _ _ => True) →
      (keeper env).Triple (fun _ => True) (tryElse p (Command.commandErrorFrom message) pure)
        (fun _ _ => True) fun _ _ => True := by
    intro p message h
    refine triple_tryElse h ?_ ?_ fun _ => ret _
    · exact fun exc _ _ _ => Actor.Sat.raise fun _ _ => trivial
    · exact fun exc _ _ _ => Actor.Sat.raise fun _ _ => trivial
  have stops : ∀ key, (keeper env).Triple (fun _ => True) (Command.stopForShutdown env.device key)
      (fun _ _ => True) fun _ _ => True :=
    fun key => Actor.Triple.seq stable_true
      (triple_lawful (offAccount_stopCapture (some key) (some env.device.code)))
      fun _ => triple_lawful (offAccount_stop key env.device.code)
  have drains : ∀ key, (keeper env).Triple (fun _ => True)
      (FinalWorkerCycle.drainPendingTags env.device key env.device.code) (fun _ _ => True)
      fun _ _ => True :=
    fun key => (triple_drain (c := False) (S := fun _ _ => True) _ _).conseq
      (fun _ _ => ⟨trivial, False.elim, trivial⟩) (fun _ _ _ => trivial) fun _ _ => id
  apply Actor.Triple.seq stable_true (triple_lawful offAccount_isActive)
  intro active
  split
  · apply Actor.Triple.seq stable_true (triple_lawful (offAccount_stopCapture none none))
    intro _
    exact Actor.Triple.seq stable_true (triple_lawful offAccount_close) fun _ => ret _
  · apply Actor.Triple.seq stable_true
      (triple_lawful (Prog.calls_perform
        (show BridgeOp.offAccount .readActiveSessionKey from trivial)))
    intro activeKey
    split
    · exact Actor.Triple.seq stable_true (triple_lawful offAccount_close)
        fun _ _ _ => Actor.Sat.raise fun _ _ => trivial
    · apply Actor.Triple.seq stable_true (checked _ (stops _))
      intro _
      apply Actor.Triple.seq stable_true (checked _ (drains _))
      exact fun _ => ret _

theorem offReader_of_between {op : BridgeOp} (between : op.betweenCommands = true) :
    op.offReader := by
  cases op <;> trivial

/-- What each part of the worker knows of the account. -/
def workerContract (env : BridgeEnv) : WorkerContract (keeper env) env where
  inCommand := commandContract env
  booting := Holds fun w => w.busy = false
  verified := Holds fun w => w.busy = false
  clean := Holds fun w => w.busy = false
  waiting := Holds (Waiting env)
  stopped _ := True
  stable_booting := stable_holds (lasts_calm lasts_outside)
  stable_waiting := stable_holds lasts_waiting
  stable_stopped _ _ _ _ := trivial
  stopped_of_waiting _ _ := trivial
  stopped_of_cut _ _ _ := trivial
  verifyIdle := triple_placid lasts_outside offAccount_verifyIdle
  countActiveSessions := (triple_placidOp (.store (.countActiveSessions env.device.id)) trivial
    lasts_outside).conseq (fun _ => id) (fun _ _ h _ => h) fun _ _ => id
  markReaderVerifiedIdle := triple_markReaderVerifiedIdle
  between _ between := keeps_harmless discipline lasts_waiting
    ((Prog.calls_perform (offReader_of_between between)).mono harmless_of_off)
  enters := triple_enters
  returns := triple_returns
  safeShutdownReader := triple_safeShutdownReader

/-- Where a thread is idle: a capture thread that is started now begins with sound accounts. -/
def Idle (env : BridgeEnv) (t : Thread) (w : World) : Prop :=
  ∀ n, t = .capture n → w.threads n = .running → Sound env [] w

theorem lawful_of_delivers {n : Nat} (op : BridgeOp) (_ : op.delivers) (w : World) :
    WatchLaw env (.delivery n) op w := by
  cases op <;> trivial

/-- What a thread other than the control thread runs keeps to the law of the accounts. -/
theorem sat_body {p : Bridge Unit} (body : BridgeBody env t p) (w : World) (idle : Idle env t w) :
    (Actor.member (watchedExec env) (WatchLaw env) t).Sat p (fun _ => Idle env t) w := by
  have calls := belongs_of_body t p body
  cases body with
  | capture n =>
      apply (sat_threadMain (idle n rfl)).mono
      rintro _ w sound m ⟨⟩
      exact sound
  | delivery n settings =>
      exact (Actor.sat_member (calls.mono lawful_of_delivers)).mono
        fun _ _ _ m => by rintro ⟨⟩
  | reader =>
      refine (Actor.sat_member (calls.mono ?_)).mono fun _ _ _ m => by rintro ⟨⟩
      rintro op rfl w
      trivial

theorem stable_idle : (Actor.member (watchedExec env) (WatchLaw env) t).Stable (Idle env t) := by
  rintro w w' idle rely n rfl
  exact (captureDiscipline.stable lasts_unbegun w w' ⟨trivial, idle n rfl⟩ rely).2

theorem sound_of_started (started : Started env settings c₀) :
    c₀.Sound (Actor.member (watchedExec env) (WatchLaw env)) fun t _ => Idle env t := by
  intro t
  by_cases main : t = .control
  · subst main
    rw [started.control]
    exact ((workerContract env).handle env.py settings c₀.state ⟨trivial, started.quiet⟩).mono
      fun _ _ _ n => by rintro ⟨⟩
  · rw [started.idle t main]
    refine Actor.Sat.ret fun w rely => stable_idle _ w ?_ rely
    intro n _ running
    cases (started.threads n).symm.trans running

/-- Every thread keeps to the law of the accounts, in every run. -/
theorem sound_of_run (started : Started env settings c₀) (run : BridgeSteps env c₀ c) :
    c.Sound (Actor.member (watchedExec env) (WatchLaw env)) fun t _ => Idle env t :=
  Pool.sound_steps Actor.compatible_member (fun _ _ w body idle => sat_body body w idle)
    (watchedSteps_of_run started run) (sound_of_started started)

theorem law_of_pending {op : BridgeOp} (started : Started env settings c₀)
    (run : BridgeSteps env c₀ c) {next : Except PyException op.Answer → Bridge Unit}
    (code : c.code .control = .call op next) (mark : op.isMark = false) :
    WatchLaw env .control op c.state :=
  Ownership.law_of_step (fun _ _ _ _ _ step => step.1.1)
    (code ▸ sound_of_run started run .control)
    ⟨⟨Ownership.interrupts env op c.state mark, Ownership.law_of_pending started run code mark,
      Ownership.ownership_of_run started run⟩, Custody.custody_of_run started run⟩

end Watch

section
variable {env : BridgeEnv} {settings : CommandSettings} {c₀ c : BridgePool} {t : Thread}

/-- Only the control thread acknowledges a command. -/
theorem control_of_ack {request : AckRequest} {next : Except PyException ApiResult → Bridge Unit}
    (started : Started env settings c₀) (run : BridgeSteps env c₀ c)
    (code : c.code t = .call (.ack request) next) : t = .control := by
  have mine := belongs_of_run started run t
  rw [code] at mine
  have allowed := (Prog.calls_call.mp mine).1
  cases t with
  | control => rfl
  | reader => cases allowed
  | capture n => exact allowed.elim
  | delivery n => exact allowed.elim

/-- In every run, a success of STOP is reported when the account of that very session is
complete up to a failure of its capture thread: nothing is buffered any more, and everything
that was handed out has been stored exactly if the capture service holds no error. -/
theorem stop_success_account {request : AckRequest}
    {next : Except PyException ApiResult → Bridge Unit} (started : Started env settings c₀)
    (run : BridgeSteps env c₀ c) (sending : c.code t = .call (.ack request) next)
    (success : request.success = true) (stop : request.command = .stop) :
    (account env.device c.state.trace).session = some request.sessionKey ∧
    NoneRunning c.state ∧ c.state.executor.pendingTagFrames = [] ∧
    ((account env.device c.state.trace).Balanced ↔ c.state.capture.error = none) := by
  obtain rfl := control_of_ack started run sending
  obtain ⟨session, drained⟩ := Watch.law_of_pending started run sending rfl success stop
  refine ⟨session, drained.none, drained.buffer, fun balanced => ?_, fun none => ?_⟩
  · by_contra error
    cases balanced.sound.symm.trans (drained.accounts.spoiled error)
  · obtain ⟨handed, sound⟩ := drained.accounts.sound none
    exact ⟨by rw [handed, List.append_nil], sound⟩

end

namespace Installation

/-- A START and a STOP of a reader that shows a spoiled tag in between. -/
def lostTag : Script
  | _, .receive _ expectedCommands =>
      if commandStartInventory ∈ expectedCommands then .ok [startResponse]
      else if commandStop ∈ expectedCommands then .ok [stopResponse]
      else .ok [spoiledTag]
  | w, op => session w op

end Installation

open Installation in
/-- The capture thread fails on a spoiled tag behind the health check, and the success of the
STOP is about to be acknowledged without it. -/
theorem stop_success_account_lost : ∃ c request next, BridgeSteps env pool c ∧
    c.code .control = .call (.ack request) next ∧ request.success = true ∧
    request.command = .stop ∧ (account env.device c.state.trace).session = some "S1" ∧
    ¬ (account env.device c.state.trace).Balanced := by
  have seen : (runSchedule env deliverySettings lostTag
      [(.control, 3), (.reader, 2), (.control, 20), (.reader, 2), (.control, 20), (.capture 0, 21),
        (.control, 16), (.reader, 2), (.control, 14)] pool).map
        (fun c => (pendingAck (c.code .control), c.state.capture.error.isSome)) =
      some (some ⟨"S1", "GATE-1", .stop, 2, true, "Reader stopped successfully."⟩, true) := by
    decide +kernel
  obtain ⟨c, ran, same⟩ := Option.map_eq_some_iff.mp seen
  simp only [Prod.mk.injEq] at same
  obtain ⟨next, sending⟩ := code_of_pendingAck same.1
  have run : BridgeSteps env pool c := bridgeSteps_of_runSchedule ran
  obtain ⟨session, -, -, balanced⟩ := stop_success_account started_pool run sending rfl rfl
  refine ⟨c, _, next, run, sending, rfl, rfl, session, fun whole => ?_⟩
  rw [balanced.mp whole] at same
  cases same.2

end RfidBridge
