import RfidBridge.Worker.ThreadCalls
import RfidBridge.Worker.WorkerContract

/-!
Who owns the connection to the reader. It goes from the control thread to a capture
thread when that is started, and back when it has been seen to be dead. The hooks that
hand it over may raise or time out, so every procedure of the control thread is followed
with what it knows of the capture threads.
-/

namespace RfidBridge
open FinalRuntimeOrchestrator PersistentActiveReaderExecutor

/-- The operations behind start, stop, verify_idle, close and the two readers of tag
frames that touch the connection, the pending buffer or the session of the executor. -/
def BridgeOp.touchesReader : BridgeOp → Bool
  | .writeSession _ | .writeActiveSessionKey _ | .readPendingTagFrames | .appendPendingTagFrame _
  | .clearPendingTagFrames | .connect | .send .. | .receive .. | .closeSession _ => true
  | _ => false

/-- No capture thread that was started is still alive. -/
def NoneRunning (w : World) : Prop := ∀ n, w.threads n ≠ .running

/-- When a thread may touch the reader, and how the reader is handed over. -/
def OwnerLaw : Thread → BridgeOp → World → Prop
  | .control, .startThread n, w =>
      NoneRunning w ∧ w.capture.thread = some n ∧ w.runtime.state ≠ .idle
  | .control, .writeCaptureThread _, w => NoneRunning w
  | .control, .writeActiveSessionKey key, w => NoneRunning w ∧ ∀ k ∈ key, strip k ≠ ""
  | .control, .writeRuntime runtime, w => runtime.state = .idle → NoneRunning w
  | .control, .threadEnds _, _ => False
  | .control, op, w => op.touchesReader = true → NoneRunning w
  | .capture n, op, w => op.polls n ∧ (op = .threadBegins n ∨ w.threads n = .running)
  | t, op, _ => op.belongs t

/-- The only capture thread that can be alive is the one that the capture service knows,
and none is while the runtime is idle. -/
structure Ownership (w : World) : Prop where
  current : ∀ n, w.threads n = .running → w.capture.thread = some n
  rests : w.runtime.state = .idle → NoneRunning w
  named : ∀ key, w.executor.activeSessionKey = some key → strip key ≠ ""

/-- Nothing has been started or handed over, and the runtime is the same. -/
structure Calm (w w' : World) : Prop where
  running : ∀ n, w'.threads n = .running → w.threads n = .running
  thread : w'.capture.thread = w.capture.thread
  key : w'.executor.activeSessionKey = w.executor.activeSessionKey
  runtime : w'.runtime = w.runtime

/-- An assertion of the control thread. -/
abbrev Owns (P : World → Prop) : World → Prop := Actor.Under Ownership P

/-- An operation that leaves the reader, the threads and the runtime alone. -/
def BridgeOp.handsOff : BridgeOp → Prop
  | .writeRuntime _ | .startThread _ | .threadEnds _ | .writeCaptureThread _ => False
  | op => op.touchesReader = false

namespace Ownership
variable {env : BridgeEnv} {t : Thread} {op : BridgeOp} {w w' : World}
  {answer : Except PyException op.Answer}

/-- An operation that neither a capture thread nor a delivery worker calls. -/
theorem control_of_law (law : OwnerLaw t op w) (quiet : ∀ n, ¬ op.polls n)
    (local_ : ¬ op.delivers) (process : op ≠ .processRequest) : t = .control := by
  cases t with
  | control => rfl
  | capture n => exact absurd law.1 (quiet n)
  | delivery n => exact absurd law local_
  | reader => exact absurd law process

theorem of_frame {part : Option Field} (frame : Frame part w w') (threads : part ≠ some .threads)
    (thread : part ≠ some .captureThread) (key : part ≠ some .activeSessionKey)
    (runtime : part ≠ some .runtime) (h : Ownership w) : Ownership w' := by
  refine ⟨?_, ?_, ?_⟩
  · rw [frame.threads threads, frame.captureThread thread]
    exact h.current
  · rw [frame.runtime runtime, NoneRunning, frame.threads threads]
    exact h.rests
  · rw [frame.activeSessionKey key]
    exact h.named

theorem running_of_threadEnds {n : Nat} {answer : Except PyException Unit}
    (step : BridgeStep env t (.threadEnds n) w answer w') (m : Nat)
    (running : w'.threads m = .running) : w.threads m = .running := by
  obtain ⟨_, ⟨-, rfl⟩ | ⟨-, rfl⟩, rfl⟩ := step.effect
  · by_cases same : m = n
    · subst same
      cases (Function.update_self _ _ _).symm.trans running
    · exact (Function.update_of_ne same _ _).symm.trans running
  · exact running

/-- Every step within the law keeps the ownership. -/
theorem of_step (law : OwnerLaw t op w) (step : BridgeStep env t op w answer w')
    (h : Ownership w) : Ownership w' := by
  cases op with
  | startThread n =>
      obtain rfl := control_of_law law (fun _ => id) id nofun
      obtain ⟨_, (⟨-, rfl⟩ | ⟨-, rfl⟩) | ⟨-, rfl⟩, rfl⟩ := step.effect
      · refine ⟨fun m running => ?_, fun idle => absurd idle law.2.2, h.named⟩
        by_cases same : m = n
        · exact same ▸ law.2.1
        · exact absurd ((Function.update_of_ne same _ _).symm.trans running) (law.1 m)
      · exact ⟨h.current, h.rests, h.named⟩
      · exact ⟨h.current, h.rests, h.named⟩
  | threadEnds n =>
      refine ⟨?_, ?_, ?_⟩
      · rw [step.frame.1.captureThread nofun]
        exact fun m running => h.current m (running_of_threadEnds step m running)
      · rw [step.frame.1.runtime nofun]
        exact fun idle m running => h.rests idle m (running_of_threadEnds step m running)
      · rw [step.frame.1.activeSessionKey nofun]
        exact h.named
  | writeCaptureThread thread =>
      obtain rfl := control_of_law law (fun _ => id) id nofun
      have none : NoneRunning w' := by
        intro n
        rw [step.frame.1.threads nofun]
        exact law n
      refine ⟨fun n running => absurd running (none n), fun _ => none, ?_⟩
      rw [step.frame.1.activeSessionKey nofun]
      exact h.named
  | writeActiveSessionKey key =>
      obtain rfl := control_of_law law (fun _ => id) id nofun
      obtain ⟨_, ⟨-, rfl⟩ | ⟨-, rfl⟩, rfl⟩ := step.effect
      · exact ⟨h.current, h.rests, law.2⟩
      · exact ⟨h.current, h.rests, h.named⟩
  | writeRuntime runtime =>
      obtain rfl := control_of_law law (fun _ => id) id nofun
      obtain ⟨_, ⟨-, rfl⟩ | ⟨-, rfl⟩, rfl⟩ := step.effect
      · exact ⟨h.current, law, h.named⟩
      · exact ⟨h.current, h.rests, h.named⟩
  | _ => exact of_frame step.frame.1 nofun nofun nofun nofun h

theorem calm_of_frame {part : Option Field} (frame : Frame part w w')
    (threads : part ≠ some .threads) (thread : part ≠ some .captureThread)
    (key : part ≠ some .activeSessionKey) (runtime : part ≠ some .runtime) : Calm w w' := by
  refine ⟨?_, frame.captureThread thread, frame.activeSessionKey key, frame.runtime runtime⟩
  rw [frame.threads threads]
  exact fun _ => id

/-- What the other threads do is calm. -/
theorem calm_of_others (other : t ≠ .control) (law : OwnerLaw t op w)
    (step : BridgeStep env t op w answer w') : Calm w w' := by
  cases op with
  | threadEnds n =>
      exact ⟨running_of_threadEnds step, step.frame.1.captureThread nofun,
        step.frame.1.activeSessionKey nofun, step.frame.1.runtime nofun⟩
  | writeRuntime _ | startThread _ | writeCaptureThread _ | writeActiveSessionKey _ =>
      exact absurd (control_of_law law (fun _ => id) id nofun) other
  | _ => exact calm_of_frame step.frame.1 nofun nofun nofun nofun

theorem law_of_handsOff (off : op.handsOff) : OwnerLaw .control op w := by
  cases op <;> first | exact off.elim | (cases off; done) | exact nofun

theorem calm_of_handsOff (off : op.handsOff) (step : BridgeStep env t op w answer w') :
    Calm w w' := by
  cases op <;>
    first
    | exact off.elim
    | (cases off; done)
    | exact calm_of_frame step.frame.1 nofun nofun nofun nofun

theorem law_of_executes (executes : op.executes) (none : NoneRunning w) :
    OwnerLaw .control op w := by
  cases op with
  | writeActiveSessionKey key => exact ⟨none, executes⟩
  | _ => first | exact executes.elim | exact fun _ => none

theorem threads_of_executes (executes : op.executes) (step : BridgeStep env t op w answer w') :
    w'.threads = w.threads := by
  cases op <;> first | exact executes.elim | exact step.frame.1.threads nofun

theorem lasts_noneRunning : Actor.Lasts Calm NoneRunning :=
  fun _ _ calm none n running => none n (calm.running n running)

theorem lasts_runtime {P : LocalReaderRuntime → Prop} :
    Actor.Lasts Calm fun w => P w.runtime := by
  intro w w' calm h
  rw [calm.runtime]
  exact h

theorem lasts_thread {thread : Option Nat} :
    Actor.Lasts Calm fun w => w.capture.thread = thread :=
  fun _ _ calm h => calm.thread.trans h

theorem lasts_key {P : Option String → Prop} :
    Actor.Lasts Calm fun w => P w.executor.activeSessionKey := by
  intro w w' calm h
  rw [calm.key]
  exact h

/-- The control thread beside threads that keep to the law. -/
abbrev owner (env : BridgeEnv) : Actor BridgeOp BridgeOp.Answer PyException World :=
  Actor.member (bridgeExec env) OwnerLaw .control

section
variable {P P' : World → Prop} {α β : Type} {p : Bridge α}

theorem discipline : Actor.Discipline (bridgeExec env) OwnerLaw .control Ownership Calm where
  keeps _ _ _ _ _ law step h := of_step law step h
  others _ _ _ _ _ other law step _ := calm_of_others other law step

theorem stable_owns (lasts : Actor.Lasts Calm P) : (owner env).Stable (Owns P) :=
  discipline.stable lasts

theorem controlActor : ControlActor env (owner env) where
  steps _ _ _ _ step := step
  runtime w w' rely := by
    have stable : (owner env).Stable fun w' => w'.runtime = w.runtime := by
      apply Actor.stable_member
      intro t op w₁ answer w₂ other step law h
      exact (calm_of_others other law step).runtime.trans h
    exact stable w w' rfl rely

theorem harmless_of_handsOff (op : BridgeOp) (off : op.handsOff) :
    Harmless (bridgeExec env) OwnerLaw Calm op :=
  fun _ _ _ step => ⟨law_of_handsOff off, calm_of_handsOff off step⟩

theorem keeps_handsOff (lasts : Actor.Lasts Calm P) (calls : p.Calls BridgeOp.handsOff) :
    (owner env).Keeps (Owns P) p :=
  keeps_harmless discipline lasts (calls.mono harmless_of_handsOff)

/-- The executor may be used while no capture thread is alive. -/
theorem keeps_free (calls : p.Calls fun op => op.executes ∨ op.handsOff) :
    (owner env).Keeps (Owns NoneRunning) p := by
  refine discipline.keeps_of_calls lasts_noneRunning ?_ ?_ calls
  · rintro op w (executes | off) h
    · exact law_of_executes executes h.2
    · exact law_of_handsOff off
  · rintro op w answer w' (executes | off) h step
    · rw [NoneRunning, threads_of_executes executes step]
      exact h.2
    · exact lasts_noneRunning w w' (calm_of_handsOff off step) h.2

theorem keeps_executor (calls : p.Calls BridgeOp.executes) :
    (owner env).Keeps (Owns NoneRunning) p :=
  keeps_free (calls.mono fun _ => .inl)

theorem stable_owning (_ : PyException) : (owner env).Stable (Owns fun _ => True) :=
  stable_owns Actor.lasts_true

theorem handsOff_op (op : BridgeOp) (off : op.handsOff) :
    (Prog.perform op : Bridge op.Answer).Calls BridgeOp.handsOff :=
  Prog.calls_perform off

theorem keeps_op (op : BridgeOp) (lasts : Actor.Lasts Calm P) (off : op.handsOff) :
    (owner env).Keeps (Owns P) (Prog.perform op : Bridge op.Answer) :=
  keeps_handsOff lasts (handsOff_op op off)

/-- The same, where an exception ends what is known. -/
theorem triple_op (op : BridgeOp) (lasts : Actor.Lasts Calm P) (off : op.handsOff) :
    (owner env).Triple (Owns P) (Prog.perform op : Bridge op.Answer) (fun _ => Owns P)
      fun _ => Owns fun _ => True :=
  (keeps_op op lasts off).triple.conseq (fun _ => id) (fun _ _ => id)
    fun _ _ => Actor.Under.weaken

/-- What is known of the thread that the capture service holds, when it is dead. -/
theorem noneRunning_of_dead {thread : Nat} (h : Owns (fun w => w.capture.thread = some thread) w)
    (dead : w.threads thread ≠ .running) : NoneRunning w := by
  intro n running
  obtain rfl : n = thread := Option.some.inj ((h.1.current n running).symm.trans h.2)
  exact dead running

/-- Behind the join the capture thread is over, or the service raises. -/
theorem triple_requireJoined (thread : Nat) :
    (owner env).Triple (Owns fun w => w.capture.thread = some thread)
      (FinalCaptureService.requireJoined thread) (fun _ => Owns NoneRunning)
      fun _ => Owns fun _ => True := by
  have lastsDead : ∀ alive, Actor.Lasts Calm fun w => alive = false → NoneRunning w :=
    fun _ => Actor.lasts_imp lasts_noneRunning
  have alive : (owner env).Triple (Owns fun w => w.capture.thread = some thread)
      (FinalCaptureService.threadIsAlive thread)
      (fun alive => Owns fun w => alive = false → NoneRunning w) fun _ => Owns fun _ => True := by
    apply discipline.triple_perform (.threadIsAlive thread)
      (Q := fun alive w => alive = false → NoneRunning w) lasts_thread lastsDead stable_owning
    · exact fun _ _ => nofun
    · rintro w alive w' h step dead
      have none : NoneRunning w := by
        apply noneRunning_of_dead h
        obtain ⟨_, ⟨same, -⟩, -⟩ := step.effect_of_ok
        cases same
        simpa using dead
      rw [NoneRunning, step.frame.1.threads nofun]
      exact none
    · exact fun _ _ _ _ _ owns => ⟨owns, trivial⟩
  apply Actor.Triple.seq stable_owning alive
  intro alive
  cases alive with
  | true => exact Actor.triple_raise (stable_owns (lastsDead true)) fun _ => Actor.Under.weaken
  | false =>
      have forgets : (owner env).Triple (Owns fun w => false = false → NoneRunning w)
          (Prog.perform (BridgeOp.writeCaptureThread none)) (fun _ => Owns NoneRunning)
          fun _ => Owns fun _ => True := by
        apply discipline.triple_perform (.writeCaptureThread none) (Q := fun _ => NoneRunning)
          (lastsDead false) (fun _ => lasts_noneRunning) stable_owning
        · exact fun w h => h.2 rfl
        · intro w _ w' h step
          rw [NoneRunning, step.frame.1.threads nofun]
          exact h.2 rfl
        · exact fun _ _ _ _ _ owns => ⟨owns, trivial⟩
      apply Actor.Triple.seq stable_owning forgets
      exact fun _ => triple_op (.writeCaptureSessionKey none) lasts_noneRunning rfl

/-- A stop of the capture service hands the reader back, or it raises. -/
theorem triple_stopCapture (sessionKey readerCode : Option String) :
    (owner env).Triple (Owns fun _ => True)
      (FinalWorkerCycle.stopCapture env.device sessionKey readerCode)
      (fun _ => Owns NoneRunning) fun _ => Owns fun _ => True := by
  unfold FinalWorkerCycle.stopCapture
  split
  · exact Actor.triple_raise (stable_owns Actor.lasts_true) fun _ => id
  apply Actor.Triple.seq stable_owning (triple_op .readCaptureSessionKey Actor.lasts_true rfl)
  intro activeCaptureKey
  split
  · exact Actor.triple_raise (stable_owns Actor.lasts_true) fun _ => id
  have reads : (owner env).Triple (Owns fun _ => True) FinalCaptureService.readThread
      (fun thread => Owns fun w => w.capture.thread = thread) fun _ => Owns fun _ => True := by
    apply discipline.triple_perform .readCaptureThread
      (Q := fun thread w => w.capture.thread = thread)
      Actor.lasts_true (fun _ => lasts_thread) stable_owning
    · exact fun _ _ => nofun
    · intro w thread w' _ step
      rw [step.frame.1.captureThread nofun]
      obtain ⟨_, ⟨same, -⟩, -⟩ := step.effect_of_ok
      exact (Except.ok.inj same).symm
    · exact fun _ _ _ _ _ owns => ⟨owns, trivial⟩
  apply Actor.Triple.seq stable_owning reads
  intro thread
  cases thread with
  | none =>
      have free : ∀ w, Owns (fun w => w.capture.thread = none) w → Owns NoneRunning w := by
        refine fun w h => ⟨h.1, fun n running => ?_⟩
        cases (h.1.current n running).symm.trans h.2
      exact (triple_op (.writeCaptureSessionKey none) lasts_noneRunning rfl).conseq free
        (fun _ _ => id) fun _ _ => id
  | some thread =>
      apply Actor.Triple.seq stable_owning (triple_op .setStopEvent lasts_thread rfl)
      intro _
      apply Actor.Triple.seq stable_owning (triple_op (.joinThread thread) lasts_thread rfl)
      exact fun _ => triple_requireJoined thread

theorem handsOff_isRunning : FinalCaptureService.isRunning.Calls BridgeOp.handsOff := by
  refine Prog.calls_bind (Prog.calls_perform rfl) ?_
  intro thread
  cases thread with
  | some thread => exact Prog.calls_perform rfl
  | none => exact Prog.calls_pure _ _

theorem handsOff_isActive : isActive.Calls BridgeOp.handsOff := calls_isActive rfl rfl

/-- A capture thread may be started. -/
def MayStart (w : World) : Prop := NoneRunning w ∧ w.runtime.state ≠ .idle

theorem lasts_mayStart : Actor.Lasts Calm MayStart :=
  Actor.lasts_and lasts_noneRunning (lasts_runtime (P := fun runtime => runtime.state ≠ .idle))

/-- A new capture thread, which the service knows before it is started. -/
theorem triple_spawn (sessionKey : String) :
    (owner env).Triple (Owns MayStart) (FinalCaptureService.spawn sessionKey)
      (fun _ => Owns fun _ => True) fun _ => Owns fun _ => True := by
  apply Actor.Triple.seq stable_owning (triple_op .clearStopEvent lasts_mayStart rfl)
  intro _
  apply Actor.Triple.seq stable_owning (triple_op (.writeCaptureError none) lasts_mayStart rfl)
  intro _
  apply Actor.Triple.seq stable_owning
    (triple_op (.writeCaptureSessionKey (some sessionKey)) lasts_mayStart rfl)
  intro _
  apply Actor.Triple.seq stable_owning (triple_op .newThread lasts_mayStart rfl)
  intro thread
  let known : World → Prop := fun w => MayStart w ∧ w.capture.thread = some thread
  have lastsKnown : Actor.Lasts Calm known := Actor.lasts_and lasts_mayStart lasts_thread
  have knows : (owner env).Triple (Owns MayStart)
      (Prog.perform (BridgeOp.writeCaptureThread (some thread))) (fun _ => Owns known)
      fun _ => Owns fun _ => True := by
    apply discipline.triple_perform (.writeCaptureThread (some thread)) (Q := fun _ => known)
      lasts_mayStart (fun _ => lastsKnown) stable_owning
    · exact fun w h => h.2.1
    · intro w _ w' h step
      obtain ⟨_, ⟨-, rfl⟩, rfl⟩ := step.effect_of_ok
      exact ⟨h.2, rfl⟩
    · exact fun _ _ _ _ _ owns => ⟨owns, trivial⟩
  apply Actor.Triple.seq stable_owning knows
  intro _
  apply discipline.triple_perform (.startThread thread) (Q := fun _ _ => True) lastsKnown
    (fun _ => Actor.lasts_true) stable_owning
  · exact fun w h => ⟨h.2.1.1, h.2.2, h.2.1.2⟩
  · exact fun _ _ _ _ _ => trivial
  · exact fun _ _ _ _ _ owns => ⟨owns, trivial⟩

theorem triple_startCapture (sessionKey readerCode : String) :
    (owner env).Triple (Owns MayStart)
      (FinalWorkerCycle.startCapture env.device sessionKey readerCode)
      (fun _ => Owns fun _ => True) fun _ => Owns fun _ => True := by
  have raises : ∀ {α : Type} {Q : α → World → Prop} (exc : PyException),
      (owner env).Triple (Owns MayStart) (.raise exc : Bridge α) Q fun _ => Owns fun _ => True :=
    fun exc => Actor.triple_raise (stable_owns lasts_mayStart) fun _ => Actor.Under.weaken
  have passes : ∀ {α : Type} {p : Bridge α}, p.Calls BridgeOp.handsOff →
      (owner env).Triple (Owns MayStart) p (fun _ => Owns MayStart) fun _ => Owns fun _ => True :=
    fun calls => (keeps_handsOff lasts_mayStart calls).triple.conseq (fun _ => id)
      (fun _ _ => id) fun _ _ => Actor.Under.weaken
  unfold FinalWorkerCycle.startCapture FinalCaptureService.start
  split
  · exact raises _
  split
  · exact raises _
  apply Actor.Triple.seq stable_owning (passes handsOff_isRunning)
  intro running
  split
  · apply Actor.Triple.seq stable_owning (triple_op .readCaptureSessionKey lasts_mayStart rfl)
    intro owned
    split
    · exact Actor.triple_ret (stable_owns lasts_mayStart) fun _ => Actor.Under.weaken
    · exact raises _
  apply Actor.Triple.seq stable_owning (passes handsOff_isActive)
  intro active
  split
  · exact raises _
  apply Actor.Triple.seq stable_owning (triple_op .readActiveSessionKey lasts_mayStart rfl)
  intro activeKey
  split
  · exact raises _
  · exact triple_spawn _

theorem handsOff_store (op : StoreOp) : (store op).Calls BridgeOp.handsOff :=
  Prog.calls_perform rfl

theorem free_drainPendingTags (device : ReaderDevice) (sessionKey readerCode : String) :
    (FinalWorkerCycle.drainPendingTags device sessionKey readerCode).Calls
      fun op => op.executes ∨ op.handsOff := by
  unfold FinalWorkerCycle.drainPendingTags
  split
  · exact Prog.calls_raise _ _
  apply Prog.calls_bind (calls_takePendingTagFrames (.inl trivial) (.inl trivial))
  intro frames
  split
  · exact Prog.calls_pure _ _
  · exact Prog.calls_bind (Prog.calls_perform (.inr rfl)) fun _ => Prog.calls_pure _ _

/-- A change of the runtime. -/
theorem triple_updates {change : LocalReaderRuntime → Except PyException LocalReaderRuntime}
    (lasts : Actor.Lasts Calm P) (lasts' : Actor.Lasts Calm P')
    (lawful : ∀ runtime w, Owns P w → change w.runtime = .ok runtime → runtime.state = .idle →
      NoneRunning w)
    (moves : ∀ runtime w w', Owns P w → change w.runtime = .ok runtime →
      BridgeStep env .control (.writeRuntime runtime) w (.ok ()) w' → P' w') :
    (owner env).Triple (Owns P)
      (updateRuntime (FinalWorkerCycle.collaborators env.device) change) (fun _ => Owns P')
      fun exc w => Owns P w ∧
        (exc.isException = true → ∃ runtime, change runtime = .error exc) := by
  refine triple_change controlActor discipline lasts lasts'
    (harmless_of_handsOff .readRuntime rfl) ?_ lawful moves
  intro runtime w answer w' step same
  refine ⟨?_, step.frame.1.captureThread nofun, step.frame.1.activeSessionKey nofun, same⟩
  rw [step.frame.1.threads nofun]
  exact fun _ => id

theorem escapes_of_interrupts {exc : PyException} {w : World}
    (h : Interrupts (Owns fun _ => True) exc w) : Escapes (Owns fun _ => True) exc w :=
  CommandContract.escapes_of_interrupt h.2 h.1

theorem fails_of_owns {exc : PyException} {w : World} (h : Owns P w) :
    Fails (Owns fun _ => True) (Owns fun _ => True) exc w :=
  ⟨h.weaken, fun _ => h.weaken⟩

/-- The runtime that a START is planned to lead to is reached from an idle one. -/
theorem idle_of_planNew {runtime : LocalReaderRuntime} {command : OdooRFIDCommand}
    {transition : RuntimeTransition} (plan : runtime.planNew command = .ok transition)
    (start : command.command = .start) : runtime.state = .idle := by
  simp only [LocalReaderRuntime.planNew, start, LocalReaderRuntime.planStart, guard_eq_ok,
    not_not] at plan
  exact plan.1

theorem not_idle_of_planNew {runtime : LocalReaderRuntime} {command : OdooRFIDCommand}
    {transition : RuntimeTransition} (plan : runtime.planNew command = .ok transition) :
    transition.after.state ≠ .idle := by
  rw [LocalReaderRuntime.planNew_eq_ok plan]
  cases kind : command.command <;> simp [LocalReaderRuntime.plannedFor, kind]

theorem stable_failing (exc : PyException) :
    (owner env).Stable (Fails (Owns fun _ => True) (Owns fun _ => True) exc) :=
  fun w w' h rely => ⟨stable_owning exc w w' h.1 rely,
    fun caught => stable_owning exc w w' (h.2 caught) rely⟩

/-- The hook in front of a reader stop. -/
theorem triple_beforeReaderStop (command : OdooRFIDCommand) :
    (owner env).Triple (Owns fun _ => True)
      (runHook (FinalWorkerCycle.collaborators env.device).beforeReaderStop command)
      (fun _ => Owns NoneRunning) (Fails (Owns fun _ => True) (Owns fun _ => True)) :=
  (triple_stopCapture _ _).conseq (fun _ => id) (fun _ _ => id) fun _ _ => fails_of_owns

theorem triple_free (calls : p.Calls fun op => op.executes ∨ op.handsOff) :
    (owner env).Triple (Owns NoneRunning) p (fun _ => Owns NoneRunning)
      (Fails (Owns fun _ => True) (Owns fun _ => True)) :=
  (keeps_free calls).triple.conseq (fun _ => id) (fun _ _ => id) fun _ _ => fails_of_owns

theorem triple_markReaderStopped :
    (owner env).Triple (Owns NoneRunning)
      (updateRuntime (FinalWorkerCycle.collaborators env.device)
        LocalReaderRuntime.markReaderStopped) (fun _ => Owns NoneRunning)
      (Fails (Owns fun _ => True) (Owns fun _ => True)) := by
  refine (triple_updates lasts_noneRunning lasts_noneRunning (fun _ _ free _ _ => free.2)
    ?_).conseq (fun _ => id) (fun _ _ => id) fun _ _ after => fails_of_owns after.1
  intro runtime w w' free _ step
  rw [NoneRunning, step.frame.1.threads nofun]
  exact free.2

/-- The way from the stopped capture thread to the end of a STOP or an ABORT. -/
theorem triple_stopReader (command : OdooRFIDCommand) :
    (owner env).Triple (Owns fun _ => True)
      (stopReader (FinalWorkerCycle.collaborators env.device) command) (fun _ => Owns NoneRunning)
      (Fails (Owns fun _ => True) (Owns fun _ => True)) := by
  apply Actor.Triple.seq stable_failing (triple_beforeReaderStop command)
  intro _
  apply Actor.Triple.seq stable_failing (triple_free ((executes_stop _ _).mono fun _ => .inl))
  intro _
  apply Actor.Triple.seq stable_failing triple_markReaderStopped
  intro _
  apply Actor.Triple.seq stable_failing (triple_free (free_drainPendingTags _ _ _))
  intro _
  exact triple_free (Prog.calls_bind (Prog.calls_perform (.inr rfl)) fun _ => Prog.calls_pure _ _)

theorem triple_abortReader (command : OdooRFIDCommand) :
    (owner env).Triple (Owns fun _ => True)
      (abortReader (FinalWorkerCycle.collaborators env.device) command) (fun _ => Owns NoneRunning)
      (Fails (Owns fun _ => True) (Owns fun _ => True)) := by
  apply Actor.Triple.seq stable_failing (triple_beforeReaderStop command)
  intro _
  apply Actor.Triple.seq stable_failing (triple_free (handsOff_isActive.mono fun _ => .inr))
  intro active
  apply Actor.Triple.seq stable_failing (Q := fun _ => Owns NoneRunning)
  · split
    · exact triple_free ((executes_stop _ _).mono fun _ => .inl)
    · exact triple_free (executes_verifyIdle.mono fun _ => .inl)
  intro _
  apply Actor.Triple.seq stable_failing triple_markReaderStopped
  intro _
  apply Actor.Triple.seq stable_failing (triple_free (free_drainPendingTags _ _ _))
  intro _
  apply triple_free
  refine Prog.calls_tryExcept (Prog.calls_bind (Prog.calls_perform (.inr rfl)) fun _ =>
    Prog.calls_pure _ _) fun exc => ?_
  split
  · exact Prog.calls_pure _ _
  · exact Prog.calls_raise _ _

theorem triple_startReader (command : OdooRFIDCommand) :
    (owner env).Triple (Owns NoneRunning)
      (startReader (FinalWorkerCycle.collaborators env.device) command)
      (fun _ => Owns fun _ => True) (Fails (Owns fun _ => True) (Owns fun _ => True)) := by
  apply Actor.Triple.seq stable_failing (triple_free ((executes_start _ _).mono fun _ => .inl))
  intro _
  have started : (owner env).Triple (Owns NoneRunning)
      (updateRuntime (FinalWorkerCycle.collaborators env.device)
        LocalReaderRuntime.markReaderStarted) (fun _ => Owns MayStart)
      (Fails (Owns fun _ => True) (Owns fun _ => True)) := by
    refine (triple_updates lasts_noneRunning lasts_mayStart (fun _ _ free _ _ => free.2) ?_).conseq
      (fun _ => id) (fun _ _ => id) fun _ _ after => fails_of_owns after.1
    intro runtime w w' free marked step
    simp only [LocalReaderRuntime.markReaderStarted, guard_eq_ok, Except.ok.injEq] at marked
    obtain ⟨-, -, rfl⟩ := marked
    obtain ⟨_, ⟨-, rfl⟩, rfl⟩ := step.effect_of_ok
    exact ⟨free.2, nofun⟩
  apply Actor.Triple.seq stable_failing started
  intro _
  exact (triple_startCapture _ _).conseq (fun _ => id) (fun _ _ => id) fun _ _ => fails_of_owns

/-- A START is planned from an idle runtime, and so while no capture thread is alive. -/
theorem triple_begins {command : OdooRFIDCommand} {runtime : LocalReaderRuntime}
    {transition : RuntimeTransition} (plan : runtime.planNew command = .ok transition) :
    (owner env).Triple (Owns fun w => w.runtime = runtime)
      (Prog.perform (BridgeOp.writeRuntime transition.after))
      (fun _ => Owns fun w => command.command = .start → NoneRunning w)
      (Escapes (Owns fun _ => True)) := by
  apply discipline.triple_perform (.writeRuntime transition.after)
    (Q := fun _ w => command.command = .start → NoneRunning w)
    (lasts_runtime (P := fun r => r = runtime)) fun _ => Actor.lasts_imp lasts_noneRunning
  · exact fun exc w w' h rely => ⟨stable_owning exc w w' h.1 rely, h.2⟩
  · exact fun _ _ idle => absurd idle (not_idle_of_planNew plan)
  · rintro w _ w' ⟨owns, rfl⟩ step start
    rw [NoneRunning, step.frame.1.threads nofun]
    exact owns.rests (idle_of_planNew plan start)
  · intro w exc w' _ step owns
    obtain ⟨rfl, -⟩ := step.interrupted rfl
    exact ⟨⟨owns, trivial⟩, nofun⟩

theorem triple_degrade (message : String) :
    (owner env).Triple (Owns fun _ => True)
      (updateRuntime (FinalWorkerCycle.collaborators env.device)
        fun runtime => runtime.markDegraded message) (fun _ => Owns fun _ => True)
      (Escapes (Owns fun _ => True)) := by
  refine (triple_updates Actor.lasts_true Actor.lasts_true ?_ fun _ _ _ _ _ _ => trivial).conseq
    (fun _ => id) (fun _ _ => id)
    fun _ _ after => escapes_of_change
      (fun _ _ => LocalReaderRuntime.markDegraded_eq_error) after.1 after.2
  intro runtime w _ marked idle
  simp only [LocalReaderRuntime.markDegraded, guard_eq_ok, Except.ok.injEq] at marked
  obtain ⟨-, rfl⟩ := marked
  cases idle

theorem triple_complete (command : OdooRFIDCommand) :
    (owner env).Triple (Owns fun _ => True)
      (updateRuntime (FinalWorkerCycle.collaborators env.device)
        fun runtime => runtime.markCommandCompleted command) (fun _ => Owns fun _ => True)
      (Escapes (Owns fun _ => True)) := by
  refine (triple_updates Actor.lasts_true Actor.lasts_true ?_ fun _ _ _ _ _ _ => trivial).conseq
    (fun _ => id) (fun _ _ => id)
    fun _ _ after => escapes_of_change
      (fun _ _ => LocalReaderRuntime.markCommandCompleted_eq_error) after.1 after.2
  intro runtime w owns marked idle
  simp only [LocalReaderRuntime.markCommandCompleted, guard_eq_ok, Except.ok.injEq] at marked
  obtain ⟨-, -, rfl⟩ := marked
  exact owns.1.rests idle

/-- What each step of process_command knows of the capture threads. -/
def commandContract (env : BridgeEnv) (command : OdooRFIDCommand) :
    CommandContract (owner env) (FinalWorkerCycle.collaborators env.device) command where
  entered := Owns fun _ => True
  knows runtime := Owns fun w => w.runtime = runtime
  ready := Owns fun _ => True
  cut := Owns fun _ => True
  begun := Owns fun w => command.command = .start → NoneRunning w
  synchronized _ := Owns NoneRunning
  startFailed _ := Owns fun _ => True
  failed := Owns fun _ => True
  done := Owns fun _ => True
  completed := Owns fun _ => True
  stable_ready := stable_owns Actor.lasts_true
  stable_cut := stable_owns Actor.lasts_true
  stable_startFailed _ := stable_owns Actor.lasts_true
  stable_failed := stable_owns Actor.lasts_true
  ready_of_knows _ _ := Actor.Under.weaken
  readEntered := by
    apply (triple_readRuntime controlActor (stable_owns Actor.lasts_true) ?_).conseq (fun _ => id)
    · exact fun runtime w h => ⟨h.1.1, h.2⟩
    · exact fun _ _ => escapes_of_interrupts
    · intro w answer w' h step
      obtain ⟨law, -⟩ := harmless_of_handsOff .readRuntime rfl w answer w' step
      exact ⟨⟨_, answer, step, law⟩, of_step law step h.1, trivial⟩
  readReady := (triple_quiet controlActor discipline Actor.lasts_true .readRuntime
    (harmless_of_handsOff _ rfl) rfl).conseq (fun _ => id) (fun _ _ => id)
    fun _ _ => escapes_of_interrupts
  failureAck message := (triple_ignoring (stable_owns Actor.lasts_true)
    (keeps_op (.ack _) Actor.lasts_true rfl)).conseq (fun _ => id) (fun _ _ => id)
      fun _ _ => escapes_of_interrupts
  resend runtime _ := (CommandContract.fails_of_keeps (keeps_handsOff Actor.lasts_true
    (calls_sendCompletedSuccessAck env.device command (fun _ _ => rfl) rfl))
      fun _ => id).conseq (fun _ => Actor.Under.weaken) (fun _ _ => id) fun _ _ => id
  begins _ _ _ _ plan := triple_begins plan
  synchronize start := (triple_free ((handsOff_store _).mono fun _ => .inr)).conseq
    (fun _ h => ⟨h.1, h.2 start⟩) (fun _ _ => id) fun _ _ => id
  startReader _ _ := triple_startReader command
  readerIsActive _ := (triple_isActive controlActor discipline Actor.lasts_true
    (harmless_of_handsOff _ rfl) (harmless_of_handsOff _ rfl)).conseq (fun _ => id) (fun _ _ => id)
    fun _ _ => escapes_of_interrupts
  emergencyStop _ := by
    apply Actor.Triple.seq stable_failing (triple_beforeReaderStop command)
    intro _
    apply Actor.Triple.seq stable_failing (triple_free ((executes_stop _ _).mono fun _ => .inl))
    intro _
    exact (triple_free (free_drainPendingTags _ _ _)).conseq (fun _ => id)
      (fun _ _ => Actor.Under.weaken) fun _ _ => id
  cancelCreated _ _ := CommandContract.fails_of_keeps (keeps_handsOff Actor.lasts_true
    (Prog.calls_bind (handsOff_store _) fun _ => Prog.calls_pure _ _)) fun _ => id
  degradeStart _ message := triple_degrade message
  stopReader _ := (triple_stopReader command).conseq (fun _ => Actor.Under.weaken)
    (fun _ _ => Actor.Under.weaken) fun _ _ => id
  abortReader _ := (triple_abortReader command).conseq (fun _ => Actor.Under.weaken)
    (fun _ _ => Actor.Under.weaken) fun _ _ => id
  degrade message := triple_degrade message
  completes := triple_complete command
  successAck := CommandContract.fails_of_keeps (keeps_handsOff Actor.lasts_true
    (calls_sendCompletedSuccessAck env.device command (fun _ _ => rfl) rfl)) fun _ => id

/-- Outside process_command an exception ends the worker, so nothing is asked of it. -/
theorem triple_ending {p : Bridge α} {Q : α → World → Prop} {E : PyException → World → Prop}
    (h : (owner env).Triple (Owns P) p Q E) : (owner env).Triple (Owns P) p Q fun _ _ => True :=
  h.conseq (fun _ => id) (fun _ _ => id) fun _ _ _ => trivial

theorem stable_ending (_ : PyException) : (owner env).Stable fun _ => True :=
  fun _ _ _ _ => trivial

/-- The session key of the executor, which nobody else writes. -/
theorem triple_readActiveSessionKey {P : Option String → Prop} :
    (owner env).Triple (Owns fun w => P w.executor.activeSessionKey) readActiveSessionKey
      (fun key => Owns fun w => w.executor.activeSessionKey = key ∧ P key) fun _ _ => True := by
  apply discipline.triple_perform .readActiveSessionKey
    (Q := fun key w => w.executor.activeSessionKey = key ∧ P key) lasts_key
    (fun key => lasts_key (P := fun held => held = key ∧ P key)) stable_ending
  · exact fun _ _ => nofun
  · intro w key w' h step
    obtain ⟨_, ⟨same, rfl⟩, rfl⟩ := step.effect_of_ok
    cases same
    exact ⟨rfl, h.2⟩
  · exact fun _ _ _ _ _ _ => trivial

/-- An active executor has a session key. -/
theorem triple_activeKey :
    (owner env).Triple (Owns fun _ => True) isActive
      (fun active => Owns fun w => active = true → w.executor.activeSessionKey ≠ none)
      fun _ _ => True := by
  apply Actor.Triple.seq stable_ending
    (triple_ending (keeps_op .readSession Actor.lasts_true rfl).triple)
  intro session
  split
  · exact Actor.triple_ret (stable_owns Actor.lasts_true) fun _ h => ⟨h.1, nofun⟩
  · apply Actor.Triple.seq stable_ending (triple_readActiveSessionKey (P := fun _ => True))
    intro key
    refine Actor.triple_ret (stable_owns (lasts_key (P := fun held => held = key ∧ True))) ?_
    rintro w ⟨owns, same, -⟩
    refine ⟨owns, fun active => ?_⟩
    rw [same]
    exact Option.isSome_iff_ne_none.mp active

theorem triple_stopForShutdown (sessionKey : String) :
    (owner env).Triple (Owns fun _ => True) (Command.stopForShutdown env.device sessionKey)
      (fun _ => Owns NoneRunning) fun _ _ => True := by
  apply Actor.Triple.seq stable_ending (triple_ending (triple_stopCapture _ _))
  exact fun _ => triple_ending (keeps_executor (executes_stop _ _)).triple

theorem triple_shutdownActiveReader (sessionKey : String) :
    (owner env).Triple (Owns fun _ => True)
      (Command.shutdownActiveReader env.device sessionKey) (fun _ _ => True) fun _ _ => True := by
  have raises : ∀ {α : Type} {R : α → World → Prop} (exc : PyException),
      (owner env).Triple (fun _ => True) (.raise exc : Bridge α) R fun _ _ => True :=
    fun exc => Actor.triple_raise (stable_ending exc) fun _ => id
  have checked : ∀ {P : World → Prop} {p : Bridge Unit} (message : String),
      (owner env).Triple (Owns P) p (fun _ => Owns NoneRunning) (fun _ _ => True) →
      (owner env).Triple (Owns P) (tryElse p (Command.commandErrorFrom message) pure)
        (fun _ => Owns NoneRunning) fun _ _ => True := by
    intro P p message h
    refine triple_tryElse h (fun exc _ => raises _) (fun exc _ => raises exc) ?_
    exact fun _ => Actor.triple_ret (stable_owns lasts_noneRunning) fun _ => id
  apply Actor.Triple.seq stable_ending
    (checked _ (triple_stopForShutdown sessionKey))
  intro _
  apply Actor.Triple.seq stable_ending
    (checked _ (triple_ending (keeps_free (free_drainPendingTags _ _ _)).triple))
  exact fun _ => Actor.triple_ret (stable_owns lasts_noneRunning) fun _ _ => trivial

/-- The shutdown hands the reader back before it uses it. An active connection without a
session key, which it would close at once, is not reached. -/
theorem triple_safeShutdownReader :
    (owner env).Triple (Owns fun _ => True) (Command.safeShutdownReader env.device)
      (fun _ _ => True) fun _ _ => True := by
  apply Actor.Triple.seq stable_ending triple_activeKey
  intro active
  cases active with
  | false =>
      refine Actor.Triple.seq stable_ending ((triple_ending (triple_stopCapture none none)).conseq
        (fun _ => Actor.Under.weaken) (fun _ _ => id) fun _ _ => id) fun _ => ?_
      apply Actor.Triple.seq stable_ending (triple_ending (keeps_executor executes_close).triple)
      exact fun _ => Actor.triple_ret (stable_owns lasts_noneRunning) fun _ _ => trivial
  | true =>
      apply Actor.Triple.seq stable_ending ((triple_readActiveSessionKey
        (P := fun key => true = true → key ≠ none)).conseq (fun _ => id) (fun _ _ => id)
        fun _ _ => id)
      intro key
      by_cases blank : strip (key.getD "") = ""
      · rintro w ⟨owns, same, active⟩
        cases key with
        | none => exact absurd rfl (active rfl)
        | some key => exact absurd blank (owns.named key same)
      · rw [if_neg blank]
        exact (triple_shutdownActiveReader _).conseq (fun _ => Actor.Under.weaken) (fun _ _ => id)
          fun _ _ => id

theorem triple_markReaderVerifiedIdle :
    (owner env).Triple (Owns NoneRunning)
      (markReaderVerifiedIdle (FinalWorkerCycle.collaborators env.device))
      (fun _ => Owns fun _ => True) fun _ _ => True := by
  apply Actor.Triple.seq stable_ending
    (triple_ending (keeps_op .readRuntime lasts_noneRunning rfl).triple)
  intro runtime
  split
  · exact Actor.triple_raise (stable_owns lasts_noneRunning) fun _ _ => trivial
  · apply discipline.triple_perform (.writeRuntime _) (Q := fun _ _ => True) lasts_noneRunning
      (fun _ => Actor.lasts_true) stable_ending
    · exact fun _ h _ => h.2
    · exact fun _ _ _ _ _ => trivial
    · exact fun _ _ _ _ _ _ => trivial

theorem handsOff_between {op : BridgeOp} (between : op.betweenCommands = true) : op.handsOff := by
  cases op <;> first | rfl | cases between

theorem triple_mark (op : BridgeOp) (off : op.handsOff) :
    (owner env).Triple (Owns fun _ => True) (Prog.perform op : Bridge op.Answer)
      (fun _ => Owns fun _ => True) (LeavesLoop (Owns fun _ => True) (Owns fun _ => True)) :=
  (keeps_op op Actor.lasts_true off).triple.conseq (fun _ => id) (fun _ _ => id)
    fun _ _ h => ⟨h, fun _ => h⟩

/-- What each part of the worker knows of the capture threads. -/
def workerContract (env : BridgeEnv) : WorkerContract (owner env) env where
  inCommand := commandContract env
  booting := Owns NoneRunning
  verified := Owns NoneRunning
  clean := Owns NoneRunning
  waiting := Owns fun _ => True
  stopped := Owns fun _ => True
  stable_booting := stable_owns lasts_noneRunning
  stable_waiting := stable_owns Actor.lasts_true
  stable_stopped := stable_owns Actor.lasts_true
  stopped_of_waiting _ := id
  stopped_of_cut _ _ := id
  verifyIdle := triple_ending (keeps_executor executes_verifyIdle).triple
  countActiveSessions := (keeps_handsOff lasts_noneRunning (handsOff_store _)).triple.conseq
    (fun _ => id) (fun _ _ h _ => h) fun _ _ _ => trivial
  markReaderVerifiedIdle := triple_markReaderVerifiedIdle
  between op between := keeps_op op Actor.lasts_true (handsOff_between between)
  enters command := triple_mark (.commandEntered command) rfl
  returns command := triple_mark (.commandReturned command) rfl
  safeShutdownReader := triple_safeShutdownReader

/-- What every capture thread may call, it calls without ending. -/
theorem threads_of_polls {n : Nat} (polls : ∀ m, op.polls m)
    (step : BridgeStep env (.capture n) op w answer w') : w'.threads = w.threads := by
  cases op with
  | threadEnds k => exact absurd (polls (k + 1)) (Nat.ne_of_lt (Nat.lt_succ_self k))
  | startThread k => exact (polls 0).elim
  | _ => exact step.frame.1.threads nofun

/-- A capture thread that has begun is running until it ends. -/
theorem sat_threadMain (n : Nat) (w : World) :
    (Actor.member (bridgeExec env) OwnerLaw (.capture n)).Sat
      (FinalCaptureService.threadMain env.device n) (fun _ _ => True) w := by
  let a := Actor.member (bridgeExec env) OwnerLaw (.capture n)
  let alive : World → Prop := fun w => w.threads n = .running
  have stable : a.Stable alive := by
    apply Actor.stable_member
    intro t op w answer w' other step law running
    cases op with
    | startThread m =>
        obtain ⟨_, (⟨-, rfl⟩ | ⟨-, rfl⟩) | ⟨-, rfl⟩, rfl⟩ := step.effect
        · by_cases same : n = m
          · exact same ▸ Function.update_self _ _ _
          · exact (Function.update_of_ne same _ _).trans running
        · exact running
        · exact running
    | threadEnds m =>
        have apart : n ≠ m := by
          rintro rfl
          cases t with
          | control => exact law
          | capture k => exact other (congrArg Thread.capture (show n = k from law.1).symm)
          | delivery k => exact law
          | reader => cases law
        obtain ⟨_, ⟨-, rfl⟩ | ⟨-, rfl⟩, rfl⟩ := step.effect
        · exact (Function.update_of_ne apart _ _).trans running
        · exact running
    | _ => exact (congrFun (step.frame.1.threads nofun) n).trans running
  have runs : a.Keeps alive (FinalCaptureService.run env.device) := by
    refine Actor.keeps_of_calls stable ?_ (Prog.calls_forall polls_run)
    intro op w answer w' polls running step
    refine ⟨⟨op, answer, step, polls n, .inr running⟩, ?_⟩
    exact (congrFun (threads_of_polls polls step) n).trans running
  have ends : ∀ w, alive w → a.Sat (Prog.perform (BridgeOp.threadEnds n)) (fun _ _ => True) w := by
    intro w running
    apply Actor.Sat.perform
    intro w₁ rely answer w₂ step
    exact ⟨⟨.threadEnds n, answer, step, rfl, .inr (stable w w₁ running rely)⟩,
      fun _ _ => trivial⟩
  have begins : a.Sat (Prog.perform (BridgeOp.threadBegins n))
      (Actor.ends (fun _ => alive) fun _ _ => True) w := by
    apply Actor.Sat.perform
    intro w₁ _ answer w₂ step
    refine ⟨⟨.threadBegins n, answer, step, rfl, .inl rfl⟩, fun w₃ rely => ?_⟩
    cases answer with
    | error _ => trivial
    | ok _ =>
        obtain ⟨_, ⟨running, -, rfl⟩, rfl⟩ := step.effect_of_ok
        refine stable _ w₃ ?_ rely
        exact running
  have main : a.Sat (FinalCaptureService.threadMain env.device n)
      (Actor.ends (fun _ _ => True) fun _ _ => True) w := by
    apply Actor.Sat.seq (fun _ _ _ _ _ => trivial) begins
    intro _ w₁ running
    apply Actor.Sat.handle
    apply (runs w₁ running).mono
    intro _ w₂ running
    apply (ends w₂ running).mono
    intro outcome _ _
    cases outcome <;> trivial
  exact main.mono fun _ _ _ => trivial

end

section
variable {settings : CommandSettings} {c₀ c : BridgePool}

theorem sound_body (t : Thread) (p : Bridge Unit) (w : World) (body : BridgeBody env t p) :
    (Actor.member (bridgeExec env) OwnerLaw t).Sat p (fun _ _ => True) w := by
  have calls := belongs_of_body t p body
  cases body with
  | capture n => exact sat_threadMain n w
  | delivery n settings => exact Actor.sat_member (calls.mono fun _ mine _ => mine)
  | reader => exact Actor.sat_member (calls.mono fun _ mine _ => mine)

theorem owns_of_started (started : Started env settings c₀) : Owns NoneRunning c₀.state := by
  have none : NoneRunning c₀.state := by
    intro n
    rw [started.threads n]
    nofun
  refine ⟨⟨fun n running => absurd running (none n), fun _ => none, ?_⟩, none⟩
  rw [started.executor]
  nofun

/-- Every thread keeps to the law, in every run. -/
theorem sound_of_started (started : Started env settings c₀) :
    c₀.Sound (Actor.member (bridgeExec env) OwnerLaw) fun _ _ _ => True := by
  intro t
  by_cases main : t = .control
  · subst main
    rw [started.control]
    exact ((workerContract env).handle env.py settings c₀.state
      (owns_of_started started)).mono fun _ _ _ => trivial
  · rw [started.idle t main]
    exact Actor.Sat.ret fun _ _ => trivial

theorem sound_of_run (started : Started env settings c₀) (run : BridgeSteps env c₀ c) :
    c.Sound (Actor.member (bridgeExec env) OwnerLaw) fun _ _ _ => True :=
  Pool.sound_steps Actor.compatible_member (fun t p w body _ => sound_body t p w body) run
    (sound_of_started started)

theorem ownership_of_run (started : Started env settings c₀) (run : BridgeSteps env c₀ c) :
    Ownership c.state := by
  refine Pool.invariant_steps Actor.compatible_member (fun t p w body _ => sound_body t p w body)
    ?_ run (sound_of_started started) ?_
  · rintro t _ w _ w' - ⟨op, answer, step, law⟩ owns
    exact of_step law step owns
  · exact (owns_of_started started).1

/-- The control thread, cut off in front of an operation. -/
theorem interrupts (env : BridgeEnv) (op : BridgeOp) (w : World) (mark : op.isMark = false) :
    BridgeStep env .control op w (.error ⟨.keyboardInterrupt, ""⟩)
      (w.log ⟨.control, op, .error ⟨.keyboardInterrupt, ""⟩⟩) :=
  ⟨⟨w, .inr ⟨⟨rfl, mark, rfl⟩, rfl⟩, rfl⟩, fun _ _ => .inl rfl⟩

/-- The next operation of a thread is within its law, since the history shows which
operation a step was. -/
theorem law_of_step {exec : Pool.Exec Thread BridgeOp BridgeOp.Answer PyException World}
    {law : Thread → BridgeOp → World → Prop} {t : Thread} {op : BridgeOp} {w w' : World}
    {answer : Except PyException op.Answer} {next : Except PyException op.Answer → Bridge Unit}
    {Q : Except PyException Unit → World → Prop}
    (within : ∀ t op w answer w', exec t op w answer w' → BridgeStep env t op w answer w')
    (mine : (Actor.member exec law t).Sat (.call op next) Q w) (step : exec t op w answer w') :
    law t op w := by
  obtain ⟨op', answer', step', law⟩ := mine.step step
  have recorded := (within t op w answer w' step).frame.2.symm.trans
    (within t op' w answer' w' step').frame.2
  cases (List.cons.inj recorded).1
  exact law

theorem law_of_pending (started : Started env settings c₀) (run : BridgeSteps env c₀ c)
    {next : Except PyException op.Answer → Bridge Unit} (code : c.code .control = .call op next)
    (mark : op.isMark = false) : OwnerLaw .control op c.state :=
  law_of_step (fun _ _ _ _ _ => id) (code ▸ sound_of_run started run .control)
    (interrupts env op c.state mark)

end
end Ownership

/-- The steps that runs take: within the law, and while the reader has one owner. -/
def ownedExec (env : BridgeEnv) : Pool.Exec Thread BridgeOp BridgeOp.Answer PyException World :=
  fun t op w answer w' => BridgeStep env t op w answer w' ∧ OwnerLaw t op w ∧ Ownership w

abbrev OwnedSteps (env : BridgeEnv) : BridgePool → BridgePool → Prop :=
  Pool.Steps (ownedExec env) (BridgeBody env)

theorem ownedSteps_of_run {env : BridgeEnv} {settings : CommandSettings} {c₀ c : BridgePool}
    (started : Started env settings c₀) (run : BridgeSteps env c₀ c) : OwnedSteps env c₀ c := by
  induction run with
  | refl => exact .refl
  | tail before step ih =>
      refine .tail ih ?_
      cases step with
      | @call t op next answer w' code ex =>
          have law : OwnerLaw t op _ := Ownership.law_of_step (fun _ _ _ _ _ => id)
            (code ▸ Ownership.sound_of_run started before t) ex
          exact .call code ⟨ex, law, Ownership.ownership_of_run started before⟩
      | begin code chosen => exact .begin code chosen

/-- In every run, the control thread touches the reader only while no capture thread is
alive, and at most one capture thread is alive. -/
theorem single_owner {env : BridgeEnv} {settings : CommandSettings} {c₀ c : BridgePool}
    (started : Started env settings c₀) (run : BridgeSteps env c₀ c) :
    (∀ op next, c.code .control = .call op next → op.touchesReader = true →
      NoneRunning c.state) ∧
    ∀ n m, c.state.threads n = .running → c.state.threads m = .running → n = m := by
  constructor
  · intro op next code touches
    have mark : op.isMark = false := by
      cases op <;> first | rfl | cases touches
    have law := Ownership.law_of_pending started run code mark
    cases op with
    | writeActiveSessionKey key => exact law.1
    | _ => first | exact law touches | cases touches
  · intro n m first second
    have owns := Ownership.ownership_of_run started run
    exact Option.some.inj ((owns.current n first).symm.trans (owns.current m second))

/-- Whether the next operation of a program touches the reader. -/
def pendingTouch : Bridge Unit → Bool
  | .call op _ => op.touchesReader
  | _ => false

theorem code_of_pendingTouch {p : Bridge Unit} (h : pendingTouch p = true) :
    ∃ op next, p = .call op next ∧ op.touchesReader = true := by
  unfold pendingTouch at h
  split at h
  · exact ⟨_, _, rfl, h⟩
  · cases h

open Installation in
/-- The STOP request of a session is about to be sent, behind the join of its capture
thread. -/
theorem single_owner_stop : ∃ c op next, BridgeSteps env pool c ∧
    c.code .control = .call op next ∧ op.touchesReader = true ∧
    c.state.threads 0 = .finished ∧ NoneRunning c.state ∧
    ∀ n m, c.state.threads n = .running → c.state.threads m = .running → n = m := by
  have seen : (runSchedule env deliverySettings session
      [(.control, 3), (.reader, 2), (.control, 19), (.reader, 2), (.control, 27), (.capture 0, 8),
        (.control, 8)] pool).map
        (fun c => (pendingTouch (c.code .control), c.state.threads 0)) =
      some (true, .finished) := by
    decide +kernel
  obtain ⟨c, ran, same⟩ := Option.map_eq_some_iff.mp seen
  simp only [Prod.mk.injEq] at same
  obtain ⟨op, next, code, touches⟩ := code_of_pendingTouch same.1
  have run : BridgeSteps env pool c := bridgeSteps_of_runSchedule ran
  obtain ⟨free, single⟩ := single_owner started_pool run
  exact ⟨c, op, next, run, code, touches, same.2, free op next code touches, single⟩

end RfidBridge
