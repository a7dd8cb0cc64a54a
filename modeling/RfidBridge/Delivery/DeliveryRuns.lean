import RfidBridge.Delivery.StrandedEvents

/-!
Any number of delivery workers on one store, beside the services that ingest events and
open, close and cancel sessions. One transaction, query or request is one step. It may be
cut off, and the log keeps what every worker did.
-/

namespace RfidBridge
open Database

/-- An operation of a worker: on the store, or a request to Odoo. -/
inductive CycleOp
  | store (op : StoreOp)
  | send (attemptId : Nat) (candidate : Candidate)

abbrev CycleOp.Answer : CycleOp → Type
  | .store op => op.Answer
  | .send .. => DeliverySenderResult

abbrev CycleProgram (α : Type) := Prog CycleOp CycleOp.Answer PyException α

structure CycleEntry where
  worker : Nat
  op : CycleOp
  answer : Except PyException op.Answer

/-- The store with the time of its last transaction, and the log from its newest entry. -/
structure SharedStore where
  db : Database
  clock : Timestamp := 0
  log : List CycleEntry := []

abbrev CyclePool := Pool Nat CycleOp CycleOp.Answer PyException SharedStore

/-- One operation of a worker. Time does not go back between two transactions; an
operation that raises leaves the store alone, and a request may have any reply. -/
inductive CycleExec (sha : Sha256) : Pool.Exec Nat CycleOp CycleOp.Answer PyException SharedStore
  | committed {worker op s now answer db'} : s.clock ≤ now →
      op.run sha now s.db = .ok (answer, db') →
      CycleExec sha worker (.store op) s (.ok answer)
        ⟨db', now, ⟨worker, .store op, .ok answer⟩ :: s.log⟩
  | rolledBack {worker op s exc} :
      CycleExec sha worker (.store op) s (.error exc)
        { s with log := ⟨worker, .store op, .error exc⟩ :: s.log }
  | replied {worker attemptId candidate s reply} :
      CycleExec sha worker (.send attemptId candidate) s reply
        { s with log := ⟨worker, .send attemptId candidate, reply⟩ :: s.log }

/-- The same where every operation meets a condition on the states around it. -/
def CycleExecUnder (sha : Sha256) (meets : SharedStore → SharedStore → Prop) :
    Pool.Exec Nat CycleOp CycleOp.Answer PyException SharedStore :=
  fun worker op s answer s' => CycleExec sha worker op s answer s' ∧ meets s s'

/-- A worker runs one cycle; whatever ends it, the worker can be started again. -/
def deliveryWorker (settings : DeliverySettings) : CycleProgram Unit :=
  (runFinalDeliveryCycle (fun op => Prog.perform (CycleOp.store op))
    (fun attemptId candidate => Prog.perform (CycleOp.send attemptId candidate)) settings).handle
      fun _ => .ret ()

/-- The operations of the services beside the delivery workers. -/
def StoreOp.isService : StoreOp → Bool
  | .startDeliveryAttempt .. | .completeDeliveryAttempt .. | .transitionEventQueueState ..
  | .selectCandidates .. => false
  | _ => true

/-- What a worker may run: a cycle with settings of the deployment, or a service. -/
inductive WorkerBody (may : DeliverySettings → Prop) : CycleProgram Unit → Prop
  | cycle {settings} : may settings → WorkerBody may (deliveryWorker settings)
  | service {op : StoreOp} : op.isService = true →
      WorkerBody may ((Prog.perform (CycleOp.store op)).handle fun _ => .ret ())

abbrev CycleStep (sha : Sha256) (may : DeliverySettings → Prop)
    (meets : SharedStore → SharedStore → Prop) : CyclePool → CyclePool → Prop :=
  Pool.Step (CycleExecUnder sha meets) fun _ => WorkerBody may

abbrev CycleSteps (sha : Sha256) (may : DeliverySettings → Prop)
    (meets : SharedStore → SharedStore → Prop) : CyclePool → CyclePool → Prop :=
  Pool.Steps (CycleExecUnder sha meets) fun _ => WorkerBody may

/-- Nobody executes anything. -/
def CyclePool.Idle (c : CyclePool) : Prop := ∀ worker, c.code worker = .ret ()

/-- Before anything has happened. -/
structure CyclePool.Initial (c : CyclePool) : Prop where
  idle : CyclePool.Idle c
  log : c.state.log = []

/-- How far a worker has come: the candidates that it selected and has not begun, and the
event and the attempt that it is delivering. -/
structure Progress where
  held : List Candidate := []
  attempt : Option (Nat × Nat) := none

/-- After an exception a worker goes on from here, after anything else it is gone. -/
def Progress.unlessCutOff (p : Progress) (exc : PyException) : Progress :=
  if exc.isException then p else {}

def Progress.after (p : Progress) : (op : CycleOp) → Except PyException op.Answer → Progress
  | .store (.selectCandidates ..), .ok candidates => ⟨candidates, none⟩
  | .store (.startDeliveryAttempt eventId ..), .ok started =>
      ⟨p.held.filter fun c => c.event.id ≠ eventId, some (eventId, started.attemptId)⟩
  | .store (.startDeliveryAttempt eventId ..), .error exc =>
      Progress.unlessCutOff ⟨p.held.filter fun c => c.event.id ≠ eventId, none⟩ exc
  | .store (.completeDeliveryAttempt ..), .ok _ => ⟨p.held, none⟩
  | .store (.completeDeliveryAttempt ..), .error exc => Progress.unlessCutOff ⟨p.held, none⟩ exc
  | _, .ok _ => p
  | _, .error exc => p.unlessCutOff exc

def progress (worker : Nat) : List CycleEntry → Progress
  | [] => {}
  | entry :: log =>
      if entry.worker = worker then (progress worker log).after entry.op entry.answer
      else progress worker log

/-- What a worker does when it has come this far. -/
def CycleOp.Lawful (may : DeliverySettings → Prop) (p : Progress) : CycleOp → Prop
  | .store (.startDeliveryAttempt eventId expectedState _) =>
      p.attempt = none ∧ ∃ c ∈ p.held, c.event.id = eventId ∧ c.event.queueState = expectedState
  | .store (.completeDeliveryAttempt eventId attemptId _ _ _ _ initial maximum) =>
      p.attempt = some (eventId, attemptId) ∧ ∃ settings, may settings ∧
        initial = some settings.retryInitialSeconds ∧ maximum = some settings.retryMaxSeconds
  | .store op => p.attempt = none ∧ op.Issued
  | .send attemptId candidate => p.attempt = some (candidate.event.id, attemptId)

/-- A worker relies on nobody else's entry being taken for its own. -/
def cycleActor (sha : Sha256) (may : DeliverySettings → Prop)
    (meets : SharedStore → SharedStore → Prop) (worker : Nat) :
    Actor CycleOp CycleOp.Answer PyException SharedStore where
  exec := CycleExecUnder sha meets worker
  rely s s' := progress worker s'.log = progress worker s.log
  guarantee s s' := ∃ entry : CycleEntry, entry.worker = worker ∧ s'.log = entry :: s.log ∧
    entry.op.Lawful may (progress worker s.log)
  rely_refl _ := rfl
  rely_trans first second := second.trans first

section
variable {sha : Sha256} {may : DeliverySettings → Prop} {meets : SharedStore → SharedStore → Prop}
  {worker : Nat} {s s' : SharedStore} {α β : Type}

theorem CycleExec.logged {op : CycleOp} {answer : Except PyException op.Answer}
    (h : CycleExec sha worker op s answer s') : s'.log = ⟨worker, op, answer⟩ :: s.log := by
  cases h <;> rfl

theorem compatible_cycleActor : Pool.Compatible (cycleActor sha may meets) := by
  rintro worker worker' apart s s' ⟨entry, rfl, logged, -⟩
  show progress worker' s'.log = progress worker' s.log
  rw [logged, progress, if_neg apart]

/-- The rule for one operation. -/
theorem sat_cycleOp {op : CycleOp} {Q : Except PyException op.Answer → SharedStore → Prop}
    (lawful : op.Lawful may (progress worker s.log))
    (h : ∀ answer s',
      progress worker s'.log = (progress worker s.log).after op answer → Q answer s') :
    (cycleActor sha may meets worker).Sat (Prog.perform op) Q s := by
  apply Actor.Sat.perform
  intro s₁ rely answer s₂ step
  change progress worker s₁.log = progress worker s.log at rely
  have logged := step.1.logged
  refine ⟨⟨_, rfl, logged, rely ▸ lawful⟩, ?_⟩
  intro s₃ rely'
  apply h
  change progress worker s₃.log = progress worker s₂.log at rely'
  rw [rely', logged, progress, if_pos rfl, rely]

/-- The worker has come this far, whatever the others do. -/
abbrev AtProgress (worker : Nat) (p : Progress) (s : SharedStore) : Prop :=
  progress worker s.log = p

theorem stable_atProgress (p : Progress) :
    (cycleActor sha may meets worker).Stable (AtProgress worker p) :=
  fun _ _ at_ rely => rely.trans at_

/-- An exception leaves the candidates to the loop, a cut leaves nothing. -/
abbrev Failed (worker : Nat) (held : List Candidate) (exc : PyException) : SharedStore → Prop :=
  AtProgress worker (Progress.unlessCutOff ⟨held, none⟩ exc)

abbrev CycleEnds (worker : Nat) (P : α → SharedStore → Prop) (held : List Candidate) :
    Except PyException α → SharedStore → Prop :=
  Actor.ends P (Failed worker held)

theorem sat_cycleThen {p : CycleProgram α} {f : α → CycleProgram β} {held : List Candidate}
    {P : α → SharedStore → Prop} {Q : β → SharedStore → Prop}
    (hp : (cycleActor sha may meets worker).Sat p (CycleEnds worker P held) s)
    (hf : ∀ value s, P value s →
      (cycleActor sha may meets worker).Sat (f value) (CycleEnds worker Q held) s) :
    (cycleActor sha may meets worker).Sat (p.bind f) (CycleEnds worker Q held) s :=
  Actor.Sat.seq (fun _ => stable_atProgress _) hp hf

theorem sat_cycleReturned {value : α} {p : Progress} {held : List Candidate}
    (at_ : AtProgress worker p s) :
    (cycleActor sha may meets worker).Sat (.ret value)
      (CycleEnds worker (fun _ => AtProgress worker p) held) s := by
  apply Actor.Sat.ret
  intro s' rely
  exact rely.trans at_

theorem sat_cycleRaised {exc : PyException} {P : α → SharedStore → Prop} {held : List Candidate}
    (at_ : Failed worker held exc s) :
    (cycleActor sha may meets worker).Sat (.raise exc) (CycleEnds worker P held) s := by
  apply Actor.Sat.raise
  intro s' rely
  exact rely.trans at_

variable {settings : DeliverySettings} {c : Candidate} {held : List Candidate}

abbrev cycleStore (op : StoreOp) : CycleProgram op.Answer := Prog.perform (CycleOp.store op)

abbrev cycleSend (attemptId : Nat) (candidate : Candidate) : CycleProgram DeliverySenderResult :=
  Prog.perform (CycleOp.send attemptId candidate)

/-- Beginning the first candidate leaves the others. -/
theorem filter_begun (apart : ∀ c' ∈ held, c'.event.id ≠ c.event.id) :
    ((c :: held).filter fun c' => c'.event.id ≠ c.event.id) = held := by
  rw [List.filter_cons_of_neg (by simp), List.filter_eq_self]
  simpa using apart

theorem sat_startCandidate (apart : ∀ c' ∈ held, c'.event.id ≠ c.event.id)
    (at_ : AtProgress worker ⟨c :: held, none⟩ s) :
    (cycleActor sha may meets worker).Sat
      (cycleStore
        (.startDeliveryAttempt c.event.id c.event.queueState settings.maxDeliveryAttempts))
      (CycleEnds worker
        (fun started => AtProgress worker ⟨held, some (c.event.id, started.attemptId)⟩) held)
      s := by
  apply sat_cycleOp
  · rw [at_]
    exact ⟨rfl, c, List.mem_cons_self .., rfl, rfl⟩
  intro answer s' after
  rw [at_] at after
  cases answer with
  | ok started | error exc =>
      simp only [Progress.after, filter_begun apart] at after
      exact after

theorem sat_sendCandidate {attemptId : Nat}
    (at_ : AtProgress worker ⟨held, some (c.event.id, attemptId)⟩ s) :
    (cycleActor sha may meets worker).Sat
      ((cycleSend attemptId c).tryExcept fun exc =>
        if exc.isException then
          pure { outcome := .retry, errorKind := exc.cls.name, detail := exc.message }
        else .raise exc)
      (CycleEnds worker
        (fun _ => AtProgress worker ⟨held, some (c.event.id, attemptId)⟩) held) s := by
  apply Actor.Sat.handle
  apply sat_cycleOp
  · rw [at_]
    rfl
  intro answer s' after
  rw [at_] at after
  cases answer with
  | ok result => exact sat_cycleReturned after
  | error exc =>
      simp only [Progress.after, Progress.unlessCutOff] at after
      dsimp only
      split
      · rename_i caught
        rw [if_pos caught] at after
        exact sat_cycleReturned after
      · rename_i cut
        rw [if_neg cut] at after
        apply sat_cycleRaised
        rw [Failed, Progress.unlessCutOff, if_neg cut]
        exact after

theorem sat_completeCandidate {attemptId : Nat} {sent : DeliverySenderResult}
    (allowed : may settings) (at_ : AtProgress worker ⟨held, some (c.event.id, attemptId)⟩ s) :
    (cycleActor sha may meets worker).Sat
      (cycleStore (.completeDeliveryAttempt c.event.id attemptId sent.outcome sent.responseCode
        sent.errorKind sent.detail (some settings.retryInitialSeconds)
        (some settings.retryMaxSeconds)))
      (CycleEnds worker (fun _ => AtProgress worker ⟨held, none⟩) held) s := by
  apply sat_cycleOp
  · rw [at_]
    exact ⟨rfl, settings, allowed, rfl, rfl⟩
  intro answer s' after
  rw [at_] at after
  cases answer with
  | ok completed => exact after
  | error exc => exact after

theorem sat_cycleCandidate (allowed : may settings)
    (apart : ∀ c' ∈ held, c'.event.id ≠ c.event.id)
    (at_ : AtProgress worker ⟨c :: held, none⟩ s) :
    (cycleActor sha may meets worker).Sat (deliverCandidate cycleStore cycleSend settings c)
      (Actor.ends (fun _ => AtProgress worker ⟨held, none⟩) fun _ => AtProgress worker {}) s := by
  apply Actor.Sat.handle
  have processed : (cycleActor sha may meets worker).Sat
      (do
        let result ← processDeliveryCandidate cycleStore cycleSend settings c
        pure (some result.outcome))
      (CycleEnds worker (fun _ => AtProgress worker ⟨held, none⟩) held) s := by
    refine sat_cycleThen (P := fun _ => AtProgress worker ⟨held, none⟩) ?_
      fun _ _ done => sat_cycleReturned done
    apply sat_cycleThen (sat_startCandidate apart at_)
    intro started s₁ opened
    apply sat_cycleThen (sat_sendCandidate opened)
    intro sent s₂ replied
    apply sat_cycleThen (sat_completeCandidate allowed replied)
    exact fun _ _ closed => sat_cycleReturned closed
  apply processed.mono
  intro outcome s₁ post
  cases outcome with
  | ok result => exact Actor.Sat.ret fun s' rely => rely.trans post
  | error exc =>
      change progress worker s₁.log = if exc.isException then ⟨held, none⟩ else {} at post
      dsimp only
      split
      · rename_i caught
        rw [if_pos caught] at post
        exact Actor.Sat.ret fun s' rely => rely.trans post
      · rename_i cut
        rw [if_neg cut] at post
        exact Actor.Sat.raise fun s' rely => rely.trans post

/-- The loop of a cycle begins each candidate once. -/
theorem sat_cycleCandidates (allowed : may settings) {candidates : List Candidate}
    (distinct : (candidates.map (·.event.id)).Nodup)
    (at_ : AtProgress worker ⟨candidates, none⟩ s) :
    (cycleActor sha may meets worker).Sat
      (Prog.forEach candidates (deliverCandidate cycleStore cycleSend settings))
      (Actor.ends (fun _ => AtProgress worker {}) fun _ => AtProgress worker {}) s := by
  induction candidates generalizing s with
  | nil => exact Actor.Sat.ret fun s' rely => rely.trans at_
  | cons c candidates ih =>
      rw [List.map_cons, List.nodup_cons] at distinct
      have apart : ∀ c' ∈ candidates, c'.event.id ≠ c.event.id :=
        fun c' hc' same => distinct.1 (same ▸ List.mem_map_of_mem hc')
      rw [Prog.forEach]
      apply Actor.Sat.seq (fun _ => stable_atProgress _) (sat_cycleCandidate allowed apart at_)
      intro _ s₁ begun
      apply Actor.Sat.seq (fun _ => stable_atProgress _) (ih distinct.2 begun)
      intro _ s₂ done
      exact Actor.Sat.ret fun s' rely => rely.trans done

theorem after_routine {op : StoreOp} (routine : op.isRoutine = true)
    (answer : Except PyException op.Answer) : Progress.after {} (.store op) answer = {} := by
  cases op <;> cases routine
  all_goals
    cases answer with
    | ok _ => rfl
    | error exc =>
        simp only [Progress.after, Progress.unlessCutOff]
        split <;> rfl

theorem lawful_routine {op : StoreOp} (issued : op.Issued) (routine : op.isRoutine = true) :
    CycleOp.Lawful may {} (.store op) := by
  cases op with
  | startDeliveryAttempt | completeDeliveryAttempt | selectCandidates => cases routine
  | _ => exact ⟨rfl, issued⟩

/-- An operation between two selections. -/
def CycleOp.IsRoutine : CycleOp → Prop
  | .store op => op.Issued ∧ op.isRoutine = true
  | .send .. => False

/-- A worker without candidates that does only routine operations. -/
theorem keeps_routine {p : CycleProgram α} (calls : p.Calls CycleOp.IsRoutine) :
    (cycleActor sha may meets worker).Keeps (AtProgress worker {}) p := by
  refine Actor.keeps_of_calls (stable_atProgress _) ?_ calls
  intro op s answer s' routine at_ step
  have logged := step.1.logged
  cases op with
  | send => exact routine.elim
  | store op =>
      refine ⟨⟨_, rfl, logged, at_ ▸ lawful_routine routine.1 routine.2⟩, ?_⟩
      rw [AtProgress, logged, progress, if_pos rfl, at_, after_routine routine.2]

theorem calls_cycleStore (op : StoreOp) (issued : op.Issued) (routine : op.isRoutine = true) :
    (cycleStore op).Calls CycleOp.IsRoutine :=
  Prog.calls_perform ⟨issued, routine⟩

theorem calls_cyclePass (op : StoreOp) (issued : op.Issued) (passes : op.deadLetters = true) :
    (cycleStore op).Calls CycleOp.IsRoutine :=
  calls_cycleStore op issued (StoreOp.isRoutine_of_deadLetters passes)

/-- The selection of a cycle: what it returns is what the worker has still to begin. -/
theorem sat_cycleSelect (at_ : AtProgress worker {} s) :
    (cycleActor sha may meets worker).Sat
      (selectFinalDeliveryCandidates cycleStore settings.readerCode settings.batchSize)
      (Actor.ends (fun candidates s => AtProgress worker ⟨candidates, none⟩ s ∧
        (candidates.map (·.event.id)).Nodup) fun _ => AtProgress worker {}) s := by
  unfold selectFinalDeliveryCandidates requireReaderCode
  split
  · exact Actor.Sat.raise fun s' rely => rely.trans at_
  split
  · exact Actor.Sat.raise fun s' rely => rely.trans at_
  apply Actor.Sat.perform
  intro s₁ rely answer s₂ step
  have before : AtProgress worker {} s₁ := rely.trans at_
  have logged := step.1.logged
  refine ⟨⟨_, rfl, logged, congrArg Progress.attempt before, trivial⟩, ?_⟩
  intro s₃ rely'
  have after : progress worker s₃.log = Progress.after {} _ answer :=
    rely'.trans (by rw [logged, progress, if_pos rfl, before])
  cases answer with
  | error exc =>
      refine after.trans ?_
      simp only [Progress.after, Progress.unlessCutOff]
      split <;> rfl
  | ok candidates =>
      refine ⟨after, ?_⟩
      cases step.1 with
      | committed _ ran =>
          cases ran
          exact nodup_selectCandidates _ _ _

theorem sat_deliveryWorker (allowed : may settings) (at_ : AtProgress worker {} s) :
    (cycleActor sha may meets worker).Sat (deliveryWorker settings)
      (fun _ => AtProgress worker {}) s := by
  have idle : ∀ exc : PyException, ∀ s s', AtProgress worker {} s →
      (cycleActor sha may meets worker).rely s s' → AtProgress worker {} s' :=
    fun _ => stable_atProgress _
  apply Actor.Sat.handle
  have cycle : (cycleActor sha may meets worker).Sat
      (runFinalDeliveryCycle cycleStore cycleSend settings)
      (Actor.ends (fun _ => AtProgress worker {}) fun _ => AtProgress worker {}) s := by
    apply Actor.Sat.seq idle
      ((keeps_routine (calls_requireMaxDeliveryAttempts _)).sat at_)
    intro _ s₁ at₁
    apply Actor.Sat.seq idle
      ((keeps_routine (calls_deadLetterCancelled calls_cyclePass _)).sat at₁)
    intro _ s₂ at₂
    apply Actor.Sat.seq idle
      ((keeps_routine (calls_deadLetterExhausted calls_cyclePass _ _)).sat at₂)
    intro exhausted s₃ at₃
    apply Actor.Sat.seq idle (sat_cycleSelect at₃)
    rintro candidates s₄ ⟨at₄, distinct⟩
    apply Actor.Sat.seq idle (sat_cycleCandidates allowed distinct at₄)
    intro outcomes s₅ at₅
    exact Actor.Sat.ret fun s' rely => rely.trans at₅
  apply cycle.mono
  intro outcome s' post
  cases outcome with
  | ok _ | error _ => exact Actor.Sat.ret fun s'' rely => rely.trans post

theorem sat_workerBody {p : CycleProgram Unit} (body : WorkerBody may p)
    (at_ : AtProgress worker {} s) :
    (cycleActor sha may meets worker).Sat p (fun _ => AtProgress worker {}) s := by
  cases body with
  | cycle allowed => exact sat_deliveryWorker allowed at_
  | @service op service =>
      have issued : op.Issued := by cases op <;> trivial
      have routine : op.isRoutine = true := by cases op <;> first | rfl | cases service
      apply Actor.Sat.handle
      apply (keeps_routine (calls_cycleStore op issued routine) s at_).mono
      exact fun _ s₁ at₁ => Actor.Sat.ret fun s₂ rely => rely.trans at₁

end

/-- In every run, every worker is somewhere in its program, and an idle one holds nothing. -/
theorem sound_cycleSteps {sha : Sha256} {may : DeliverySettings → Prop}
    {meets : SharedStore → SharedStore → Prop} {c c' : CyclePool} (init : CyclePool.Initial c)
    (run : CycleSteps sha may meets c c') :
    c'.Sound (cycleActor sha may meets) fun worker _ => AtProgress worker {} := by
  refine Pool.sound_steps compatible_cycleActor
    (fun worker p s body at_ => sat_workerBody body at_) run ?_
  intro worker
  rw [init.idle worker]
  apply Actor.Sat.ret
  intro s rely
  change progress worker s.log = progress worker c.state.log at rely
  rw [AtProgress, rely, init.log]
  rfl

/-- The rule for runs: an assertion that every lawful operation keeps holds in every state. -/
theorem invariant_cycleSteps {sha : Sha256} {may : DeliverySettings → Prop}
    {meets : SharedStore → SharedStore → Prop} {I : SharedStore → Prop} {c c' : CyclePool}
    (keeps : ∀ worker op s answer s', CycleExec sha worker op s answer s' → meets s s' →
      op.Lawful may (progress worker s.log) → I s → I s')
    (init : CyclePool.Initial c) (run : CycleSteps sha may meets c c') (holds : I c.state) :
    I c'.state := by
  refine Pool.invariant_steps compatible_cycleActor
    (fun worker p s body at_ => sat_workerBody body at_) ?_ run
    (sound_cycleSteps init .refl) holds
  rintro worker op s answer s' ⟨step, met⟩ ⟨entry, -, logged, lawful⟩ inv
  have same := logged.symm.trans step.logged
  cases same
  exact keeps worker op s answer s' step met lawful inv

/-- What a step logs is a lawful operation of its worker. -/
theorem lawful_of_step {sha : Sha256} {may : DeliverySettings → Prop}
    {meets : SharedStore → SharedStore → Prop} {c c' c'' : CyclePool} {entry : CycleEntry}
    (init : CyclePool.Initial c) (run : CycleSteps sha may meets c c')
    (step : CycleStep sha may meets c' c'') (made : c''.state.log = entry :: c'.state.log) :
    entry.op.Lawful may (progress entry.worker c'.state.log) := by
  cases step with
  | @call worker op next answer s code ex =>
      have mine := sound_cycleSteps init run worker
      rw [code] at mine
      obtain ⟨entry', rfl, logged, lawful⟩ := mine.step ex
      have same := made.symm.trans logged
      cases same
      exact lawful
  | begin => exact absurd made.symm (List.cons_ne_self _ _)

theorem issued_of_lawful {op : StoreOp} {may : DeliverySettings → Prop} {p : Progress}
    (lawful : CycleOp.Lawful may p (.store op)) :
    op.Issued := by
  cases op with
  | transitionEventQueueState => exact lawful.2
  | _ => trivial

theorem run_selectCandidates {sha : Sha256} {now : Timestamp} {db db' : Database}
    {readerCode : String} {batchSize : Nat} {candidates : List Candidate}
    (h : (StoreOp.selectCandidates readerCode batchSize).run sha now db = .ok (candidates, db')) :
    candidates = db.selectCandidates readerCode batchSize now ∧ db' = db := by
  cases h
  exact ⟨rfl, rfl⟩

/-- A candidate that a worker has still to begin was so before, or was selected just now. -/
theorem mem_held_after {p : Progress} {op : CycleOp} {answer : Except PyException op.Answer}
    {c : Candidate} (h : c ∈ (p.after op answer).held) :
    c ∈ p.held ∨ ∃ readerCode batchSize candidates,
      (⟨op, answer⟩ : (op : CycleOp) × Except PyException op.Answer) =
        ⟨.store (.selectCandidates readerCode batchSize), .ok candidates⟩ ∧ c ∈ candidates := by
  unfold Progress.after Progress.unlessCutOff at h
  split at h
  · exact .inr ⟨_, _, _, rfl, h⟩
  all_goals left
  · exact (List.mem_filter.mp h).1
  · split at h
    · exact (List.mem_filter.mp h).1
    · cases h
  · exact h
  · split at h
    · exact h
    · cases h
  · exact h
  · split at h
    · exact h
    · cases h

theorem mem_held_cons {worker : Nat} {entry : CycleEntry} {log : List CycleEntry} {c : Candidate}
    (h : c ∈ (progress worker (entry :: log)).held) :
    c ∈ (progress worker log).held ∨ ∃ readerCode batchSize candidates,
      entry = ⟨worker, .store (.selectCandidates readerCode batchSize), .ok candidates⟩ ∧
        c ∈ candidates := by
  rw [progress] at h
  split at h
  · rename_i mine
    obtain old | ⟨readerCode, batchSize, candidates, same, chosen⟩ := mem_held_after h
    · exact .inl old
    · obtain ⟨worker', op, answer⟩ := entry
      cases same
      obtain rfl : worker' = worker := mine
      exact .inr ⟨readerCode, batchSize, candidates, rfl, chosen⟩
  · exact .inl h

/-- The attempt that a worker is delivering was so before, or was opened just now. -/
theorem attempt_after {p : Progress} {op : CycleOp} {answer : Except PyException op.Answer}
    {eventId attemptId : Nat} (h : (p.after op answer).attempt = some (eventId, attemptId)) :
    p.attempt = some (eventId, attemptId) ∨
      ∃ expectedState limit, ∃ started : DeliveryAttemptStartResult,
        (⟨op, answer⟩ : (op : CycleOp) × Except PyException op.Answer) =
          ⟨.store (.startDeliveryAttempt eventId expectedState limit), .ok started⟩ ∧
        started.attemptId = attemptId := by
  unfold Progress.after Progress.unlessCutOff at h
  split at h
  · cases h
  · cases h
    exact .inr ⟨_, _, _, rfl, rfl⟩
  · split at h <;> cases h
  · cases h
  · split at h <;> cases h
  · exact .inl h
  · split at h
    · exact .inl h
    · cases h

theorem attempt_cons {worker eventId attemptId : Nat} {entry : CycleEntry} {log : List CycleEntry}
    (h : (progress worker (entry :: log)).attempt = some (eventId, attemptId)) :
    (progress worker log).attempt = some (eventId, attemptId) ∨
      ∃ expectedState limit, ∃ started : DeliveryAttemptStartResult,
        entry = ⟨worker, .store (.startDeliveryAttempt eventId expectedState limit), .ok started⟩ ∧
        started.attemptId = attemptId := by
  rw [progress] at h
  split at h
  · rename_i mine
    obtain old | ⟨expectedState, limit, started, same, number⟩ := attempt_after h
    · exact .inl old
    · obtain ⟨worker', op, answer⟩ := entry
      cases same
      obtain rfl : worker' = worker := mine
      exact .inr ⟨expectedState, limit, started, rfl, number⟩
  · exact .inl h

/-- How a run is evaluated: a transaction takes a fixed time, a request has a given reply,
and an operation may have no answer. -/
structure CycleSchedule where
  sha : Sha256
  duration : Nat
  reply : Nat → Candidate → Except PyException DeliverySenderResult
  admits : Nat → CycleOp → SharedStore → Bool := fun _ _ _ => true
  next : Nat → CycleProgram Unit

namespace CycleSchedule
variable (schedule : CycleSchedule)

def answer (worker : Nat) (op : CycleOp) (s : SharedStore) :
    Except PyException op.Answer × SharedStore :=
  match op with
  | .send attemptId candidate =>
      let reply := schedule.reply attemptId candidate
      (reply, { s with log := ⟨worker, .send attemptId candidate, reply⟩ :: s.log })
  | .store op =>
      let now := s.clock + schedule.duration
      match op.run schedule.sha now s.db with
      | .ok (answer, db') => (.ok answer, ⟨db', now, ⟨worker, .store op, .ok answer⟩ :: s.log⟩)
      | .error exc => (.error exc, { s with log := ⟨worker, .store op, .error exc⟩ :: s.log })

def respond (worker : Nat) (op : CycleOp) (s : SharedStore) :
    Option (Except PyException op.Answer × SharedStore) :=
  if schedule.admits worker op s then some (schedule.answer worker op s) else none

/-- The pool after the turn of a worker, and after the turns of several. -/
def turn (worker : Nat) (c : CyclePool) : Option CyclePool :=
  Pool.advance schedule.respond (fun worker => some (schedule.next worker)) c worker

def follow (turns : List Nat) (c : CyclePool) : Option CyclePool :=
  Pool.follow schedule.respond (fun worker => some (schedule.next worker)) turns c

theorem exec_answer (worker : Nat) (op : CycleOp) (s : SharedStore) :
    CycleExec schedule.sha worker op s (schedule.answer worker op s).1
      (schedule.answer worker op s).2 := by
  cases op with
  | send attemptId candidate => exact .replied
  | store op =>
      simp only [answer]
      split
      · rename_i ran
        exact .committed (Nat.le_add_right _ _) ran
      · exact .rolledBack

variable {schedule} {may : DeliverySettings → Prop} {meets : SharedStore → SharedStore → Prop}
  (met : ∀ worker op s answer s', schedule.admits worker op s = true →
    CycleExec schedule.sha worker op s answer s' → meets s s')
  (offered : ∀ worker, WorkerBody may (schedule.next worker))

include met in
theorem exec_of_respond (worker : Nat) (op : CycleOp) (s : SharedStore)
    (answer : Except PyException op.Answer) (s' : SharedStore)
    (h : schedule.respond worker op s = some (answer, s')) :
    CycleExecUnder schedule.sha meets worker op s answer s' := by
  simp only [respond] at h
  split at h
  · rename_i admitted
    have step := schedule.exec_answer worker op s
    rw [Option.some.inj h] at step
    exact ⟨step, met worker op s answer s' admitted step⟩
  · cases h

include met offered

theorem step_of_turn {worker : Nat} {c c' : CyclePool} (h : schedule.turn worker c = some c') :
    CycleStep schedule.sha may meets c c' := by
  refine Pool.step_of_advance (exec_of_respond met) ?_ h
  rintro worker p ⟨⟩
  exact offered worker

theorem steps_of_follow {turns : List Nat} {c c' : CyclePool}
    (h : schedule.follow turns c = some c') : CycleSteps schedule.sha may meets c c' := by
  refine Pool.steps_of_follow (exec_of_respond met) ?_ h
  rintro worker p ⟨⟩
  exact offered worker

end CycleSchedule

/-- Nobody has begun, and nothing has happened to the store. -/
def CyclePool.before (db : Database) : CyclePool := ⟨⟨db, 0, []⟩, fun _ => .ret ()⟩

theorem CyclePool.initial_before (db : Database) : CyclePool.Initial (.before db) :=
  ⟨fun _ => rfl, rfl⟩

/-- The event on which the last operation of a log opened an attempt. -/
def lastOpened : List CycleEntry → Option Nat
  | ⟨_, .store (.startDeliveryAttempt eventId _ _), .ok _⟩ :: _ => some eventId
  | _ => none

/-- A step that leaves a start on top of the log has made it. -/
theorem made_of_lastOpened {sha : Sha256} {may : DeliverySettings → Prop}
    {meets : SharedStore → SharedStore → Prop} {c c' : CyclePool} {eventId : Nat}
    (step : CycleStep sha may meets c c') (grown : c'.state.log.length ≠ c.state.log.length)
    (opened : lastOpened c'.state.log = some eventId) :
    ∃ worker expectedState limit, ∃ started : DeliveryAttemptStartResult, c'.state.log =
      ⟨worker, .store (.startDeliveryAttempt eventId expectedState limit), .ok started⟩ ::
        c.state.log := by
  cases step with
  | begin => exact absurd rfl grown
  | @call worker op next answer s code ex =>
      have logged := ex.1.logged
      simp only [logged, lastOpened] at opened
      split at opened
      · rename_i same
        cases same
        cases opened
        exact ⟨worker, _, _, _, logged⟩
      · cases opened

end RfidBridge
