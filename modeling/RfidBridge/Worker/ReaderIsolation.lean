import RfidBridge.Delivery.CycleAlone
import RfidBridge.Store.ReaderRows
import RfidBridge.Worker.DeliveryContract
import RfidBridge.Worker.DeviceCalls
import RfidBridge.Worker.OpenSessions

/-!
The readers of an installation share one database. The threads of a process work for its own
reader, and its delivery workers for the readers that they are set up with; the sessions, the
events and the attempts of every other reader stay as they are.
-/

namespace RfidBridge
open Database FinalRuntimeOrchestrator

/-- Another reader in the database of the process, with its rows. -/
structure Neighbour (env : BridgeEnv) where
  device : ReaderDevice
  rows : ReaderRows
  since : Nat
  id_ne : env.device.id ≠ device.id
  code_ne : env.device.code ≠ device.code

/-- No operation is for the neighbour, and the runtime is of the own reader. -/
def BridgeOp.apart {env : BridgeEnv} (N : Neighbour env) : BridgeOp → Prop
  | .store op => op.Issued ∧ op.Avoids N.device N.rows
  | .writeRuntime runtime => runtime.readerCode = env.device.code
  | _ => True

/-- An operation that names no reader, but for an ingestion. -/
def BridgeOp.unaddressed : BridgeOp → Prop
  | .store (.countActiveSessions _) | .store (.ingestFinalActiveTagFrames ..)
  | .store (.selectCancelled _) | .store (.selectExhausted ..) | .store (.selectCandidates ..)
  | .store (.finalQueueStates ..) => True
  | .store _ | .writeRuntime _ => False
  | _ => True

/-- The steps of threads that ingest for their own reader. -/
def ownReadsExec (env : BridgeEnv) : Pool.Exec Thread BridgeOp BridgeOp.Answer PyException World :=
  fun t op w answer w' => BridgeStep env t op w answer w' ∧ op.ingestsFor env.device

/-- What a thread may do while the neighbour is left alone. -/
def IsolationLaw {env : BridgeEnv} (N : Neighbour env) (t : Thread) (op : BridgeOp) (_ : World) :
    Prop :=
  op.belongs t ∧ op.apart N

/-- The rows of the neighbour are as they were. -/
structure Isolated {env : BridgeEnv} (N : Neighbour env) (w : World) : Prop where
  keys : StoreKeys N.since w.db
  known : w.db.deviceOf N.device.id = some N.device
  code : w.runtime.readerCode = env.device.code
  rows : w.db.rowsOf N.device.id = N.rows

/-- The runtime is the same. -/
def SameRuntime (w w' : World) : Prop := w'.runtime = w.runtime

/-- The bodies of a process whose delivery workers are set up for other readers. -/
def OthersBody (env : BridgeEnv) (device : ReaderDevice) (t : Thread) (p : Bridge Unit) : Prop :=
  BridgeBody env t p ∧ ∀ n, t = .delivery n →
    ∃ settings, p = deliveryCycle env settings ∧ strip settings.readerCode ≠ device.code

namespace ReaderIsolation

section
variable {env : BridgeEnv} {N : Neighbour env} {t : Thread} {op : BridgeOp} {w w' : World}
  {answer : Except PyException op.Answer}

theorem apart_of_unaddressed (unaddressed : op.unaddressed) (own : op.ingestsFor env.device) :
    op.apart N := by
  cases op with
  | store op =>
      cases op with
      | ingestFinalActiveTagFrames owner _ _ =>
          refine ⟨trivial, ?_⟩
          rw [StoreOp.Avoids, show owner = env.device from own]
          exact N.id_ne
      | _ => first | exact unaddressed.elim | exact ⟨trivial, trivial⟩
  | writeRuntime _ => exact unaddressed.elim
  | _ => trivial

theorem unaddressed_of_captures (h : op.captures) : op.unaddressed := by
  cases op with
  | store op => cases op <;> first | exact h.elim | trivial
  | writeRuntime _ => exact h.elim
  | _ => trivial

/-- Every step within the law leaves the neighbour alone. -/
theorem isolated_of_step (law : IsolationLaw N t op w) (step : ownReadsExec env t op w answer w')
    (h : Isolated N w) : Isolated N w' := by
  obtain ⟨-, apart⟩ := law
  replace step := step.1
  obtain ⟨keys, devices⟩ := OpenSessions.storeFacts_of_step (fun op' same => by
    subst same
    exact apart.1) step h.keys
  have known : w'.db.deviceOf N.device.id = some N.device := by
    rw [deviceOf, devices]
    exact h.known
  cases op with
  | store op =>
      refine ⟨keys, known, ?_, ?_⟩
      · rw [step.frame.1.runtime (by rintro ⟨⟩)]
        exact h.code
      · cases answer with
        | ok value =>
            obtain ⟨now, ran⟩ := step.committed
            exact (rowsOf_run h.keys h.known (h.rows ▸ apart.2) ran).trans h.rows
        | error exc =>
            rw [step.rolledBack.1]
            exact h.rows
  | writeRuntime runtime =>
      refine ⟨keys, known, ?_, ?_⟩
      · obtain ⟨_, ⟨-, rfl⟩ | ⟨-, rfl⟩, rfl⟩ := step.effect
        · exact apart
        · exact h.code
      · rw [step.frame.1.db (by rintro ⟨⟩)]
        exact h.rows
  | _ =>
      refine ⟨keys, known, ?_, ?_⟩
      · rw [step.frame.1.runtime (by rintro ⟨⟩)]
        exact h.code
      · rw [step.frame.1.db (by rintro ⟨⟩)]
        exact h.rows

theorem sameRuntime_of_step (step : BridgeStep env t op w answer w')
    (keeps : ∀ runtime, op ≠ .writeRuntime runtime) : SameRuntime w w' := by
  apply step.frame.1.runtime
  cases op <;> first | exact absurd rfl (keeps _) | rintro ⟨⟩

theorem controlDiscipline :
    Actor.Discipline (ownReadsExec env) (IsolationLaw N) .control (Isolated N) SameRuntime where
  keeps _ _ _ _ _ law step h := isolated_of_step law step h
  others t op _ _ _ other law step _ := by
    apply sameRuntime_of_step step.1
    rintro runtime rfl
    have mine := law.1
    cases t with
    | control => exact other rfl
    | _ => cases mine

theorem workerDiscipline (t : Thread) :
    Actor.Discipline (ownReadsExec env) (IsolationLaw N) t (Isolated N) fun _ _ => True where
  keeps _ _ _ _ _ law step h := isolated_of_step law step h
  others _ _ _ _ _ _ _ _ _ := trivial

/-- A thread that leaves the neighbour alone. -/
abbrev loner (N : Neighbour env) (t : Thread) : Actor BridgeOp BridgeOp.Answer PyException World :=
  Actor.member (ownReadsExec env) (IsolationLaw N) t

/-- The neighbour is left alone, and something is known that no step changes. -/
abbrev Leaves (N : Neighbour env) (known : Prop) : World → Prop :=
  Actor.Under (Isolated N) fun _ => known

end

section
variable {env : BridgeEnv} {N : Neighbour env} {t : Thread} {known : Prop} {α : Type}
  {p : Bridge α}

theorem lasts_known {calm : World → World → Prop} : Actor.Lasts calm fun _ => known :=
  fun _ _ _ => id

theorem stable_leaves : (loner N t).Stable (Leaves N known) :=
  (workerDiscipline t).stable lasts_known

/-- A program whose operations are for others. -/
theorem keeps_apart (calls : p.Calls fun op => op.belongs t ∧
    (op.ingestsFor env.device → op.apart N)) : (loner N t).Keeps (Leaves N known) p := by
  refine Actor.keeps_of_calls stable_leaves ?_ calls
  rintro op w answer w' ⟨mine, apart⟩ h step
  have law : IsolationLaw N t op w := ⟨mine, apart step.2⟩
  exact ⟨⟨op, answer, step, law⟩, isolated_of_step law step h.1, h.2⟩

/-- What a query by reader code lists is not the neighbour's. -/
theorem lacks_of_hasReader {w : World} {e : RawRFIDEvent} {readerCode : String}
    (isolated : Isolated N w) (other : readerCode ≠ N.device.code) (member : e ∈ w.db.events.rows)
    (has : w.db.hasReader readerCode e = true) : N.rows.Lacks e.id := by
  rw [← isolated.rows, lacks_iff]
  rintro e' member' same onReader
  obtain rfl := w.db.events.eq_of_key_eq member' member same
  rw [hasReader, onReader, isolated.known] at has
  have named : N.device.code = readerCode := by simpa using has
  exact other named.symm

/-- None of these events is the neighbour's. -/
def NoneLacked (N : Neighbour env) (ids : List Nat) : Prop := ∀ id ∈ ids, N.rows.Lacks id

/-- A query of a delivery worker lists events of its reader. -/
theorem triple_lists {n : Nat} {readerCode : String} (other : readerCode ≠ N.device.code)
    (o : StoreOp) (ids : o.Answer → List Nat) (query : o.Issued ∧ o.Avoids N.device N.rows)
    (mine : (BridgeOp.store o).belongs (.delivery n))
    (lists : ∀ db now value db', o.run env.sha now db = .ok (value, db') → ∀ id ∈ ids value,
      ∃ e ∈ db.events.rows, e.id = id ∧ db.hasReader readerCode e = true) :
    (loner N (.delivery n)).Triple (Leaves N True) (store o)
      (fun value => Leaves N (NoneLacked N (ids value))) fun _ => Leaves N True := by
  apply (workerDiscipline (.delivery n)).triple_perform (.store o)
    (Q := fun value _ => NoneLacked N (ids value))
  · exact lasts_known
  · exact fun _ => lasts_known
  · exact fun _ => stable_leaves
  · exact fun _ _ => ⟨mine, query⟩
  · intro w value w' h step id listed
    obtain ⟨now, ran⟩ := step.1.committed
    obtain ⟨e, member, rfl, has⟩ := lists w.db now value w'.db ran id listed
    exact lacks_of_hasReader h.1 other member has
  · exact fun _ _ _ _ _ after => ⟨after, trivial⟩

theorem keeps_transition {n eventId : Nat} {state : WaitingState} {listed : List Nat}
    (member : eventId ∈ listed) : (loner N (.delivery n)).Keeps (Leaves N (NoneLacked N listed))
      (store (.transitionEventQueueState eventId state.val .dead)) := by
  apply Actor.Triple.keeps
  apply (workerDiscipline (.delivery n)).triple_perform _ (Q := fun _ _ => NoneLacked N listed)
    lasts_known (fun _ => lasts_known) (fun _ => stable_leaves)
  · exact fun w h => ⟨⟨⟨state.property, rfl⟩, .inl rfl⟩, ⟨state.property, rfl⟩, h.2 _ member⟩
  · exact fun _ _ _ h _ => h.2
  · exact fun _ _ _ h _ after => ⟨after, h.2⟩

/-- The delivery of a candidate that is not the neighbour's. -/
theorem keeps_candidate {n : Nat} {settings : DeliverySettings} {candidate : Candidate}
    (lacks : N.rows.Lacks candidate.event.id) : (loner N (.delivery n)).Keeps (Leaves N known)
      (processDeliveryCandidate store (sendsEvents env settings) settings candidate) := by
  apply keeps_apart
  refine Prog.calls_bind (Prog.calls_perform ⟨⟨trivial, .inr rfl⟩, fun _ => ⟨trivial, lacks⟩⟩) ?_
  intro started
  apply Prog.calls_bind
  · apply Prog.calls_tryExcept (calls_sendsEvents (fun _ _ _ _ => ⟨trivial, fun _ => trivial⟩) _ _)
    intro exc
    split
    · exact Prog.calls_pure _ _
    · exact Prog.calls_raise _ _
  · intro sent
    refine Prog.calls_bind (Prog.calls_perform ⟨⟨trivial, .inr rfl⟩, fun _ => ⟨trivial, lacks⟩⟩) ?_
    exact fun _ => Prog.calls_pure _ _

theorem lists_selectCancelled {n : Nat} {readerCode : String}
    (other : readerCode ≠ N.device.code) :
    (loner N (.delivery n)).Triple (Leaves N True) (store (.selectCancelled readerCode))
      (fun listed => Leaves N (NoneLacked N (listed.map Prod.fst))) fun _ => Leaves N True := by
  apply triple_lists other (.selectCancelled readerCode) (List.map Prod.fst) ⟨trivial, trivial⟩
    ⟨trivial, .inl rfl⟩
  rintro db now value _ ⟨⟩ id listed
  obtain ⟨x, chosen, rfl⟩ := List.mem_map.mp listed
  obtain ⟨e, member, found⟩ := List.mem_filterMap.mp chosen
  split at found
  · split at found
    · rename_i cancelled
      simp only [Bool.and_eq_true] at cancelled
      cases found
      exact ⟨e, member, rfl, cancelled.1.1⟩
    · cases found
  · cases found

theorem map_inRetry (eventIds : List Nat) : (inRetry eventIds).map Prod.fst = eventIds := by
  simp [inRetry, Function.comp_def]

theorem lists_selectExhausted {n : Nat} {readerCode : String} (limit : Int)
    (other : readerCode ≠ N.device.code) :
    (loner N (.delivery n)).Triple (Leaves N True) (store (.selectExhausted readerCode limit))
      (fun eventIds => Leaves N (NoneLacked N ((inRetry eventIds).map Prod.fst)))
      fun _ => Leaves N True := by
  simp only [map_inRetry]
  apply triple_lists other (.selectExhausted readerCode limit) id ⟨trivial, trivial⟩
    ⟨trivial, .inl rfl⟩
  rintro db now value _ ⟨⟩ id listed
  obtain ⟨e, chosen, rfl⟩ := List.mem_map.mp listed
  obtain ⟨member, found⟩ := List.mem_filter.mp chosen
  simp only [Bool.and_eq_true] at found
  exact ⟨e, member, rfl, found.1.1.1.1⟩

theorem lists_selectCandidates {n : Nat} {readerCode : String} (batchSize : Nat)
    (other : readerCode ≠ N.device.code) :
    (loner N (.delivery n)).Triple (Leaves N True) (store (.selectCandidates readerCode batchSize))
      (fun candidates => Leaves N (NoneLacked N (candidates.map (·.event.id))))
      fun _ => Leaves N True := by
  apply triple_lists other (.selectCandidates readerCode batchSize) (List.map (·.event.id))
    ⟨trivial, trivial⟩ ⟨trivial, .inr rfl⟩
  rintro db now value _ ⟨⟩ id listed
  obtain ⟨c, chosen, rfl⟩ := List.mem_map.mp listed
  obtain ⟨member, owned, -⟩ := mem_selectCandidates chosen
  exact ⟨c.event, member, rfl, owned.1⟩

/-- The delivery of one of the candidates that are listed. -/
theorem keeps_listed {n : Nat} {settings : DeliverySettings} {candidates : List Candidate}
    {candidate : Candidate} (member : candidate ∈ candidates) :
    (loner N (.delivery n)).Keeps (Leaves N (NoneLacked N (candidates.map (·.event.id))))
      (processDeliveryCandidate store (sendsEvents env settings) settings candidate) :=
  fun w h => keeps_candidate (h.2 _ (List.mem_map_of_mem member)) w h

/-- The cycles of a delivery worker for another reader. -/
def workerContract (N : Neighbour env) (n : Nat) (settings : DeliverySettings)
    (other : strip settings.readerCode ≠ N.device.code) :
    DeliveryContract (loner N (.delivery n)) env settings where
  base := Leaves N True
  doomed listed := Leaves N (NoneLacked N (listed.map Prod.fst))
  chosen candidates := Leaves N (NoneLacked N (candidates.map (·.event.id)))
  stable_base := stable_leaves
  stable_doomed _ := stable_leaves
  stable_chosen _ := stable_leaves
  base_of_doomed _ _ := Actor.Under.weaken
  base_of_chosen _ _ := Actor.Under.weaken
  selectCancelled := lists_selectCancelled other
  selectExhausted := lists_selectExhausted _ other
  deadLetter _ _ member := keeps_transition (List.mem_map_of_mem member)
  selectCandidates := lists_selectCandidates _ other
  deliver _ _ member := keeps_listed member

/-! The control thread. -/

theorem controlActor : ControlActor env (loner N .control) where
  steps _ _ _ _ step := step.1
  runtime w w' rely := by
    have stable : (loner N .control).Stable fun w' => SameRuntime w w' := by
      apply Actor.stable_member
      intro t op w₁ answer w₂ other step law h
      refine (sameRuntime_of_step step.1 ?_).trans h
      rintro runtime rfl
      have mine := law.1
      cases t with
      | control => exact other rfl
      | _ => cases mine
    exact stable w w' rfl rely

theorem harmless_of_unaddressed (op : BridgeOp) (unaddressed : op.unaddressed) :
    Harmless (ownReadsExec env) (IsolationLaw N) SameRuntime op := by
  rintro w answer w' ⟨step, own⟩
  refine ⟨⟨trivial, apart_of_unaddressed unaddressed own⟩, sameRuntime_of_step step ?_⟩
  rintro runtime rfl
  exact unaddressed

theorem keeps_unaddressed (calls : p.Calls BridgeOp.unaddressed) :
    (loner N .control).Keeps (Leaves N known) p :=
  keeps_apart (calls.mono fun _ unaddressed => ⟨trivial, apart_of_unaddressed unaddressed⟩)

theorem keeps_op (op : BridgeOp) (unaddressed : op.unaddressed) :
    (loner N .control).Keeps (Leaves N known) (Prog.perform op : Bridge op.Answer) :=
  keeps_unaddressed (Prog.calls_perform unaddressed)

theorem keeps_captures (calls : p.Calls BridgeOp.captures) :
    (loner N .control).Keeps (Leaves N known) p :=
  keeps_unaddressed (calls.mono fun _ => unaddressed_of_captures)

/-- A transaction of the control thread for its own reader. -/
theorem keeps_store (op : StoreOp) (issued : op.Issued)
    (avoids : known → op.Avoids N.device N.rows) :
    (loner N .control).Keeps (Leaves N known) (store op) := by
  apply Actor.Triple.keeps
  apply controlDiscipline.triple_perform (.store op) (Q := fun _ _ => known) lasts_known
    (fun _ => lasts_known) (fun _ => stable_leaves)
  · exact fun _ h => ⟨trivial, issued, avoids h.2⟩
  · exact fun _ _ _ h _ => h.2
  · exact fun _ _ _ h _ after => ⟨after, h.2⟩

/-- A change of the runtime, which keeps its reader. -/
theorem triple_moves {change : LocalReaderRuntime → Except PyException LocalReaderRuntime}
    (code : ∀ runtime runtime', change runtime = .ok runtime' →
      runtime'.readerCode = runtime.readerCode) :
    (loner N .control).Triple (Leaves N known)
      (updateRuntime (FinalWorkerCycle.collaborators env.device) change) (fun _ => Leaves N known)
      fun exc w => Leaves N known w ∧
        (exc.isException = true → ∃ runtime, change runtime = .error exc) :=
  triple_change controlActor controlDiscipline lasts_known lasts_known
    (harmless_of_unaddressed .readRuntime trivial) (fun _ _ _ _ _ => id)
    (fun _ _ h changed => ⟨trivial, (code _ _ changed).trans h.1.code⟩) fun _ _ _ h _ _ => h.2

theorem keeps_moves {change : LocalReaderRuntime → Except PyException LocalReaderRuntime}
    (code : ∀ runtime runtime', change runtime = .ok runtime' →
      runtime'.readerCode = runtime.readerCode) :
    (loner N .control).Keeps (Leaves N known)
      (updateRuntime (FinalWorkerCycle.collaborators env.device) change) :=
  ((triple_moves code).conseq (fun _ => id) (fun _ _ => id) fun _ _ => And.left).keeps

theorem keeps_markReaderStopped : (loner N .control).Keeps (Leaves N known)
    (updateRuntime (FinalWorkerCycle.collaborators env.device)
      LocalReaderRuntime.markReaderStopped) := by
  apply keeps_moves
  intro runtime runtime' marked
  simp only [LocalReaderRuntime.markReaderStopped, guard_eq_ok, Except.ok.injEq] at marked
  obtain ⟨-, rfl⟩ := marked
  rfl

end

section
variable {env : BridgeEnv} {N : Neighbour env} {command : OdooRFIDCommand}

/-- The command is for the own reader. -/
abbrev Mine (N : Neighbour env) (command : OdooRFIDCommand) : World → Prop :=
  Leaves N (command.readerCode = env.device.code)

theorem keeps_startReader : (loner N .control).Keeps (Mine N command)
    (startReader (FinalWorkerCycle.collaborators env.device) command) := by
  apply Actor.keeps_bind stable_leaves (keeps_captures (captures_start _ _))
  intro _
  apply Actor.keeps_bind stable_leaves
  · apply keeps_moves
    intro runtime runtime' marked
    simp only [LocalReaderRuntime.markReaderStarted, guard_eq_ok, Except.ok.injEq] at marked
    obtain ⟨-, -, rfl⟩ := marked
    rfl
  · exact fun _ => keeps_captures (captures_startCapture _ _)

/-- The reader code of a session that is finished is the command's. -/
theorem avoids_of_mine (mine : command.readerCode = env.device.code) :
    strip command.readerCode ≠ N.device.code := by
  rw [command.strip_readerCode, mine]
  exact N.code_ne

theorem keeps_cancel : (loner N .control).Keeps (Mine N command)
    ((FinalWorkerCycle.collaborators env.device).cancelLocalSession command.sessionKey
      command.readerCode) :=
  Actor.keeps_bind stable_leaves
    (keeps_store (.cancelLocalSession _ _) trivial avoids_of_mine)
    fun _ => Actor.keeps_ret stable_leaves _

theorem keeps_stopReader : (loner N .control).Keeps (Mine N command)
    (stopReader (FinalWorkerCycle.collaborators env.device) command) := by
  apply Actor.keeps_bind stable_leaves (keeps_captures (captures_stopCapture _ _))
  intro _
  apply Actor.keeps_bind stable_leaves (keeps_captures (captures_stop _ _))
  intro _
  apply Actor.keeps_bind stable_leaves keeps_markReaderStopped
  intro _
  apply Actor.keeps_bind stable_leaves (keeps_captures (captures_drainPendingTags _ _))
  intro _
  exact Actor.keeps_bind stable_leaves
    (keeps_store (.closeLocalSession _ _) trivial avoids_of_mine)
    fun _ => Actor.keeps_ret stable_leaves _

theorem keeps_abortReader : (loner N .control).Keeps (Mine N command)
    (abortReader (FinalWorkerCycle.collaborators env.device) command) := by
  apply Actor.keeps_bind stable_leaves (keeps_captures (captures_stopCapture _ _))
  intro _
  apply Actor.keeps_bind stable_leaves (keeps_captures captures_isActive)
  intro active
  apply Actor.keeps_bind stable_leaves
  · split
    · exact keeps_captures (captures_stop _ _)
    · exact keeps_captures captures_verifyIdle
  intro _
  apply Actor.keeps_bind stable_leaves keeps_markReaderStopped
  intro _
  apply Actor.keeps_bind stable_leaves (keeps_captures (captures_drainPendingTags _ _))
  intro _
  apply Actor.keeps_handle keeps_cancel
  intro outcome
  cases outcome with
  | ok _ => exact Actor.keeps_ret stable_leaves _
  | error exc =>
      dsimp only
      split
      · exact Actor.keeps_ret stable_leaves _
      · exact Actor.keeps_raise stable_leaves _

theorem keeps_emergencyStop : (loner N .control).Keeps (Mine N command)
    (emergencyStop (FinalWorkerCycle.collaborators env.device) command) := by
  apply Actor.keeps_bind stable_leaves (keeps_captures (captures_stopCapture _ _))
  intro _
  apply Actor.keeps_bind stable_leaves (keeps_captures (captures_stop _ _))
  exact fun _ => keeps_captures (captures_drainPendingTags _ _)

theorem keeps_successAck {known : Prop} : (loner N .control).Keeps (Leaves N known)
    (sendCompletedSuccessAck (FinalWorkerCycle.collaborators env.device) command) :=
  keeps_unaddressed (calls_sendCompletedSuccessAck env.device command (fun _ _ => trivial) trivial)

theorem triple_degrade (message : String) : (loner N .control).Triple (Mine N command)
    (updateRuntime (FinalWorkerCycle.collaborators env.device)
      fun runtime => runtime.markDegraded message)
    (fun _ => Leaves N True) (Escapes (Leaves N True)) := by
  refine (triple_moves ?_).conseq (fun _ => id) (fun _ _ => Actor.Under.weaken)
    fun _ _ h => escapes_of_change (fun _ _ => LocalReaderRuntime.markDegraded_eq_error)
      h.1.weaken h.2
  intro runtime runtime' marked
  simp only [LocalReaderRuntime.markDegraded, guard_eq_ok, Except.ok.injEq] at marked
  obtain ⟨-, rfl⟩ := marked
  rfl

theorem triple_complete : (loner N .control).Triple (Mine N command)
    (updateRuntime (FinalWorkerCycle.collaborators env.device)
      fun runtime => runtime.markCommandCompleted command)
    (fun _ => Leaves N True) (Escapes (Leaves N True)) := by
  refine (triple_moves ?_).conseq (fun _ => id) (fun _ _ => Actor.Under.weaken)
    fun _ _ h => escapes_of_change (fun _ _ => LocalReaderRuntime.markCommandCompleted_eq_error)
      h.1.weaken h.2
  intro runtime runtime' marked
  simp only [LocalReaderRuntime.markCommandCompleted, guard_eq_ok, Except.ok.injEq] at marked
  obtain ⟨-, -, rfl⟩ := marked
  rfl

/-- A runtime that is written over one of the same reader. -/
theorem triple_writes {runtime written : LocalReaderRuntime} {known : Prop}
    (code : written.readerCode = runtime.readerCode)
    (told : runtime.readerCode = env.device.code → known) :
    (loner N .control).Triple (Actor.Under (Isolated N) fun w => w.runtime = runtime)
      (Prog.perform (BridgeOp.writeRuntime written)) (fun _ => Leaves N known)
      (Interrupts (Leaves N True)) := by
  apply controlDiscipline.triple_perform (.writeRuntime written) (Q := fun _ _ => known)
  · exact fun w w' same h => same.trans h
  · exact fun _ => lasts_known
  · exact fun exc w w' h rely => ⟨stable_leaves w w' h.1 rely, h.2⟩
  · rintro w ⟨isolated, rfl⟩
    exact ⟨trivial, code.trans isolated.code⟩
  · rintro w _ _ ⟨isolated, rfl⟩ _
    exact told isolated.code
  · intro w exc w' _ step isolated
    obtain ⟨rfl, -⟩ := step.1.interrupted rfl
    exact ⟨⟨isolated, trivial⟩, rfl⟩

/-- A command that is planned is for the reader of the runtime. -/
theorem triple_begins {runtime : LocalReaderRuntime} {transition : RuntimeTransition}
    (mine : command.readerCode = runtime.readerCode)
    (plan : runtime.planNew command = .ok transition) :
    (loner N .control).Triple (Actor.Under (Isolated N) fun w => w.runtime = runtime)
      (Prog.perform (BridgeOp.writeRuntime transition.after)) (fun _ => Mine N command)
      (Escapes (Leaves N True)) := by
  have after : transition.after.readerCode = runtime.readerCode := by
    rw [LocalReaderRuntime.planNew_eq_ok plan]
    rfl
  exact (triple_writes after mine.trans).conseq (fun _ => id) (fun _ _ => id)
    fun _ _ h => CommandContract.escapes_of_interrupt h.2 h.1

/-- Every part of process_command leaves the neighbour alone. -/
def commandContract (N : Neighbour env) (command : OdooRFIDCommand) :
    CommandContract (loner N .control) (FinalWorkerCycle.collaborators env.device) command where
  entered := Leaves N True
  knows runtime := Actor.Under (Isolated N) fun w => w.runtime = runtime
  ready := Leaves N True
  cut := Leaves N True
  begun := Mine N command
  synchronized _ := Mine N command
  startFailed _ := Mine N command
  failed := Mine N command
  done := Mine N command
  completed := Leaves N True
  stable_ready := stable_leaves
  stable_cut := stable_leaves
  stable_startFailed _ := stable_leaves
  stable_failed := stable_leaves
  ready_of_knows _ _ := Actor.Under.weaken
  readEntered := by
    refine (triple_readRuntime controlActor stable_leaves ?_).conseq (fun _ => id)
      (fun _ _ h => ⟨h.1.1, h.2⟩) fun _ _ h => CommandContract.escapes_of_interrupt h.2 h.1
    intro w answer w' h step
    have law : IsolationLaw N .control .readRuntime w := ⟨trivial, trivial⟩
    exact ⟨⟨_, answer, step, law⟩, isolated_of_step law step h.1, trivial⟩
  readReady := (triple_quiet controlActor controlDiscipline lasts_known .readRuntime
    (harmless_of_unaddressed _ trivial) rfl).conseq (fun _ => id) (fun _ _ => id)
    fun _ _ h => CommandContract.escapes_of_interrupt h.2 h.1
  failureAck message := (triple_ignoring stable_leaves (keeps_op (.ack _) trivial)).conseq
    (fun _ => id) (fun _ _ => id) fun _ _ h => CommandContract.escapes_of_interrupt h.2 h.1
  resend runtime _ := (CommandContract.fails_of_keeps keeps_successAck fun _ => id).conseq
    (fun _ => Actor.Under.weaken) (fun _ _ => id) fun _ _ => id
  begins _ _ _ mine plan := triple_begins mine plan
  synchronize _ := by
    apply CommandContract.fails_of_keeps _ fun _ => Actor.Under.weaken
    apply keeps_store (.synchronizeStartCommand command) trivial
    rintro mine
    rw [StoreOp.Avoids, mine]
    exact N.code_ne
  startReader _ _ := CommandContract.fails_of_keeps keeps_startReader fun _ => Actor.Under.weaken
  readerIsActive _ := (triple_isActive controlActor controlDiscipline lasts_known
    (harmless_of_unaddressed _ trivial) (harmless_of_unaddressed _ trivial)).conseq (fun _ => id)
    (fun _ _ => id) fun _ _ h => CommandContract.escapes_of_interrupt h.2 h.1.weaken
  emergencyStop _ :=
    CommandContract.fails_of_keeps keeps_emergencyStop fun _ => Actor.Under.weaken
  cancelCreated _ _ := CommandContract.fails_of_keeps keeps_cancel fun _ => Actor.Under.weaken
  degradeStart _ message := triple_degrade message
  stopReader _ := CommandContract.fails_of_keeps keeps_stopReader fun _ => Actor.Under.weaken
  abortReader _ := CommandContract.fails_of_keeps keeps_abortReader fun _ => Actor.Under.weaken
  degrade message := triple_degrade message
  completes := triple_complete
  successAck := CommandContract.fails_of_keeps keeps_successAck fun _ => id

theorem unaddressed_of_between {op : BridgeOp} (between : op.betweenCommands = true) :
    op.unaddressed := by
  cases op with
  | store _ => cases between
  | writeRuntime _ => cases between
  | _ => trivial

theorem triple_keeps {α : Type} {p : Bridge α} {E : PyException → World → Prop}
    (keeps : (loner N .control).Keeps (Leaves N True) p)
    (fails : ∀ exc w, Leaves N True w → E exc w) :
    (loner N .control).Triple (Leaves N True) p (fun _ => Leaves N True) E :=
  keeps.triple.conseq (fun _ => id) (fun _ _ => id) fails

theorem keeps_markReaderVerifiedIdle : (loner N .control).Keeps (Leaves N True)
    (markReaderVerifiedIdle (FinalWorkerCycle.collaborators env.device)) := by
  apply Actor.Triple.keeps
  refine Actor.Triple.seq (fun _ => stable_leaves)
    (Q := fun runtime w => Leaves N True w ∧ w.runtime = runtime) ?_ ?_
  · refine (triple_readRuntime controlActor stable_leaves ?_).conseq (fun _ => id) (fun _ _ => id)
      fun _ _ h => h.1
    intro w answer w' h step
    have law : IsolationLaw N .control .readRuntime w := ⟨trivial, trivial⟩
    exact ⟨⟨_, answer, step, law⟩, isolated_of_step law step h.1, trivial⟩
  intro runtime
  split
  · exact fun _ h => Actor.Sat.raise fun w' rely => stable_leaves _ w' h.1 rely
  · refine (triple_writes ?_ fun _ => trivial).conseq (fun w h => ⟨h.1.1, h.2⟩) (fun _ _ => id)
      fun _ _ h => h.1
    rfl

/-- The command of the worker leaves the neighbour alone. -/
def controlContract (N : Neighbour env) : WorkerContract (loner N .control) env where
  inCommand := commandContract N
  booting := Leaves N True
  verified := Leaves N True
  clean := Leaves N True
  waiting := Leaves N True
  stopped := Leaves N True
  stable_booting := stable_leaves
  stable_waiting := stable_leaves
  stable_stopped := stable_leaves
  stopped_of_waiting _ := id
  stopped_of_cut _ _ := id
  verifyIdle := triple_keeps (keeps_captures captures_verifyIdle) fun _ _ _ => trivial
  countActiveSessions := (keeps_unaddressed (Prog.calls_perform (by trivial))).triple.conseq
    (fun _ => id) (fun _ _ h _ => h) fun _ _ _ => trivial
  markReaderVerifiedIdle := triple_keeps keeps_markReaderVerifiedIdle fun _ _ _ => trivial
  between op between := keeps_op op (unaddressed_of_between between)
  enters command := triple_keeps (keeps_op (.commandEntered command) trivial)
    fun _ _ h => ⟨h, fun _ => h⟩
  returns command := triple_keeps (keeps_op (.commandReturned command) trivial)
    fun _ _ h => ⟨h, fun _ => h⟩
  safeShutdownReader := (keeps_captures captures_safeShutdownReader).triple.conseq
    (fun _ => id) (fun _ _ _ => trivial) fun _ _ _ => trivial

/-- Whatever body a thread starts, it leaves the neighbour alone. -/
theorem keeps_body {t : Thread} (p : Bridge Unit) (body : OthersBody env N.device t p) :
    (loner N t).Keeps (Leaves N True) p := by
  obtain ⟨body, others⟩ := body
  have belongs := belongs_of_body t p body
  cases body with
  | capture n =>
      exact keeps_apart ((belongs.mono fun op mine => ⟨mine, apart_of_unaddressed
        (unaddressed_of_captures (captures_of_polls mine))⟩))
  | delivery n settings =>
      obtain ⟨settings', same, other⟩ := others n rfl
      rw [same]
      exact (workerContract N n settings' other).deliveryCycle
  | reader =>
      refine keeps_apart (belongs.mono fun op mine => ⟨mine, ?_⟩)
      cases mine
      exact fun _ => trivial

end

section
variable {env : BridgeEnv} {settings : CommandSettings} {device : ReaderDevice}
  {c₀ c : BridgePool}

theorem bridgeSteps (run : Pool.Steps (bridgeExec env) (OthersBody env device) c₀ c) :
    BridgeSteps env c₀ c := by
  refine Relation.ReflTransGen.mono (fun c c' step => ?_) _ _ run
  cases step with
  | call code ex => exact .call code ex
  | begin code chosen => exact .begin code chosen.1

/-- Each step of a run ingests for the reader of the process. -/
theorem ownReads_of_run (started : Started env settings c₀)
    (run : Pool.Steps (bridgeExec env) (OthersBody env device) c₀ c) :
    Pool.Steps (ownReadsExec env) (OthersBody env device) c₀ c := by
  induction run with
  | refl => exact .refl
  | tail before step ih =>
      refine .tail ih ?_
      cases step with
      | @call t op next answer w' code ex =>
          have calls := ingestsFor_of_run started (bridgeSteps before) t
          rw [code] at calls
          exact .call code ⟨ex, (Prog.calls_call.mp calls).1⟩
      | begin code chosen => exact .begin code chosen

end
end ReaderIsolation

/-- In every run of a process whose delivery workers are not set up for a reader, and that is
not this reader's process, the rows of the reader stay as they are. -/
theorem readers_apart {env : BridgeEnv} {settings : CommandSettings} {c₀ c : BridgePool}
    {since : Nat} {device : ReaderDevice} (started : Started env settings c₀)
    (keys : StoreKeys since c₀.state.db) (known : c₀.state.db.deviceOf device.id = some device)
    (other : device.code ≠ env.device.code)
    (run : Pool.Steps (bridgeExec env) (OthersBody env device) c₀ c) :
    c.state.db.rowsOf device.id = c₀.state.db.rowsOf device.id := by
  have apart : env.device.id ≠ device.id := by
    obtain ⟨-, -, named⟩ := deviceOf_of_enabledReader keys.devices started.registered
    exact id_ne_of_enabledReader keys.devices known started.registered
      (named ▸ other.symm)
  let N : Neighbour env :=
    { device, rows := c₀.state.db.rowsOf device.id, since, id_ne := apart, code_ne := other.symm }
  have init : Isolated N c₀.state := ⟨keys, known, by rw [started.runtime, offlineRuntime], rfl⟩
  have sound : c₀.Sound (ReaderIsolation.loner N) fun t _ w => t ≠ .control → Isolated N w := by
    intro t
    by_cases main : t = .control
    · subst main
      rw [started.control]
      exact ((ReaderIsolation.controlContract N).handle env.py settings c₀.state
        ⟨init, trivial⟩).mono fun _ _ _ other => absurd rfl other
    · rw [started.idle t main]
      exact Actor.Sat.ret fun w rely _ =>
        (ReaderIsolation.stable_leaves _ _ ⟨init, trivial⟩ rely : ReaderIsolation.Leaves N True w).1
  have kept : Isolated N c.state := by
    refine Pool.invariant_steps Actor.compatible_member
      ?_ ?_ (ReaderIsolation.ownReads_of_run started run) sound init
    · intro t p w body isolated
      have own : t ≠ .control := by
        rintro rfl
        cases body.1
      exact (ReaderIsolation.keeps_body p body w ⟨isolated own, trivial⟩).mono
        fun _ _ after _ => after.1
    rintro t _ w _ w' - ⟨op, answer, step, law⟩ isolated
    exact ReaderIsolation.isolated_of_step law step isolated
  exact kept.rows

namespace Installation

/-- The reader of another process. -/
def neighbour : ReaderDevice :=
  { id := 2, code := "GATE-2", host := "10.0.0.6", enabled := true }

/-- An event of the other reader waits for delivery. -/
def sharedStore : Database where
  devices := [reader, neighbour]
  sessions := Table.empty.insert fun id =>
    { id, externalSessionKey := "S7", deviceId := 2, operationType := .receipt, odooRecordId := 0 }
  events := Table.empty.insert fun id =>
    { id, deviceId := 2, rfidSessionId := some 1, readerEventKey := "final:S7",
      rawPayload := .text "", queueState := .queued, receivedAt := 0 }

def sharedPool : BridgePool := { pool with state := { world with db := sharedStore } }

theorem started_sharedPool : Started env settings sharedPool where
  control := by simp [sharedPool, pool]
  idle _ other := by simp [sharedPool, pool, other]
  registered := by decide +kernel
  runtime := rfl
  executor := rfl
  capture := rfl
  threads _ := rfl
  fresh := ⟨by simp [sharedPool, world], by simp [sharedPool, world]⟩
  quiet := rfl
  history := rfl

theorem storeKeys_sharedPool : StoreKeys 2 sharedPool.state.db where
  devices := by decide
  eventKeys := by decide
  sessionKeys := by decide
  oneActive := by decide
  created := by
    intro s member
    have older : ∀ s ∈ sharedPool.state.db.sessions.rows, ¬ 2 ≤ s.id := by decide
    exact fun later => absurd later (older s member)

end Installation

open Installation in
/-- The tag of the process is delivered beside the waiting event of the other reader. -/
theorem readers_apart_delivered : ∃ c,
    Pool.Steps (bridgeExec env) (OthersBody env neighbour) sharedPool c ∧
    c.state.db.events.rows.map (fun e => (e.deviceId, e.queueState)) = [(2, .queued), (1, .sent)] ∧
    c.state.db.rowsOf neighbour.id = sharedPool.state.db.rowsOf neighbour.id := by
  have seen : (runSchedule env deliverySettings session
      [(.control, 3), (.reader, 2), (.control, 20), (.reader, 2), (.control, 20), (.capture 0, 16),
        (.delivery 0, 7)] sharedPool).map (fun c => c.state.db.events.rows.map
          fun e => (e.deviceId, e.queueState)) = some [(2, .queued), (1, .sent)] := by
    decide +kernel
  obtain ⟨c, ran, same⟩ := Option.map_eq_some_iff.mp seen
  have bodies : ∀ t p, nextBody env deliverySettings t = some p → OthersBody env neighbour t p := by
    rintro t p chosen
    refine ⟨body_of_next t p chosen, ?_⟩
    rintro n rfl
    exact ⟨deliverySettings, (Option.some.inj chosen).symm, by decide +kernel⟩
  have run := Pool.steps_of_follow bridgeStep_of_respond bodies ran
  exact ⟨c, run, same, readers_apart started_sharedPool storeKeys_sharedPool (by decide +kernel)
    (by decide +kernel) run⟩

end RfidBridge
