import RfidBridge.Delivery.DeliveryCycle
import RfidBridge.Delivery.LedgerRefinement
import RfidBridge.Library.Pool

/-!
Any number of workers on one store: ingestion, assignment, delivery attempts and
both dead-letter passes, interleaved at every transaction. The ledger of each
event holds in every reachable state, and its final states are never left.
-/

namespace RfidBridge

/-- The limit that was passed by the start that opened an attempt. -/
structure StartRecord where
  attemptId : Nat
  maxDeliveryAttempts : Int
  deriving DecidableEq, Repr

/-- The store and, beside it, the record of the starts so far. -/
structure DeliveryState where
  db : Database
  starts : List StartRecord := []

def StoreOp.startRecords : (op : StoreOp) → op.Answer → List StartRecord
  | .startDeliveryAttempt _ _ maxDeliveryAttempts, started =>
      [⟨started.attemptId, maxDeliveryAttempts⟩]
  | _, _ => []

abbrev StoreProgram (α : Type) := Prog StoreOp StoreOp.Answer PyException α

abbrev DeliveryPool := Pool Nat StoreOp StoreOp.Answer PyException DeliveryState

/-- One operation of a worker: it commits, or it raises and changes nothing, for
its own reason or for one of the database's. -/
inductive DeliveryExec (sha : Sha256) :
    Pool.Exec Nat StoreOp StoreOp.Answer PyException DeliveryState
  | committed {worker op s now answer db'} : op.run sha now s.db = .ok (answer, db') →
      DeliveryExec sha worker op s (.ok answer) ⟨db', op.startRecords answer ++ s.starts⟩
  | rolledBack {worker op s exc} : DeliveryExec sha worker op s (.error exc) s

/-- Run a program for its effect; the worker survives what it raises. -/
def effectOf {α : Type} (p : StoreProgram α) : StoreProgram Unit :=
  p.handle fun _ => .ret ()

/-- What a worker may run, with any arguments. -/
inductive WorkerProgram : StoreProgram Unit → Prop
  | ingest (device : ReaderDevice) (reads : List TechnicalRFIDRead) :
      WorkerProgram (effectOf (Prog.forEach reads fun read =>
        Prog.perform (StoreOp.getOrCreateEvent device read)))
  | ingestFinal (device : ReaderDevice) (sessionKey : String) (frames : List RFIDFrame) :
      WorkerProgram (effectOf
        (Prog.perform (.ingestFinalActiveTagFrames device sessionKey frames)))
  | assign (eventId : Nat) :
      WorkerProgram (effectOf (Prog.perform (.assignEventToActiveSession eventId)))
  | start (eventId : Nat) (expectedState : QueueState) (maxDeliveryAttempts : Int) :
      WorkerProgram (effectOf
        (Prog.perform (.startDeliveryAttempt eventId expectedState maxDeliveryAttempts)))
  | complete (eventId attemptId : Nat) (outcome : Outcome)
      (responseCode errorKind detail : String) (initial maximum : Option Int) :
      WorkerProgram (effectOf (Prog.perform (.completeDeliveryAttempt eventId attemptId outcome
        responseCode errorKind detail initial maximum)))
  | deadLetterCancelled (readerCode : String) :
      WorkerProgram (effectOf (deadLetterCancelledSessionFinalEvents Prog.perform readerCode))
  | deadLetterExhausted (readerCode : String) (maxDeliveryAttempts : Int) :
      WorkerProgram (effectOf
        (deadLetterExhaustedFinalEvents Prog.perform readerCode maxDeliveryAttempts))
  | deliver (settings : DeliverySettings)
      (reply : Nat → Candidate → Except PyException DeliverySenderResult) :
      WorkerProgram (effectOf (runFinalDeliveryCycle Prog.perform
        (fun attemptId candidate => Prog.ofExcept (reply attemptId candidate)) settings))

section
variable {α : Type} {p : StoreProgram α}

theorem calls_effectOf (h : p.Calls StoreOp.Issued) : (effectOf p).Calls StoreOp.Issued :=
  Prog.calls_handle h fun _ => Prog.calls_pure _ _

section
variable {ι : Type} {ρ : ι → Type} {store : (op : StoreOp) → Prog ι ρ PyException op.Answer}
  {allowed : ι → Prop}
  (passes : ∀ op : StoreOp, op.Issued → op.deadLetters = true → (store op).Calls allowed)

theorem calls_requireReaderCode (readerCode : String) :
    (requireReaderCode readerCode : Prog ι ρ PyException String).Calls allowed := by
  unfold requireReaderCode
  split
  · exact Prog.calls_raise _ _
  · exact Prog.calls_pure _ _

theorem calls_requireMaxDeliveryAttempts (limit : Int) :
    (requireMaxDeliveryAttempts limit : Prog ι ρ PyException Unit).Calls allowed := by
  unfold requireMaxDeliveryAttempts
  split
  · exact Prog.calls_raise _ _
  · exact Prog.calls_pure _ _

include passes

theorem calls_deadLetterEach (selected : List (Nat × WaitingState)) :
    (deadLetterEach store selected).Calls allowed := by
  apply Prog.calls_bind
  · apply Prog.calls_forEach
    intro entry _
    apply Prog.calls_tryExcept
    · exact Prog.calls_bind (passes _ ⟨entry.2.property, rfl⟩ rfl) fun _ => Prog.calls_pure _ _
    · intro exc
      split
      · exact Prog.calls_pure _ _
      · exact Prog.calls_raise _ _
  · exact fun _ => Prog.calls_pure _ _

theorem calls_deadLetterCancelled (readerCode : String) :
    (deadLetterCancelledSessionFinalEvents store readerCode).Calls allowed := by
  apply Prog.calls_bind (calls_requireReaderCode readerCode)
  intro readerCode
  apply Prog.calls_bind (passes (.selectCancelled readerCode) trivial rfl)
  exact fun cancelled => calls_deadLetterEach passes cancelled

theorem calls_deadLetterExhausted (readerCode : String) (limit : Int) :
    (deadLetterExhaustedFinalEvents store readerCode limit).Calls allowed := by
  apply Prog.calls_bind (calls_requireMaxDeliveryAttempts limit)
  intro _
  apply Prog.calls_bind (calls_requireReaderCode readerCode)
  intro readerCode
  apply Prog.calls_bind (passes (.selectExhausted readerCode limit) trivial rfl)
  exact fun exhausted => calls_deadLetterEach passes _

omit passes in
theorem calls_selectFinalDeliveryCandidates
    (selects :
      ∀ readerCode batchSize, (store (.selectCandidates readerCode batchSize)).Calls allowed)
    (readerCode : String) (batchSize : Int) :
    (selectFinalDeliveryCandidates store readerCode batchSize).Calls allowed := by
  unfold selectFinalDeliveryCandidates
  split
  · exact Prog.calls_raise _ _
  · exact Prog.calls_bind (calls_requireReaderCode _) fun _ => selects _ _

section
variable {settings : DeliverySettings}
  {sendEvent : Nat → Candidate → Prog ι ρ PyException DeliverySenderResult}
  (selects : ∀ readerCode batchSize, (store (.selectCandidates readerCode batchSize)).Calls allowed)
  (starts : ∀ eventId expectedState limit,
    (store (.startDeliveryAttempt eventId expectedState limit)).Calls allowed)
  (completes : ∀ eventId attemptId outcome responseCode errorKind detail,
    (store (.completeDeliveryAttempt eventId attemptId outcome responseCode errorKind detail
      (some settings.retryInitialSeconds) (some settings.retryMaxSeconds))).Calls allowed)
  (sends : ∀ attemptId candidate, (sendEvent attemptId candidate).Calls allowed)
include starts completes sends

omit passes in
theorem calls_processDeliveryCandidate (candidate : Candidate) :
    (processDeliveryCandidate store sendEvent settings candidate).Calls allowed := by
  apply Prog.calls_bind (starts candidate.event.id candidate.event.queueState
    settings.maxDeliveryAttempts)
  intro started
  apply Prog.calls_bind
  · apply Prog.calls_tryExcept (sends _ _)
    intro exc
    split
    · exact Prog.calls_pure _ _
    · exact Prog.calls_raise _ _
  · intro sent
    apply Prog.calls_bind (completes _ _ _ _ _ _)
    exact fun _ => Prog.calls_pure _ _

omit passes in
theorem calls_deliverCandidate (candidate : Candidate) :
    (deliverCandidate store sendEvent settings candidate).Calls allowed := by
  apply Prog.calls_tryExcept
  · apply Prog.calls_bind (calls_processDeliveryCandidate starts completes sends candidate)
    exact fun _ => Prog.calls_pure _ _
  · intro exc
    split
    · exact Prog.calls_pure _ _
    · exact Prog.calls_raise _ _

include selects

theorem calls_runFinalDeliveryCycle :
    (runFinalDeliveryCycle store sendEvent settings).Calls allowed := by
  apply Prog.calls_bind (calls_requireMaxDeliveryAttempts _)
  intro _
  apply Prog.calls_bind (calls_deadLetterCancelled passes _)
  intro _
  apply Prog.calls_bind (calls_deadLetterExhausted passes _ _)
  intro _
  apply Prog.calls_bind (calls_selectFinalDeliveryCandidates selects _ _)
  intro candidates
  apply Prog.calls_bind
  · exact Prog.calls_forEach fun candidate _ =>
      calls_deliverCandidate starts completes sends candidate
  · exact fun _ => Prog.calls_pure _ _

end
end

theorem calls_perform_of_issued (op : StoreOp) (issued : op.Issued) (_ : op.deadLetters = true) :
    (Prog.perform op : StoreProgram op.Answer).Calls StoreOp.Issued :=
  Prog.calls_perform issued

/-- Nothing a worker runs makes a queue transition other than to DEAD. -/
theorem WorkerProgram.calls {p : StoreProgram Unit} (h : WorkerProgram p) :
    p.Calls StoreOp.Issued := by
  cases h with
  | ingest device reads =>
      exact calls_effectOf (Prog.calls_forEach fun _ _ => Prog.calls_perform trivial)
  | ingestFinal | assign | start | complete => exact calls_effectOf (Prog.calls_perform trivial)
  | deadLetterCancelled readerCode =>
      exact calls_effectOf (calls_deadLetterCancelled calls_perform_of_issued readerCode)
  | deadLetterExhausted readerCode limit =>
      exact calls_effectOf (calls_deadLetterExhausted calls_perform_of_issued readerCode limit)
  | deliver settings reply =>
      exact calls_effectOf (calls_runFinalDeliveryCycle calls_perform_of_issued
        (fun _ _ => Prog.calls_perform trivial) (fun _ _ _ => Prog.calls_perform trivial)
        (fun _ _ _ _ _ _ => Prog.calls_perform trivial) fun _ _ => Prog.calls_ofExcept _ _)

end

/-- A step of the pool: one transaction of a worker, or its choice of a program. -/
abbrev DeliveryStep (sha : Sha256) : DeliveryPool → DeliveryPool → Prop :=
  Pool.Step (DeliveryExec sha) fun _ => WorkerProgram

abbrev DeliverySteps (sha : Sha256) : DeliveryPool → DeliveryPool → Prop :=
  Relation.ReflTransGen (DeliveryStep sha)

/-- Fresh events, no attempts, and workers that have not begun. -/
structure FreshDelivery (c : DeliveryPool) : Prop where
  unassigned : ∀ e ∈ c.state.db.events.rows, e.queueState = .unassigned
  noAttempts : c.state.db.attempts.rows = []
  noStarts : c.state.starts = []
  idle : ∀ worker, c.code worker = .ret ()

/-- The ledger of one event. -/
structure EventLedger (db : Database) (e : RawRFIDEvent) : Prop where
  numbered : (db.attemptsOf e.id).map (·.attemptNumber) =
    List.range' 1 (db.attemptsOf e.id).length
  retriedBefore : ∀ a ∈ (db.attemptsOf e.id).dropLast, a.outcome = .retry
  inflight_iff : e.queueState = .inflight ↔
    ∃ a ∈ (db.attemptsOf e.id).getLast?, a.outcome = .started
  started : ∀ a ∈ db.attemptsOf e.id, a.outcome = .started → e.queueState = .inflight
  fresh : e.queueState = .unassigned ∨ e.queueState = .queued → db.attemptsOf e.id = []
  retry : e.queueState = .retry →
    ∃ a ∈ (db.attemptsOf e.id).getLast?, a.outcome = .retry ∧ a.nextRetryAt.isSome
  sent : e.queueState = .sent → ∃ a ∈ (db.attemptsOf e.id).getLast?, a.outcome = .sent
  rejected : e.queueState = .rejected →
    ∃ a ∈ (db.attemptsOf e.id).getLast?, a.outcome = .rejected
  completed_iff : ∀ a ∈ db.attemptsOf e.id, a.completedAt.isSome ↔ a.outcome ≠ .started
  scheduled_iff : ∀ a ∈ db.attemptsOf e.id, a.nextRetryAt.isSome ↔ a.outcome = .retry

/-- Every attempt was opened by a start whose limit its number respects. -/
structure StartsRespectLimits (s : DeliveryState) : Prop where
  recorded : ∀ a ∈ s.db.attempts.rows, ∃ r ∈ s.starts, r.attemptId = a.id
  within : ∀ a ∈ s.db.attempts.rows, ∀ r ∈ s.starts, r.attemptId = a.id →
    (a.attemptNumber : Int) ≤ r.maxDeliveryAttempts
  below : ∀ r ∈ s.starts, r.attemptId < s.db.attempts.nextKey

namespace Ledger
variable {state : QueueState} {last : Option DeliveryAttempt}

/-- What the last attempt of an event says about it. -/
theorem facts_of_last (h : LastAttempt state last) :
    (state = .inflight ↔ ∃ a ∈ last, a.outcome = .started) ∧
    (state = .unassigned ∨ state = .queued → last = none) ∧
    (state = .retry → ∃ a ∈ last, a.outcome = .retry ∧ a.nextRetryAt.isSome) ∧
    (state = .sent → ∃ a ∈ last, a.outcome = .sent) ∧
    (state = .rejected → ∃ a ∈ last, a.outcome = .rejected) ∧
    (∀ a ∈ last, a.completedAt.isSome ↔ a.outcome ≠ .started) ∧
    (∀ a ∈ last, a.nextRetryAt.isSome ↔ a.outcome = .retry) := by
  cases h with
  | unassigned | queued | undelivered => simp
  | inflight started completed next => simp [started, completed, next]
  | retry retried => simp [retried.1, retried.2.1, retried.2.2]
  | exhausted retried => simp [retried.1, retried.2.1, retried.2.2]
  | ended target notRetry completed next =>
      generalize hout : DeliveryAttempt.outcome _ = outcome at target
      cases outcome <;> cases target <;> simp_all

end Ledger

theorem eventLedger_of_ledger {db : Database} {e : RawRFIDEvent}
    (h : Ledger e.queueState (db.attemptsOf e.id)) : EventLedger db e := by
  obtain ⟨numbered, retried, last⟩ := h.shape
  obtain ⟨inflight, fresh, retry, sent, rejected, completed, scheduled⟩ :=
    Ledger.facts_of_last last
  -- an attempt is closed and retried, or it is the last one
  have cases_ : ∀ a ∈ db.attemptsOf e.id, Retried a ∨ a ∈ (db.attemptsOf e.id).getLast? := by
    intro a member
    rcases List.eq_nil_or_concat (db.attemptsOf e.id) with empty | ⟨front, b, split⟩
    · simp [empty] at member
    · rw [List.concat_eq_append] at split
      rw [split, List.dropLast_concat] at retried
      rw [split] at member ⊢
      rcases List.mem_append.mp member with early | final
      · exact .inl (retried a early)
      · right
        rw [List.getLast?_concat, List.mem_singleton.mp final]
        rfl
  refine ⟨numbered, fun a ha => (retried a ha).1, inflight, ?_, ?_, retry, sent, rejected, ?_, ?_⟩
  · intro a member started
    rcases cases_ a member with closed | isLast
    · rw [closed.1] at started
      cases started
    · exact inflight.mpr ⟨a, isLast, started⟩
  · exact fun waiting => List.getLast?_eq_none_iff.mp (fresh waiting)
  · intro a member
    rcases cases_ a member with closed | isLast
    · simp [closed.1, closed.2.1]
    · exact completed a isLast
  · intro a member
    rcases cases_ a member with closed | isLast
    · simp [closed.1, closed.2.2]
    · exact scheduled a isLast

/-- An edit closes attempts in place: it opens none and renumbers none. -/
theorem Edit.attempts_stay {scope : EditScope} {db db' : Database} (h : Edit scope db db') :
    db'.attempts.nextKey = db.attempts.nextKey ∧
    ∀ a' ∈ db'.attempts.rows, ∃ a ∈ db.attempts.rows,
      a.id = a'.id ∧ a.attemptNumber = a'.attemptNumber := by
  cases h with
  | completeAttempt event attempt outcome target responseCode errorKind detail now next =>
      refine ⟨rfl, ?_⟩
      intro a' ha'
      rcases (Table.mem_update db.attempts attempt.id (closeAttempt outcome responseCode
        errorKind detail now next) (fun _ => rfl) a').mp ha' with ⟨old, _⟩ | ⟨a, old, _, rfl⟩
      · exact ⟨a', old, rfl, rfl⟩
      · exact ⟨a, old, rfl, rfl⟩
  | _ => exact ⟨rfl, fun a' ha' => ⟨a', ha', rfl, rfl⟩⟩

theorem Edits.attempts_stay {scope : EditScope} {db db' : Database} (h : Edits scope db db') :
    db'.attempts.nextKey = db.attempts.nextKey ∧
    ∀ a' ∈ db'.attempts.rows, ∃ a ∈ db.attempts.rows,
      a.id = a'.id ∧ a.attemptNumber = a'.attemptNumber := by
  induction h with
  | refl => exact ⟨rfl, fun a' ha' => ⟨a', ha', rfl, rfl⟩⟩
  | tail _ step ih =>
      obtain ⟨key, stay⟩ := step.attempts_stay
      refine ⟨key.trans ih.1, ?_⟩
      intro a' ha'
      obtain ⟨b, hb, id, number⟩ := stay a' ha'
      obtain ⟨a, ha, id', number'⟩ := ih.2 b hb
      exact ⟨a, ha, id'.trans id, number'.trans number⟩

/-- An event in a final state is there to stay. -/
def FinalStatesStay (db db' : Database) : Prop :=
  ∀ e ∈ db.events.rows, e.queueState.Terminal →
    ∃ e' ∈ db'.events.rows, e'.id = e.id ∧ e'.queueState = e.queueState

theorem finalStatesStay_refl (db : Database) : FinalStatesStay db db :=
  fun e he _ => ⟨e, he, rfl, rfl⟩

theorem finalStatesStay_trans {db₁ db₂ db₃ : Database} (first : FinalStatesStay db₁ db₂)
    (second : FinalStatesStay db₂ db₃) : FinalStatesStay db₁ db₃ := by
  intro e he final
  obtain ⟨e', he', id, same⟩ := first e he final
  obtain ⟨e'', he'', id', same'⟩ := second e' he' (same ▸ final)
  exact ⟨e'', he'', id'.trans id, same'.trans same⟩

/-- A change of one event that is not in a final state leaves the final states. -/
theorem finalStatesStay_update {db : Database} {event : RawRFIDEvent}
    (change : RawRFIDEvent → RawRFIDEvent) (keeps : ∀ e, Keyed.key (change e) = Keyed.key e)
    (member : event ∈ db.events.rows) (moving : ¬ event.queueState.Terminal) :
    FinalStatesStay db { db with events := db.events.update event.id change keeps } := by
  intro e he final
  refine ⟨e, (Table.mem_update _ _ _ keeps _).mpr (.inl ⟨he, ?_⟩), rfl, rfl⟩
  intro same
  rw [db.events.eq_of_key_eq he member same] at final
  exact moving final

theorem Edit.finalStatesStay {scope : EditScope} {db db' : Database} (h : Edit scope db db') :
    FinalStatesStay db db' := by
  cases h with
  | openSession | finishSession => exact finalStatesStay_refl _
  | addEvent row keyed =>
      exact fun e he _ => ⟨e, (Table.mem_insert _ _ keyed _).mpr (.inl he), rfl, rfl⟩
  | assignEvent event session member unassigned =>
      exact finalStatesStay_update _ _ member (by simp [unassigned, QueueState.terminal_iff])
  | completeAttempt event attempt outcome target responseCode errorKind detail now next member
      inflight =>
      exact finalStatesStay_update (fun e => { e with queueState := target }) (fun _ => rfl)
        member (by simp [inflight, QueueState.terminal_iff])
  | deadLetter event member waiting =>
      apply finalStatesStay_update _ _ member
      rcases waiting with h | h <;> simp [h, QueueState.terminal_iff]

theorem finalStatesStay_openAttempt {db : Database} {event : RawRFIDEvent} {now : Timestamp}
    (member : event ∈ db.events.rows)
    (waiting : event.queueState = .queued ∨ event.queueState = .retry) :
    FinalStatesStay db (db.openAttempt event.id now) := by
  apply finalStatesStay_update (fun e => { e with queueState := .inflight }) (fun _ => rfl) member
  rcases waiting with h | h <;> simp [h, QueueState.terminal_iff]

/-- What holds in every state of the delivery pool. -/
structure DeliveryInvariant (s : DeliveryState) : Prop where
  store : StoreLedger s.db
  limits : StartsRespectLimits s

theorem startsRespectLimits_run {sha : Sha256} {now : Timestamp} {s : DeliveryState}
    {db' : Database} {op : StoreOp} {answer : op.Answer} (issued : op.Issued)
    (h : op.run sha now s.db = .ok (answer, db')) (inv : StartsRespectLimits s) :
    StartsRespectLimits ⟨db', op.startRecords answer ++ s.starts⟩ := by
  by_cases quiet : op.opensAttempt = false
  · obtain ⟨key, stay⟩ := Edits.attempts_stay (op.run_edits issued quiet h)
    have same : op.startRecords answer = [] := by
      cases op <;> first | rfl | cases quiet
    rw [same]
    refine ⟨?_, ?_, fun r hr => key ▸ inv.below r hr⟩
    · intro a' ha'
      obtain ⟨a, ha, id, -⟩ := stay a' ha'
      exact id ▸ inv.recorded a ha
    · intro a' ha' r hr mine
      obtain ⟨a, ha, id, number⟩ := stay a' ha'
      exact number ▸ inv.within a ha r hr (mine.trans id.symm)
  · cases op with
    | startDeliveryAttempt eventId expectedState maxDeliveryAttempts =>
        obtain ⟨-, within, attemptId, -, rfl⟩ := startDeliveryAttempt_eq_ok h
        refine ⟨?_, ?_, ?_⟩
        · intro a ha
          rcases (Database.mem_insertAttempt _ _ _ _ a).mp ha with old | rfl
          · obtain ⟨r, hr, same⟩ := inv.recorded a old
            exact ⟨r, List.mem_cons_of_mem _ hr, same⟩
          · exact ⟨_, List.mem_cons_self .., attemptId⟩
        · intro a ha r hr same
          rcases (Database.mem_insertAttempt _ _ _ _ a).mp ha with old | rfl
          · rcases List.mem_cons.mp hr with rfl | earlier
            · have := s.db.attempts.below a old
              simp only [key_attempt] at this
              simp only [attemptId] at same
              omega
            · exact inv.within a old r earlier same
          · rcases List.mem_cons.mp hr with rfl | earlier
            · exact within
            · have := inv.below r earlier
              simp only [Database.setQueueState] at same
              omega
        · intro r hr
          show r.attemptId < s.db.attempts.nextKey + 1
          rcases List.mem_cons.mp hr with rfl | earlier
          · simp only [attemptId]
            omega
          · have := inv.below r earlier
            omega
    | _ => exact absurd rfl quiet

/-- One transaction of a worker keeps the invariant and every final state. -/
theorem deliveryInvariant_exec {sha : Sha256} {worker : Nat} {op : StoreOp}
    {s s' : DeliveryState} {answer : Except PyException op.Answer} (issued : op.Issued)
    (h : DeliveryExec sha worker op s answer s') (inv : DeliveryInvariant s) :
    DeliveryInvariant s' ∧ FinalStatesStay s.db s'.db := by
  cases h with
  | rolledBack => exact ⟨inv, finalStatesStay_refl _⟩
  | committed ran =>
      refine ⟨⟨inv.store.run issued ran, startsRespectLimits_run issued ran inv.limits⟩, ?_⟩
      exact StoreOp.run_relation finalStatesStay_refl finalStatesStay_trans Edit.finalStatesStay
        finalStatesStay_openAttempt issued ran

/-- In every state that any number of workers reach, the ledger of every event
holds, every attempt respects the limit of the start that opened it, and an event
in a final state keeps it in every later state. -/
theorem delivery_ledger (sha : Sha256) {c c' c'' : DeliveryPool} (init : FreshDelivery c)
    (run : DeliverySteps sha c c') (later : DeliverySteps sha c' c'') :
    (∀ e ∈ c'.state.db.events.rows, EventLedger c'.state.db e) ∧
    StartsRespectLimits c'.state ∧ FinalStatesStay c'.state.db c''.state.db := by
  have bodies : ∀ (_ : Nat) p, WorkerProgram p → p.Calls StoreOp.Issued := fun _ _ h => h.calls
  have within : c.Within fun _ => StoreOp.Issued :=
    fun worker => init.idle worker ▸ Prog.calls_pure _ _
  have keeps : ∀ (worker : Nat) op s answer s', StoreOp.Issued op →
      DeliveryExec sha worker op s answer s' → DeliveryInvariant s →
      DeliveryInvariant s' ∧ FinalStatesStay s.db s'.db :=
    fun _ _ _ _ _ issued ex inv => deliveryInvariant_exec issued ex inv
  have start : DeliveryInvariant c.state := by
    refine ⟨.of_fresh init.noAttempts init.unassigned, ?_⟩
    refine ⟨?_, ?_, ?_⟩
    · simp [init.noAttempts]
    · simp [init.noAttempts]
    · simp [init.noStarts]
  obtain ⟨within', inv⟩ := Pool.invariant_of_allowed bodies
    (fun worker op s answer s' issued ex inv => (keeps worker op s answer s' issued ex inv).1)
    within start run
  refine ⟨fun e he => eventLedger_of_ledger (inv.store.ledger e he), inv.limits, ?_⟩
  exact Pool.relation_of_allowed (T := fun s s' => FinalStatesStay s.db s'.db) bodies keeps
    (fun s => finalStatesStay_refl s.db) (fun _ _ _ => finalStatesStay_trans) within' inv later

/-- A worker that is free can run one transaction to its commit. -/
theorem deliverySteps_of_run (sha : Sha256) {c : DeliveryPool} {s : DeliveryState} (worker : Nat)
    {op : StoreOp} (now : Timestamp) {answer : op.Answer} {db' : Database}
    (may : WorkerProgram (effectOf (Prog.perform op)))
    (at_ : c.state = s ∧ ∀ worker, c.code worker = .ret ())
    (ran : op.run sha now s.db = .ok (answer, db')) :
    ∃ c', DeliverySteps sha c c' ∧ c'.state = ⟨db', op.startRecords answer ++ s.starts⟩ ∧
      ∀ worker, c'.code worker = .ret () := by
  obtain ⟨rfl, free⟩ := at_
  let begun : DeliveryPool :=
    ⟨c.state, Function.update c.code worker (effectOf (Prog.perform op))⟩
  have chosen : DeliveryStep sha c begun := .begin (free worker) may
  have called : DeliveryStep sha begun ⟨⟨db', op.startRecords answer ++ c.state.starts⟩,
      Function.update begun.code worker (.ret ())⟩ :=
    Pool.Step.call (c := begun) (t := worker) (Function.update_self ..)
      (DeliveryExec.committed ran)
  refine ⟨_, (Relation.ReflTransGen.single chosen).tail called, rfl, ?_⟩
  intro other
  by_cases same : other = worker
  · subst same
    exact Function.update_self ..
  · simp only [begun, Function.update_of_ne same]
    exact free other

/-- One reader with an active session and one event that nobody has assigned. -/
def oneEventStore : Database where
  devices := [{ id := 1, code := "GATE-1", enabled := true }]
  sessions := (Table.empty : Table RFIDSession).insert fun id =>
    { id, externalSessionKey := "S1", deviceId := 1, operationType := .receipt, odooRecordId := 0 }
  events := (Table.empty : Table RawRFIDEvent).insert fun id =>
    { id, deviceId := 1, readerEventKey := "tag", rawPayload := .text "", receivedAt := 0 }

/-- One worker assigns the event, another opens its attempt, a third closes it. -/
theorem delivery_ledger_three_workers : ∃ c' c'' : DeliveryPool,
    c'.state.starts = [⟨1, 3⟩] ∧ c''.state.db.events.rows.map (·.queueState) = [.sent] ∧
    (∀ e ∈ c'.state.db.events.rows, EventLedger c'.state.db e) ∧
    StartsRespectLimits c'.state ∧ FinalStatesStay c'.state.db c''.state.db := by
  let sha : Sha256 :=
    ⟨plainUtf8, fun _ => zeros, fun _ => length_zeros, fun _ => hex_zeros⟩
  let c : DeliveryPool := ⟨⟨oneEventStore, []⟩, fun _ => .ret ()⟩
  have at₀ : c.state = ⟨oneEventStore, []⟩ ∧ ∀ worker, c.code worker = .ret () :=
    ⟨rfl, fun _ => rfl⟩
  obtain ⟨c₁, assigned, at₁⟩ := deliverySteps_of_run sha 0 0 (.assign 1) at₀ rfl
  obtain ⟨c₂, started, at₂⟩ := deliverySteps_of_run sha 1 5 (.start 1 .queued 3) at₁ rfl
  obtain ⟨c₃, completed, at₃⟩ := deliverySteps_of_run sha 2 9
    (.complete 1 1 .sent "accepted" "" "" none none) at₂ rfl
  refine ⟨c₂, c₃, by rw [at₂.1]; rfl, by rw [at₃.1]; rfl, ?_⟩
  apply delivery_ledger sha (c := c) _ (assigned.trans started) completed
  exact ⟨by simp [c, oneEventStore, Table.insert, Table.empty], rfl, rfl, fun _ => rfl⟩

end RfidBridge
