import RfidBridge.Delivery.SettledCycles

/-!
The queue and the batch cycle of delivery_cycle.py, with nobody beside it. The selection
looks at the state of an event and at its retry time; the limit on attempts is checked only
when a selected event is started.
-/

namespace RfidBridge
open Database

structure BatchDeliveryCycleResult where
  selectedCount : Nat
  processedCount : Nat
  sentCount : Nat
  retryCount : Nat
  rejectedCount : Nat
  deadCount : Nat
  failedCount : Nat
  deriving DecidableEq, Repr

/-- The query of select_delivery_candidates, in its order. -/
def Database.selectDeliveryCandidates (db : Database) (batchSize : Nat) (now : Timestamp) :
    List Candidate :=
  let eligible := db.events.rows.filter fun e =>
    e.queueState == .queued || (e.queueState == .retry && db.retryIsDue now e)
  ((eligible.mergeSort receivedBefore).take batchSize).map fun e =>
    ⟨e, db.deviceOf e.deviceId, db.sessionOf e⟩

inductive BatchOp
  | store (op : StoreOp)
  | selectDeliveryCandidates (batchSize : Nat)

abbrev BatchOp.Answer : BatchOp → Type
  | .store op => op.Answer
  | .selectDeliveryCandidates _ => List Candidate

section
variable {ι : Type} {ρ : ι → Type} (store : (op : StoreOp) → Prog ι ρ PyException op.Answer)
  (selects : Nat → Prog ι ρ PyException (List Candidate))
  (sendEvent : Nat → Candidate → Prog ι ρ PyException DeliverySenderResult)

def selectDeliveryCandidates (batchSize : Int) : Prog ι ρ PyException (List Candidate) :=
  if batchSize < 1 then
    .raise ⟨.valueError, "Delivery candidate batch size must be at least 1."⟩
  else
    selects batchSize.toNat

def requireBatchSettings (settings : DeliverySettings) : Prog ι ρ PyException Unit :=
  if settings.batchSize < 1 then
    .raise ⟨.valueError, "Delivery batch size must be at least 1."⟩
  else if settings.maxDeliveryAttempts < 1 then
    .raise ⟨.valueError, "Maximum delivery attempts must be at least 1."⟩
  else if settings.retryInitialSeconds < 1 then
    .raise ⟨.valueError, "Initial retry delay must be at least 1 second."⟩
  else if settings.retryMaxSeconds < settings.retryInitialSeconds then
    .raise ⟨.valueError, "Maximum retry delay cannot be less than initial retry delay."⟩
  else
    .ret ()

/-- An outcome that no counter is for ends the cycle. -/
def countOutcome : Option Outcome → Prog ι ρ PyException (Option Outcome)
  | some outcome =>
      if outcome ∈ countedOutcomes then .ret (some outcome)
      else .raise ⟨.valueError, s!"Unsupported processed delivery outcome: {outcome.value}"⟩
  | none => .ret none

def deliverBatchCandidate (settings : DeliverySettings) (candidate : Candidate) :
    Prog ι ρ PyException (Option Outcome) := do
  let outcome ← deliverCandidate store sendEvent settings candidate
  countOutcome outcome

def batchResult (candidates : List Candidate) (outcomes : List (Option Outcome)) :
    BatchDeliveryCycleResult where
  selectedCount := candidates.length
  processedCount := outcomes.countP Option.isSome
  sentCount := outcomes.count (some .sent)
  retryCount := outcomes.count (some .retry)
  rejectedCount := outcomes.count (some .rejected)
  deadCount := outcomes.count (some .dead)
  failedCount := outcomes.count none

/-- run_batch_delivery_cycle, which serves all readers: it reads no reader code. -/
def runBatchDeliveryCycle (settings : DeliverySettings) :
    Prog ι ρ PyException BatchDeliveryCycleResult := do
  requireBatchSettings settings
  let candidates ← selectDeliveryCandidates selects settings.batchSize
  let outcomes ← Prog.forEach candidates (deliverBatchCandidate store sendEvent settings)
  pure (batchResult candidates outcomes)

end

abbrev BatchProgram (α : Type) := Prog BatchOp BatchOp.Answer PyException α

abbrev batchStore (op : StoreOp) : BatchProgram op.Answer := Prog.perform (BatchOp.store op)

/-- One batch cycle with a sender that makes of each candidate whatever it likes. -/
def batchDeliveryCycle (settings : DeliverySettings)
    (reply : Candidate → Except PyException DeliverySenderResult) :
    BatchProgram BatchDeliveryCycleResult :=
  runBatchDeliveryCycle batchStore
    (fun batchSize => Prog.perform (BatchOp.selectDeliveryCandidates batchSize))
    (fun _ candidate => Prog.ofExcept (reply candidate)) settings

def BatchOp.perform (sha : Sha256) (times : CycleTimes) :
    (op : BatchOp) → Database → Except PyException op.Answer × Database
  | .store op, db => op.perform sha times db
  | .selectDeliveryCandidates batchSize, db =>
      (.ok (db.selectDeliveryCandidates batchSize times.selection), db)

structure DeliverySettings.ValidBatch (settings : DeliverySettings) : Prop where
  batchSize : 1 ≤ settings.batchSize
  limit : 1 ≤ settings.maxDeliveryAttempts
  initial : 1 ≤ settings.retryInitialSeconds
  maximum : settings.retryInitialSeconds ≤ settings.retryMaxSeconds

/-- One call of run_batch_delivery_cycle: its settings, its times and its sender. -/
structure BatchCycle where
  settings : DeliverySettings
  times : CycleTimes
  reply : Candidate → Except PyException DeliverySenderResult

namespace BatchCycle
variable (cycle : BatchCycle)

def run (sha : Sha256) (db : Database) : Except PyException BatchDeliveryCycleResult × Database :=
  (batchDeliveryCycle cycle.settings cycle.reply).eval (BatchOp.perform sha cycle.times) db

def candidates (db : Database) : List Candidate :=
  db.selectDeliveryCandidates cycle.settings.batchSize.toNat cycle.times.selection

structure Uses (limit : Int) : Prop where
  valid : cycle.settings.ValidBatch
  limit : cycle.settings.maxDeliveryAttempts = limit

end BatchCycle

/-- The stores that the services and the permitted cycles with one limit on attempts reach. -/
inductive BatchStore (sha : Sha256) (limit : Int) (permitted : Database → BatchCycle → Prop) :
    Database → Prop
  | fresh {db : Database} : FreshStore db → BatchStore sha limit permitted db
  | service {db db' : Database} {op : StoreOp} {now : Timestamp} {answer : op.Answer} :
      BatchStore sha limit permitted db → op.isService = true →
      op.run sha now db = .ok (answer, db') → BatchStore sha limit permitted db'
  | cycle {db : Database} {cycle : BatchCycle} : BatchStore sha limit permitted db →
      cycle.Uses limit → permitted db cycle → BatchStore sha limit permitted (cycle.run sha db).2

/-- Every event of the queue can be started, whatever its time and the batch size. -/
def AllStartable (limit : Int) (db : Database) : Prop :=
  ∀ batchSize now, ∀ c ∈ db.selectDeliveryCandidates batchSize now, ∀ startedAt,
    ∃ answer, startDeliveryAttempt c.event.id c.event.queueState limit startedAt db = .ok answer

namespace BatchCycle
variable (cycle : BatchCycle)

/-- The candidates that a cycle comes to the end of, which a sender that is cut off stops. -/
def answered (db : Database) : List Candidate :=
  (cycle.candidates db).takeWhile fun c =>
    match cycle.reply c with
    | .ok _ => true
    | .error exc => exc.isException

/-- The answer for a candidate can be recorded. -/
abbrev Records (utf8 : Utf8) (db : Database) (c : Candidate) : Prop :=
  Recordable utf8 cycle.settings ((db.attemptsOf c.event.id).length + 1)
    (cycle.times.completed c.event.id) (recordedResult (cycle.reply c))

/-- No answer of this cycle is a RETRY for the last attempt of its event, and where nothing
cuts the cycle off every answer can be recorded. -/
structure Spares (utf8 : Utf8) (limit : Int) (db : Database) : Prop where
  retries : ∀ c ∈ cycle.answered db, cycle.Records utf8 db c →
    (recordedResult (cycle.reply c)).outcome = .retry →
      ((db.attemptsOf c.event.id).length + 1 : Int) < limit ∧
      (db.attemptsOf c.event.id).length + 1 < maxPositiveInteger
  records : (∀ c ∈ cycle.candidates db, ¬ SendCutOff (cycle.reply c)) →
    ∀ c ∈ cycle.candidates db, cycle.Records utf8 db c

end BatchCycle

section
variable {sha : Sha256} {times : CycleTimes} {db db' : Database} {settings : DeliverySettings}
  {limit : Int} {permitted : Database → BatchCycle → Prop} {cycle : BatchCycle}
  {reply : Candidate → Except PyException DeliverySenderResult}

theorem mem_selectDeliveryCandidates {batchSize : Nat} {now : Timestamp} {c : Candidate}
    (h : c ∈ db.selectDeliveryCandidates batchSize now) :
    c.event ∈ db.events.rows ∧
      (c.event.queueState = .queued ∨
        c.event.queueState = .retry ∧ db.retryIsDue now c.event = true) := by
  obtain ⟨e, taken, rfl⟩ := List.mem_map.mp h
  obtain ⟨member, chosen⟩ := List.mem_filter.mp (List.mem_mergeSort.mp (List.mem_of_mem_take taken))
  simp only [Bool.or_eq_true, Bool.and_eq_true, beq_iff_eq] at chosen
  exact ⟨member, chosen⟩

/-- A batch as large as the store holds every event that is due. -/
theorem selectDeliveryCandidates_of_due {now : Timestamp} {e : RawRFIDEvent}
    (member : e ∈ db.events.rows) (retry : e.queueState = .retry)
    (due : db.retryIsDue now e = true) :
    ∃ c ∈ db.selectDeliveryCandidates db.events.rows.length now, c.event = e := by
  refine ⟨_, List.mem_map_of_mem (a := e) ?_, rfl⟩
  rw [List.take_of_length_le]
  · apply List.mem_mergeSort.mpr
    apply List.mem_filter.mpr
    exact ⟨member, by simp [retry, due]⟩
  · rw [List.length_mergeSort]
    exact List.length_filter_le _ _

theorem nodup_selectDeliveryCandidates (batchSize : Nat) (now : Timestamp) :
    ((db.selectDeliveryCandidates batchSize now).map (·.event.id)).Nodup := by
  simp only [Database.selectDeliveryCandidates, List.map_map, Function.comp_def]
  exact nodup_queue _ _ _

/-- An answer that is recorded has an outcome that is counted. -/
theorem sat_deliverBatchCandidate {c : Candidate} (member : c.event ∈ db.events.rows)
    (waiting : c.event.queueState = .queued ∨ c.event.queueState = .retry)
    (ledger : StoreLedger db) :
    (cycleAlone sha times).Sat
      (deliverBatchCandidate Prog.perform (fun _ candidate => Prog.ofExcept (reply candidate))
        settings c)
      (DeliveryEnds sha settings times db c (reply c)) db := by
  apply Actor.Sat.handle
  apply (sat_deliverCandidate member waiting ledger).mono
  intro outcome db' post
  cases outcome with
  | error exc =>
      apply Actor.Sat.raise
      rintro _ rfl
      exact post
  | ok outcome =>
      have counts : (countOutcome outcome : StoreProgram (Option Outcome)) = .ret outcome := by
        by_cases settles : Settles sha settings times db c (reply c)
        · rw [post.2.settled settles]
          exact if_pos (mem_countedOutcomes.mpr settles.recordable.outcome)
        · rw [post.2.failed settles]
          rfl
      show (cycleAlone sha times).Sat (countOutcome outcome) _ _
      rw [counts]
      exact sat_returned post

/-- The loop of a cycle. -/
def BatchCycle.loop (cycle : BatchCycle) (candidates : List Candidate) :
    StoreProgram (List (Option Outcome)) :=
  Prog.forEach candidates (deliverBatchCandidate Prog.perform
    (fun _ candidate => Prog.ofExcept (cycle.reply candidate)) cycle.settings)

theorem BatchCycle.translate_loop (candidates : List Candidate) :
    (cycle.loop candidates).translate batchStore =
      Prog.forEach candidates (deliverBatchCandidate batchStore
        (fun _ candidate => Prog.ofExcept (cycle.reply candidate)) cycle.settings) := by
  have counts : ∀ outcome, (countOutcome outcome : StoreProgram (Option Outcome)).translate
      batchStore = countOutcome outcome := by
    intro outcome
    cases outcome with
    | none => rfl
    | some outcome => simp only [countOutcome, Prog.translate_ite, Prog.translate_ret,
        Prog.translate_raise]
  rw [BatchCycle.loop, Prog.translate_forEach]
  congr 1
  funext c
  simp only [deliverBatchCandidate, Prog.translate_monadBind, translate_deliverCandidate,
    Prog.translate_perform, Prog.translate_ofExcept, counts]

/-- A cycle with valid settings is its selection and the loop over it. -/
theorem BatchCycle.run_eq (valid : cycle.settings.ValidBatch) :
    cycle.run sha db =
      match (cycle.loop (cycle.candidates db)).eval (StoreOp.perform sha cycle.times) db with
      | (.ok outcomes, db') => (.ok (batchResult (cycle.candidates db) outcomes), db')
      | (.error exc, db') => (.error exc, db') := by
  have accepted : (requireBatchSettings cycle.settings : BatchProgram Unit) = .ret () := by
    obtain ⟨batchSize, limit, initial, maximum⟩ := valid
    unfold requireBatchSettings
    rw [if_neg (Int.not_lt.mpr batchSize), if_neg (Int.not_lt.mpr limit),
      if_neg (Int.not_lt.mpr initial), if_neg (Int.not_lt.mpr maximum)]
  have ran := Prog.eval_translate batchStore (BatchOp.perform sha cycle.times)
    (cycle.loop (cycle.candidates db)) db
  rw [BatchCycle.translate_loop] at ran
  have stores : (fun op s => (batchStore op).eval (BatchOp.perform sha cycle.times) s) =
      StoreOp.perform sha cycle.times := by
    funext op s
    exact Prog.eval_perform _ (BatchOp.store op) s
  rw [stores] at ran
  unfold BatchCycle.run batchDeliveryCycle runBatchDeliveryCycle selectDeliveryCandidates
  rw [accepted, if_neg (Int.not_lt.mpr valid.batchSize)]
  refine (Prog.eval_bind _ (Prog.perform (BatchOp.selectDeliveryCandidates _)) _ db).trans ?_
  rw [Prog.eval_perform]
  refine (Prog.eval_bind _ (Prog.forEach (cycle.candidates db) _) _ db).trans ?_
  rw [ran]
  cases (cycle.loop (cycle.candidates db)).eval (StoreOp.perform sha cycle.times) db with
  | mk outcome db' => cases outcome <;> rfl

theorem BatchCycle.sat_loop (ledger : StoreLedger db) :
    (cycleAlone sha cycle.times).Sat (cycle.loop (cycle.candidates db))
      (Actor.ends
        (fun outcomes db' =>
          List.Forall₂ (fun c => Counted sha cycle.settings cycle.times db c (cycle.reply c))
            (cycle.candidates db) outcomes ∧
          Handled sha cycle.settings cycle.times cycle.reply (cycle.candidates db) db db')
        fun _ db' =>
          LoopCutOff sha cycle.settings cycle.times cycle.reply (cycle.candidates db) db db')
      db :=
  sat_forEachCandidate sat_deliverBatchCandidate (nodup_selectDeliveryCandidates _ _)
    (fun _ hc => (mem_selectDeliveryCandidates hc).1)
    (fun _ hc => (mem_selectDeliveryCandidates hc).2.imp_right And.left) ledger

theorem LoopCutOff.ledger {candidates : List Candidate}
    (h : LoopCutOff sha settings times reply candidates db db') : StoreLedger db' := by
  obtain ⟨_, c, _, db₁, -, handled, startable, -, rfl⟩ := h
  exact handled.ledger.opened startable.member startable.waiting

/-- What a cycle whose candidates can all be started leaves of the store. -/
structure BatchAccount (sha : Sha256) (cycle : BatchCycle) (db : Database)
    (outcome : Except PyException BatchDeliveryCycleResult) (db' : Database) : Prop where
  treated : ∀ c ∈ cycle.answered db,
    Treated sha cycle.settings cycle.times c (cycle.reply c) db db'
  retries : ∀ e ∈ db'.events.rows, e.queueState = .retry →
    (∀ c ∈ cycle.answered db, e.id ≠ c.event.id) →
      e ∈ db.events.rows ∧ db'.attemptsOf e.id = db.attemptsOf e.id
  counted : ∀ result, outcome = .ok result → ∃ outcomes,
    result = batchResult (cycle.candidates db) outcomes ∧
    List.Forall₂ (fun c => Counted sha cycle.settings cycle.times db c (cycle.reply c))
      (cycle.candidates db) outcomes
  raised : ∀ exc, outcome = .error exc → ∃ c ∈ cycle.candidates db, SendCutOff (cycle.reply c)

theorem BatchCycle.answered_of_uncut
    (uncut : ∀ c ∈ cycle.candidates db, ¬ SendCutOff (cycle.reply c)) :
    cycle.answered db = cycle.candidates db := by
  apply List.takeWhile_eq_self_iff.mpr
  intro c hc
  split
  · rfl
  · rename_i exc raises
    exact Bool.of_not_eq_false fun escapes => uncut c hc ⟨exc, raises, escapes⟩

theorem BatchCycle.answered_of_cut {before after : List Candidate} {c : Candidate}
    (split : cycle.candidates db = before ++ c :: after)
    (uncut : ∀ c ∈ before, ¬ SendCutOff (cycle.reply c)) (cut : SendCutOff (cycle.reply c)) :
    cycle.answered db = before := by
  obtain ⟨exc, raises, escapes⟩ := cut
  rw [BatchCycle.answered, split, List.takeWhile_append_of_pos, List.takeWhile_cons_of_neg,
    List.append_nil]
  · simp only [raises, escapes, Bool.false_eq_true, not_false_eq_true]
  · intro c' hc'
    split
    · rfl
    · rename_i exc raises
      exact Bool.of_not_eq_false fun escapes => uncut c' hc' ⟨exc, raises, escapes⟩

theorem batchAccount_of_startable (ledger : StoreLedger db) (valid : cycle.settings.ValidBatch)
    (startable : ∀ c ∈ cycle.candidates db, Startable cycle.settings db c.event) :
    BatchAccount sha cycle db (cycle.run sha db).1 (cycle.run sha db).2 := by
  have post := eval_post (@BatchCycle.sat_loop sha db cycle ledger)
  rw [BatchCycle.run_eq valid]
  revert post
  generalize (cycle.loop (cycle.candidates db)).eval (StoreOp.perform sha cycle.times) db = run
  obtain ⟨outcome, db'⟩ := run
  intro post
  cases outcome with
  | ok outcomes =>
      obtain ⟨counted, handled⟩ := post
      rw [← BatchCycle.answered_of_uncut fun c hc => handled.uncut c hc (startable c hc)] at handled
      refine ⟨handled.treated, ?_, ?_, nofun⟩
      · intro e he _ other
        have kept := handled.others e.id other
        exact ⟨(kept.rows e rfl).mp he, kept.attempts⟩
      · rintro _ ⟨⟩
        exact ⟨outcomes, rfl, counted⟩
  | error exc =>
      obtain ⟨before, c, after, db₁, split, handled, cutOff⟩ := post
      have listed : ∀ c' ∈ before, c' ∈ cycle.candidates db := fun c' hc' =>
        split ▸ List.mem_append_left _ hc'
      have here : c ∈ cycle.candidates db :=
        split ▸ List.mem_append_right _ (List.mem_cons_self ..)
      have distinct : ((cycle.candidates db).map (·.event.id)).Nodup :=
        nodup_selectDeliveryCandidates _ _
      rw [split, List.map_append, List.map_cons] at distinct
      have apart : ∀ c' ∈ before, c'.event.id ≠ c.event.id := fun c' hc' =>
        (List.nodup_append.mp distinct).2.2 _ (List.mem_map_of_mem hc') _ (List.mem_cons_self ..)
      have opened : db' = db₁.openAttempt c.event.id (cycle.times.started c.event.id) :=
        cutOff.opened
      have others : OthersUntouched c.event.id db₁ db' :=
        opened ▸ othersUntouched_openAttempt c.event.id _
      have answered : cycle.answered db = before := BatchCycle.answered_of_cut split
        (fun c' hc' => handled.uncut c' hc' (startable c' (listed c' hc'))) cutOff.cut
      rw [← answered] at handled apart
      refine ⟨fun c' hc' => (handled.treated c' hc').kept (others.untouched (apart c' hc')), ?_,
        nofun, fun _ _ => ⟨c, here, cutOff.cut⟩⟩
      intro e he retry other
      have elsewhere : e.id ≠ c.event.id := by
        intro same
        rw [opened] at he
        rcases (mem_setQueueState db₁ c.event.id .inflight e).mp he with ⟨-, apart⟩ | ⟨_, -, -, rfl⟩
        · exact apart same
        · cases retry
      have kept := (handled.others e.id other).trans (others.untouched elsewhere)
      exact ⟨(kept.rows e rfl).mp he, kept.attempts⟩

/-- Every event in RETRY has an attempt left. -/
def RetriesLeft (limit : Int) (db : Database) : Prop :=
  ∀ e ∈ db.events.rows, e.queueState = .retry →
    ((db.attemptsOf e.id).length : Int) < limit ∧ (db.attemptsOf e.id).length < maxPositiveInteger

theorem startable_of_retriesLeft {e : RawRFIDEvent} (ledger : StoreLedger db)
    (left : RetriesLeft settings.maxDeliveryAttempts db)
    (positive : 1 ≤ settings.maxDeliveryAttempts)
    (member : e ∈ db.events.rows) (waiting : e.queueState = .queued ∨ e.queueState = .retry) :
    Startable settings db e := by
  rcases waiting with queued | retry
  · have none := (eventLedger_of_ledger (ledger.ledger e member)).fresh (.inr queued)
    refine ⟨⟨member, .inl queued, ?_⟩, ?_⟩
    · rw [none]
      exact positive
    · rw [none]
      decide
  · obtain ⟨within, column⟩ := left e member retry
    exact ⟨⟨member, .inr retry, within⟩, column⟩

/-- The queue of a store can be started exactly while no event in RETRY is out of attempts. -/
theorem allStartable_iff (ledger : StoreLedger db) (positive : 1 ≤ limit) :
    AllStartable limit db ↔ RetriesLeft limit db := by
  let settings : DeliverySettings := ⟨"", 1, limit, 1, 1⟩
  constructor
  · intro startable e member retry
    obtain ⟨a, last, again, scheduled⟩ :=
      (eventLedger_of_ledger (ledger.ledger e member)).retry retry
    obtain ⟨next, planned⟩ := Option.isSome_iff_exists.mp scheduled
    have due : db.retryIsDue next e = true := by
      rw [retryIsDue, latestAttempt, (ledger.ledger e member).argmax_number, Option.mem_def.mp last]
      simp [again, planned]
    obtain ⟨c, listed, rfl⟩ := selectDeliveryCandidates_of_due member retry due
    have started : Startable settings db c.event :=
      (startDeliveryAttempt_isOk_iff member (.inr retry) ledger 0).mp (startable _ next c listed 0)
    exact ⟨started.within, started.column⟩
  · intro left batchSize now c hc startedAt
    obtain ⟨member, waiting⟩ := mem_selectDeliveryCandidates hc
    have waiting := waiting.imp_right And.left
    have started : Startable settings db c.event :=
      startable_of_retriesLeft ledger left positive member waiting
    exact (startDeliveryAttempt_isOk_iff member waiting ledger startedAt).mpr started

/-- An edit that closes no attempt leaves the events in RETRY and their attempts alone. -/
theorem Edit.retries_stay {scope : EditScope} (h : Edit scope db db')
    (quiet : ∀ event attempt outcome, ¬ scope.closes event attempt outcome) :
    db'.attempts = db.attempts ∧
      ∀ e ∈ db'.events.rows, e.queueState = .retry → e ∈ db.events.rows := by
  cases h with
  | openSession | finishSession => exact ⟨rfl, fun _ he _ => he⟩
  | addEvent row keyed _ _ fresh =>
      refine ⟨rfl, fun e he retry => ?_⟩
      rcases (Table.mem_insert _ _ keyed _).mp he with old | rfl
      · exact old
      · cases (fresh _).1.symm.trans retry
  | assignEvent event session =>
      refine ⟨rfl, fun e he retry => ?_⟩
      let assign (e : RawRFIDEvent) : RawRFIDEvent :=
        { e with rfidSessionId := some session.id, queueState := .queued }
      rcases (Table.mem_update db.events event.id assign (fun _ => rfl) e).mp he with
        ⟨old, -⟩ | ⟨_, -, -, rfl⟩
      · exact old
      · cases retry
  | completeAttempt _ _ _ _ _ _ _ _ _ _ _ _ _ _ _ _ closes => exact absurd closes (quiet _ _ _)
  | deadLetter event =>
      refine ⟨rfl, fun e he retry => ?_⟩
      rcases (mem_setQueueState db event.id .dead e).mp he with ⟨old, -⟩ | ⟨_, -, -, rfl⟩
      · exact old
      · cases retry

theorem RetriesLeft.edits {scope : EditScope} (h : Edits scope db db')
    (quiet : ∀ event attempt outcome, ¬ scope.closes event attempt outcome)
    (left : RetriesLeft limit db) : RetriesLeft limit db' := by
  induction h with
  | refl => exact left
  | tail _ step ih =>
      obtain ⟨attempts, stay⟩ := step.retries_stay quiet
      intro e he retry
      simp only [attemptsOf, attempts]
      exact ih e (stay e he retry) retry

theorem StoreOp.quiet_of_service {op : StoreOp} (service : op.isService = true) :
    op.Issued ∧ op.opensAttempt = false ∧
      ∀ event attempt outcome, ¬ op.scope.closes event attempt outcome := by
  cases op <;> first | exact ⟨trivial, rfl, fun _ _ _ => id⟩ | cases service

/-- A step of a run keeps the ledgers of the store. -/
theorem BatchStore.ledger (h : BatchStore sha limit permitted db) : StoreLedger db := by
  induction h with
  | fresh fresh => exact .of_fresh fresh.noAttempts fresh.unassigned
  | service _ service ran ih => exact ih.run (StoreOp.quiet_of_service service).1 ran
  | @cycle db cycle _ uses _ ih =>
      have post := eval_post (@BatchCycle.sat_loop sha db cycle ih)
      rw [BatchCycle.run_eq uses.valid]
      revert post
      generalize (cycle.loop (cycle.candidates db)).eval (StoreOp.perform sha cycle.times) db = run
      obtain ⟨outcome, db'⟩ := run
      intro post
      cases outcome with
      | ok _ => exact post.2.ledger
      | error _ => exact post.ledger

theorem BatchCycle.startable (uses : cycle.Uses limit) (ledger : StoreLedger db)
    (left : RetriesLeft limit db) :
    ∀ c ∈ cycle.candidates db, Startable cycle.settings db c.event := by
  obtain ⟨valid, rfl⟩ := uses
  intro c hc
  obtain ⟨member, waiting⟩ := mem_selectDeliveryCandidates hc
  exact startable_of_retriesLeft ledger left valid.limit member (waiting.imp_right And.left)

/-- A cycle that spares the last attempts leaves an attempt to every event in RETRY. -/
theorem RetriesLeft.after_cycle
    (account : BatchAccount sha cycle db (cycle.run sha db).1 (cycle.run sha db).2)
    (startable : ∀ c ∈ cycle.candidates db, Startable cycle.settings db c.event)
    (spares : cycle.Spares sha.toUtf8 limit db) (left : RetriesLeft limit db) :
    RetriesLeft limit (cycle.run sha db).2 := by
  intro e he retry
  by_cases other : ∀ c ∈ cycle.answered db, e.id ≠ c.event.id
  · obtain ⟨old, same⟩ := account.retries e he retry other
    rw [same]
    exact left e old retry
  · simp only [not_forall, not_not] at other
    obtain ⟨c, hc, same⟩ := other
    have ready := startable c (List.takeWhile_subset _ hc)
    have treated := account.treated c hc
    -- an answer that cannot be recorded leaves the event INFLIGHT
    have records : cycle.Records sha.toUtf8 db c := by
      by_contra refused
      obtain ⟨e', he', named, inflight, -⟩ := (treated.stranded_iff ready).mpr refused
      cases (cycle.run sha db).2.events.eq_of_key_eq he he' (same.trans named.symm)
      cases retry.symm.trans inflight
    obtain ⟨a, extended, -⟩ := treated.attempted ⟨ready, records⟩
    have moved := treated.moved ⟨ready, records⟩ e he same
    rw [retry] at moved
    have again : (recordedResult (cycle.reply c)).outcome = .retry := by
      generalize (recordedResult (cycle.reply c)).outcome = outcome at moved
      cases outcome <;> first | rfl | cases moved
    have spared := spares.retries c hc records again
    rw [same, extended, List.length_append, List.length_singleton]
    exact_mod_cast spared

/-- A cycle counts no failure where each of its candidates is settled. -/
theorem failedCount_eq_zero_iff {outcomes : List (Option Outcome)} {candidates : List Candidate}
    (counted :
      List.Forall₂ (fun c => Counted sha settings times db c (reply c)) candidates outcomes) :
    (batchResult candidates outcomes).failedCount = 0 ↔
      ∀ c ∈ candidates, Settles sha settings times db c (reply c) := by
  simp only [batchResult, List.count_eq_zero]
  induction counted with
  | nil => simp
  | @cons c outcome candidates outcomes first _ ih =>
      rw [List.mem_cons, not_or, List.forall_mem_cons]
      refine and_congr ⟨fun some_ => ?_, fun settles none => ?_⟩ ih
      · exact of_not_not fun unsettled => some_ (first.failed unsettled).symm
      · cases none.trans (first.settled settles)

theorem BatchStore.retriesLeft
    (spares : ∀ db cycle, BatchStore sha limit permitted db → cycle.Uses limit →
      permitted db cycle → cycle.Spares sha.toUtf8 limit db)
    (h : BatchStore sha limit permitted db) : RetriesLeft limit db := by
  induction h with
  | fresh fresh =>
      intro e he retry
      cases (fresh.unassigned e he).symm.trans retry
  | service reached service ran ih =>
      obtain ⟨issued, opens, quiet⟩ := StoreOp.quiet_of_service service
      exact ih.edits (StoreOp.run_edits issued opens ran) quiet
  | @cycle db cycle reached uses may ih =>
      have startable := BatchCycle.startable uses reached.ledger ih
      have account := @batchAccount_of_startable sha db cycle reached.ledger uses.valid startable
      exact RetriesLeft.after_cycle account startable (spares db cycle reached uses may) ih

/-- In every store of every run the queue can be started and no cycle counts a failure, exactly
when no cycle of any run records a RETRY for the last attempt of an event, or gets an answer
that cannot be recorded. -/
theorem batchQueue_unclogged_iff (positive : 1 ≤ limit) :
    (∀ db, BatchStore sha limit permitted db → AllStartable limit db ∧
      ∀ cycle : BatchCycle, cycle.Uses limit → permitted db cycle → ∀ result db',
        cycle.run sha db = (.ok result, db') → result.failedCount = 0) ↔
    ∀ db cycle, BatchStore sha limit permitted db → cycle.Uses limit → permitted db cycle →
      cycle.Spares sha.toUtf8 limit db := by
  constructor
  · intro unclogged db cycle reached uses may
    have left := (allStartable_iff reached.ledger positive).mp (unclogged db reached).1
    have startable := BatchCycle.startable uses reached.ledger left
    have account := @batchAccount_of_startable sha db cycle reached.ledger uses.valid startable
    have after := BatchStore.cycle reached uses may
    have left' := (allStartable_iff after.ledger positive).mp (unclogged _ after).1
    refine ⟨?_, ?_⟩
    · intro c hc records again
      have ready := startable c (List.takeWhile_subset _ hc)
      have treated := account.treated c hc
      obtain ⟨a, extended, -⟩ := treated.attempted ⟨ready, records⟩
      have mine : a ∈ (cycle.run sha db).2.attemptsOf c.event.id := by
        rw [extended]
        exact List.mem_append_right _ (List.mem_cons_self ..)
      obtain ⟨row, owner⟩ := mem_attemptsOf.mp mine
      obtain ⟨e, he, named⟩ := after.ledger.owned a row
      have moved := treated.moved ⟨ready, records⟩ e he (named.trans owner)
      rw [again] at moved
      have left := left' e he (Option.some.inj moved).symm
      rw [named, owner, extended, List.length_append, List.length_singleton] at left
      exact_mod_cast left
    · intro uncut c hc
      cases returned : cycle.run sha db with
      | mk outcome db' =>
      rw [returned] at account
      cases outcome with
      | error exc =>
          obtain ⟨c', hc', cut⟩ := account.raised exc rfl
          exact absurd cut (uncut c' hc')
      | ok result =>
          have counts := (unclogged db reached).2 cycle uses may result db' returned
          obtain ⟨outcomes, rfl, counted⟩ := account.counted result rfl
          exact ((failedCount_eq_zero_iff counted).mp counts c hc).recordable
  · intro spares db reached
    have left := reached.retriesLeft spares
    refine ⟨(allStartable_iff reached.ledger positive).mpr left, ?_⟩
    intro cycle uses may result db' returned
    have startable := BatchCycle.startable uses reached.ledger left
    have account := @batchAccount_of_startable sha db cycle reached.ledger uses.valid startable
    rw [returned] at account
    obtain ⟨outcomes, rfl, counted⟩ := account.counted result rfl
    have uncut : ∀ c ∈ cycle.candidates db, ¬ SendCutOff (cycle.reply c) := by
      intro c hc
      obtain ⟨i, inside, rfl⟩ := List.getElem_of_mem hc
      exact (counted.get inside (counted.length_eq ▸ inside)).uncut (startable _ hc)
    exact (failedCount_eq_zero_iff counted).mpr fun c hc =>
      ⟨startable c hc, (spares db cycle reached uses may).records uncut c hc⟩

end

/-! Two final events in one session, for batches of one event. -/

namespace TwoTags

def freshStore : Database :=
  { OneTag.freshStore with events := OneTag.freshStore.events.insert fun id =>
    { id, deviceId := 1, readerEventKey := "final:S1:E3", epc := "E3", rawPayload := .text "",
      receivedAt := 1 } }

def assigned (db : Database) (eventId : Nat) : Database := db.assignTo eventId 1

def queuedStore : Database := assigned (assigned freshStore 1) 2

theorem freshStore_fresh : FreshStore freshStore :=
  ⟨by simp [freshStore, OneTag.freshStore, Table.insert, Table.empty], rfl⟩

theorem reached_queuedStore {permitted : Database → BatchCycle → Prop} :
    BatchStore OneTag.sha 1 permitted queuedStore := by
  have first : (StoreOp.assignEventToActiveSession 1).run OneTag.sha 0 freshStore =
      .ok ((), assigned freshStore 1) := rfl
  have second : (StoreOp.assignEventToActiveSession 2).run OneTag.sha 0 (assigned freshStore 1) =
      .ok ((), queuedStore) := rfl
  exact .service (.service (.fresh freshStore_fresh) rfl first) rfl second

/-- The cycles whose sender has every event accepted. -/
def accepting (_ : Database) (cycle : BatchCycle) : Prop :=
  ∀ c, cycle.reply c = .ok ⟨.sent, "accepted", "", ""⟩

end TwoTags

open TwoTags in
theorem batchQueue_unclogged_iff_accepted :
    BatchStore OneTag.sha 1 accepting queuedStore ∧ AllStartable 1 queuedStore := by
  have spares : ∀ db cycle, BatchStore OneTag.sha 1 accepting db → cycle.Uses 1 →
      accepting db cycle → cycle.Spares plainUtf8 1 db := by
    intro db cycle _ _ accepted
    refine ⟨fun c _ _ again => ?_, fun _ c _ => ?_⟩
    · rw [accepted c] at again
      cases again
    · show Recordable _ _ _ _ (recordedResult (cycle.reply c))
      rw [accepted c]
      exact ⟨rfl, by decide, by decide, by decide, nofun⟩
  have unclogged := (batchQueue_unclogged_iff (by decide)).mpr spares
  exact ⟨reached_queuedStore, (unclogged queuedStore reached_queuedStore).1⟩

namespace TwoTags

/-- A batch of one event whose request Odoo refuses. -/
def cycle (selection : Timestamp) : BatchCycle where
  settings := ⟨"GATE-1", 1, 1, 30, 3600⟩
  times := ⟨selection, fun _ => selection, fun _ => selection⟩
  reply := OneTag.reply [("ok", .bool false)]

def firstOf (db : Database) : List Candidate :=
  (db.events.rows.take 1).map fun e => ⟨e, db.deviceOf e.deviceId, db.sessionOf e⟩

/-- A batch of one is the first event where both are due in their order. -/
theorem candidates_eq {selection : Timestamp} {db : Database}
    (due : ∀ e ∈ db.events.rows,
      (e.queueState == .queued ||
        (e.queueState == .retry && db.retryIsDue (cycle selection).times.selection e)) = true)
    (ordered : db.events.rows.Pairwise fun a b => receivedBefore a b = true) :
    (cycle selection).candidates db = firstOf db := by
  unfold BatchCycle.candidates Database.selectDeliveryCandidates
  simp only [List.filter_eq_self.mpr due, List.mergeSort_of_pairwise ordered]
  rfl

theorem uses (selection : Timestamp) : (cycle selection).Uses 1 :=
  ⟨⟨Int.le_refl 1, Int.le_refl 1, (by decide : (1 : Int) ≤ 30), (by decide : (30 : Int) ≤ 3600)⟩,
    rfl⟩

def retriedStore : Database :=
  (((cycle 0).loop (firstOf queuedStore)).eval (StoreOp.perform OneTag.sha (cycle 0).times)
    queuedStore).2

theorem run_queuedStore : ((cycle 0).run OneTag.sha queuedStore).2 = retriedStore := by
  rw [BatchCycle.run_eq (uses 0).valid, candidates_eq (by decide +kernel) (by decide +kernel)]
  unfold retriedStore
  cases ((cycle 0).loop (firstOf queuedStore)).eval (StoreOp.perform OneTag.sha (cycle 0).times)
    queuedStore with
  | mk outcome db => cases outcome <;> rfl

end TwoTags

open TwoTags in
/-- The first event goes to RETRY with its only attempt. When it is due again, the batch of one
selects it, fails to start it, and leaves the second event in the queue. -/
theorem batchQueue_clogged :
    BatchStore OneTag.sha 1 (fun _ _ => True) retriedStore ∧ ¬ AllStartable 1 retriedStore ∧
    (cycle 30000000).Uses 1 ∧ ∃ result db',
      (cycle 30000000).run OneTag.sha retriedStore = (.ok result, db') ∧
      result.selectedCount = 1 ∧ result.failedCount = 1 ∧
      ∃ e ∈ db'.events.rows, e.id = 2 ∧ e.queueState = .queued := by
  have chosen : (cycle 30000000).candidates retriedStore = firstOf retriedStore :=
    candidates_eq (by decide +kernel) (by decide +kernel)
  let loop := ((cycle 30000000).loop (firstOf retriedStore)).eval
    (StoreOp.perform OneTag.sha (cycle 30000000).times) retriedStore
  have outcomes : loop.1 = .ok [none] := by decide +kernel
  have waits : ∃ e ∈ loop.2.events.rows, e.id = 2 ∧ e.queueState = .queued := by decide +kernel
  have ran : (cycle 30000000).run OneTag.sha retriedStore =
      (.ok (batchResult (firstOf retriedStore) [none]), loop.2) := by
    have ended : ((cycle 30000000).loop ((cycle 30000000).candidates retriedStore)).eval
        (StoreOp.perform OneTag.sha (cycle 30000000).times) retriedStore =
          (.ok [none], loop.2) := by
      rw [chosen]
      exact run_of_outcome outcomes
    rw [BatchCycle.run_eq (uses _).valid, ended, chosen]
  have refused : ∃ c ∈ firstOf retriedStore,
      (startDeliveryAttempt c.event.id c.event.queueState 1 30000000 retriedStore).isOk =
        false := by
    decide +kernel
  refine ⟨?_, ?_, uses _, _, _, ran, rfl, rfl, waits⟩
  · exact run_queuedStore ▸ .cycle reached_queuedStore (uses 0) trivial
  · intro startable
    obtain ⟨c, listed, refused⟩ := refused
    rw [← chosen] at listed
    obtain ⟨answer, started⟩ := startable 1 30000000 c listed 30000000
    rw [started] at refused
    cases refused

end RfidBridge
