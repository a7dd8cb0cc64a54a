import RfidBridge.Delivery.DeliveryLedger
import RfidBridge.Library.Translation
import RfidBridge.Store.ClosedSessions
import Mathlib.Data.Prod.Lex

/-!
One cycle of a delivery worker with nobody beside it: the rules for its programs, the two
dead-letter passes, and what the selection behind them returns.
-/

namespace RfidBridge
open Database

/-- When a cycle executes its operations; it starts and completes an event at most once. -/
structure CycleTimes where
  selection : Timestamp
  started : Nat → Timestamp
  completed : Nat → Timestamp

def CycleTimes.of (times : CycleTimes) : StoreOp → Timestamp
  | .startDeliveryAttempt eventId _ _ => times.started eventId
  | .completeDeliveryAttempt eventId _ _ _ _ _ _ _ => times.completed eventId
  | _ => times.selection

/-- A transaction that commits, or raises and is rolled back. -/
def StoreOp.perform (sha : Sha256) (times : CycleTimes) (op : StoreOp) (db : Database) :
    Except PyException op.Answer × Database :=
  match op.run sha (times.of op) db with
  | .ok (answer, db') => (.ok answer, db')
  | .error exc => (.error exc, db)

/-- One cycle with a sender that makes of each candidate whatever it likes. -/
def finalDeliveryCycle (settings : DeliverySettings)
    (reply : Candidate → Except PyException DeliverySenderResult) :
    StoreProgram FinalDeliveryCycleResult :=
  runFinalDeliveryCycle Prog.perform (fun _ candidate => Prog.ofExcept (reply candidate)) settings

/-- The part of a cycle in front of its deliveries. -/
def selectForCycle (settings : DeliverySettings) : StoreProgram (List Candidate) := do
  requireMaxDeliveryAttempts settings.maxDeliveryAttempts
  let _ ← deadLetterCancelledSessionFinalEvents Prog.perform settings.readerCode
  let _ ← deadLetterExhaustedFinalEvents Prog.perform settings.readerCode
    settings.maxDeliveryAttempts
  selectFinalDeliveryCandidates Prog.perform settings.readerCode settings.batchSize

/-- A store of events that nobody has touched yet. -/
structure FreshStore (db : Database) : Prop where
  unassigned : ∀ e ∈ db.events.rows, e.queueState = .unassigned
  noAttempts : db.attempts.rows = []

section
variable {sha : Sha256} {times : CycleTimes} {db db' : Database} {α : Type}

/-- A cycle with nobody beside it. -/
abbrev cycleAlone (sha : Sha256) (times : CycleTimes) :
    Actor StoreOp StoreOp.Answer PyException Database :=
  .alone fun op db answer db' => op.perform sha times db = (answer, db')

theorem sat_perform {op : StoreOp} {Q : Except PyException op.Answer → Database → Prop}
    (h : Q (op.perform sha times db).1 (op.perform sha times db).2) :
    (cycleAlone sha times).Sat (Prog.perform op) Q db := by
  apply Actor.Sat.perform_alone
  intro answer db' done
  rw [done] at h
  exact h

/-- The postcondition of a part of a cycle that raises only where it is refused. -/
abbrev endsOr (refused : Prop) (Q : α → Database → Prop) :
    Except PyException α → Database → Prop :=
  Actor.ends Q fun _ _ => refused

/-- The postcondition of a cycle that returns; a cycle that raises promises nothing. -/
abbrev returning (Q : α → Database → Prop) : Except PyException α → Database → Prop :=
  endsOr True Q

theorem sat_then {β : Type} {p : StoreProgram α} {f : α → StoreProgram β} {P : α → Database → Prop}
    {Q : β → Database → Prop} {E : PyException → Database → Prop}
    (hp : (cycleAlone sha times).Sat p (Actor.ends P E) db)
    (hf : ∀ value db, P value db → (cycleAlone sha times).Sat (f value) (Actor.ends Q E) db) :
    (cycleAlone sha times).Sat (p.bind f) (Actor.ends Q E) db :=
  Actor.Sat.seq_alone hp hf

theorem sat_returned {value : α} {Q : α → Database → Prop} {E : PyException → Database → Prop}
    (h : Q value db) : (cycleAlone sha times).Sat (.ret value) (Actor.ends Q E) db :=
  Actor.Sat.ret_alone h

theorem sat_raised {exc : PyException} {Q : α → Database → Prop} {refused : Prop} (h : refused) :
    (cycleAlone sha times).Sat (.raise exc) (endsOr refused Q) db :=
  Actor.Sat.raise fun _ _ => h

theorem sat_refused {p : StoreProgram α} {Q : α → Database → Prop} {refused refused' : Prop}
    (h : (cycleAlone sha times).Sat p (endsOr refused Q) db) (weaker : refused → refused') :
    (cycleAlone sha times).Sat p (endsOr refused' Q) db := by
  apply h.mono
  intro outcome db' post
  cases outcome with
  | ok _ => exact post
  | error _ => exact weaker post

/-- What holds behind a program holds behind its run. -/
theorem eval_post {α : Type} {p : StoreProgram α} {Q : Except PyException α → Database → Prop}
    (h : (cycleAlone sha times).Sat p Q db) :
    Q (p.eval (StoreOp.perform sha times) db).1 (p.eval (StoreOp.perform sha times) db).2 :=
  (Prog.runs_eval (fun _ _ => rfl) db).post h

end

/-- After the dead-letter passes: rows that are not DEAD are as they were. -/
structure Narrowed (db db' : Database) : Prop where
  attempts : db'.attempts = db.attempts
  sessions : db'.sessions = db.sessions
  devices : db'.devices = db.devices
  rows : ∀ e ∈ db'.events.rows, e.queueState ≠ .dead → e ∈ db.events.rows

section
variable {sha : Sha256} {times : CycleTimes} {db db' db'' : Database}

theorem Narrowed.refl : Narrowed db db := ⟨rfl, rfl, rfl, fun _ he _ => he⟩

theorem Narrowed.trans (first : Narrowed db db') (second : Narrowed db' db'') :
    Narrowed db db'' where
  attempts := second.attempts.trans first.attempts
  sessions := second.sessions.trans first.sessions
  devices := second.devices.trans first.devices
  rows e he alive := first.rows e (second.rows e he alive) alive

theorem Narrowed.setDead (eventId : Nat) : Narrowed db (db.setQueueState eventId .dead) where
  attempts := rfl
  sessions := rfl
  devices := rfl
  rows e he alive := by
    rcases (mem_setQueueState db eventId .dead e).mp he with ⟨old, -⟩ | ⟨_, -, -, rfl⟩
    · exact old
    · exact absurd rfl alive

/-- A waiting event goes to DEAD. -/
theorem perform_deadLetter {e : RawRFIDEvent} (member : e ∈ db.events.rows)
    (waiting : e.queueState = .queued ∨ e.queueState = .retry) :
    (StoreOp.transitionEventQueueState e.id e.queueState .dead).perform sha times db =
      (.ok ⟨e.id, e.queueState, .dead⟩, db.setQueueState e.id .dead) := by
  have found : db.getEvent e.id = .ok e := getEvent_eq_ok.mpr ⟨member, rfl⟩
  have legal : validateQueueTransition e.queueState .dead = .ok () := by
    rw [validateQueueTransition_eq_ok]
    rcases waiting with h | h <;> rw [h] <;> decide
  have ran : transitionEventQueueState e.id e.queueState .dead db =
      .ok (⟨e.id, e.queueState, .dead⟩, db.setQueueState e.id .dead) := by
    simp only [transitionEventQueueState, found, bind, Except.bind, ne_eq, not_true, if_false,
      legal]
  simp only [StoreOp.perform, StoreOp.run, ran]

/-- A pass has moved the events that it hits to DEAD, and no others. -/
structure DeadLettered (hit : RawRFIDEvent → Prop) (db db' : Database) : Prop
    extends Narrowed db db' where
  ledger : StoreLedger db'
  dead : ∀ e ∈ db.events.rows, hit e →
    ∃ e' ∈ db'.events.rows, e'.id = e.id ∧ e'.queueState = .dead
  others : ∀ e ∈ db.events.rows, ¬ hit e → e ∈ db'.events.rows

namespace DeadLettered
variable {hit hit' : RawRFIDEvent → Prop}

theorem refl (ledger : StoreLedger db) : DeadLettered (fun _ => False) db db :=
  ⟨.refl, ledger, fun _ _ none => none.elim, fun _ he _ => he⟩

theorem trans (first : DeadLettered hit db db') (second : DeadLettered hit' db' db'') :
    DeadLettered (fun e => hit e ∨ hit' e) db db'' where
  toNarrowed := first.toNarrowed.trans second.toNarrowed
  ledger := second.ledger
  dead e he struck := by
    by_cases early : hit e
    · obtain ⟨e', he', same, dead⟩ := first.dead e he early
      by_cases again : hit' e'
      · obtain ⟨e'', he'', same', dead'⟩ := second.dead e' he' again
        exact ⟨e'', he'', same'.trans same, dead'⟩
      · exact ⟨e', second.others e' he' again, same, dead⟩
    · exact second.dead e (first.others e he early) (struck.resolve_left early)
  others e he spared :=
    second.others e (first.others e he fun h => spared (.inl h)) fun h => spared (.inr h)

theorem congr (h : DeadLettered hit db db') (same : ∀ e ∈ db.events.rows, hit e ↔ hit' e) :
    DeadLettered hit' db db' where
  toNarrowed := h.toNarrowed
  ledger := h.ledger
  dead e he struck := h.dead e he ((same e he).mpr struck)
  others e he spared := h.others e he fun struck => spared ((same e he).mp struck)

/-- An event that is not DEAD behind the pass is one that the pass has spared. -/
theorem rows_iff (h : DeadLettered hit db db') {e : RawRFIDEvent} (alive : e.queueState ≠ .dead) :
    e ∈ db'.events.rows ↔ e ∈ db.events.rows ∧ ¬ hit e := by
  constructor
  · intro he'
    have he := h.rows e he' alive
    refine ⟨he, fun struck => ?_⟩
    obtain ⟨e', member, same, dead⟩ := h.dead e he struck
    cases db'.events.eq_of_key_eq member he' same
    exact alive dead
  · exact fun ⟨he, spared⟩ => h.others e he spared

theorem attemptsOf (h : DeadLettered hit db db') (eventId : Nat) :
    db'.attemptsOf eventId = db.attemptsOf eventId := by
  simp only [Database.attemptsOf, h.attempts]

theorem hasReader (h : DeadLettered hit db db') (readerCode : String) (e : RawRFIDEvent) :
    db'.hasReader readerCode e = db.hasReader readerCode e := by
  simp only [Database.hasReader, deviceOf, h.devices]

theorem sessionOf (h : DeadLettered hit db db') (e : RawRFIDEvent) :
    db'.sessionOf e = db.sessionOf e := by
  simp only [Database.sessionOf, h.sessions]

theorem setDead {e : RawRFIDEvent} (ledger : StoreLedger db) (member : e ∈ db.events.rows)
    (waiting : e.queueState = .queued ∨ e.queueState = .retry) :
    DeadLettered (fun e' => e'.id = e.id) db (db.setQueueState e.id .dead) where
  toNarrowed := .setDead e.id
  ledger := ledger.edit (@Edit.deadLetter {} db e member waiting)
  dead e' he' same :=
    ⟨{ e' with queueState := .dead }, (mem_setQueueState ..).mpr (.inr ⟨e', he', same, rfl⟩), rfl,
      rfl⟩
  others _ he' other := (mem_setQueueState ..).mpr (.inl ⟨he', other⟩)

end DeadLettered

/-- The loop of a pass, which only another worker could make fail. -/
theorem sat_deadLetterEach {selected : List (Nat × WaitingState)}
    (distinct : (selected.map Prod.fst).Nodup)
    (rows : ∀ x ∈ selected, ∃ e ∈ db.events.rows, e.id = x.1 ∧ e.queueState = x.2.val)
    (ledger : StoreLedger db) :
    (cycleAlone sha times).Sat (deadLetterEach Prog.perform selected)
      (endsOr False fun _ db' =>
        DeadLettered (fun e => e.id ∈ selected.map Prod.fst) db db') db := by
  refine sat_then (P := fun _ db' => DeadLettered (fun e => e.id ∈ selected.map Prod.fst) db db') ?_
    fun _ _ done => sat_returned done
  induction selected generalizing db with
  | nil => exact sat_returned ((DeadLettered.refl ledger).congr fun e _ => by simp)
  | cons x selected ih =>
      obtain ⟨e, member, named, state⟩ := rows x (List.mem_cons_self ..)
      have waiting : e.queueState = .queued ∨ e.queueState = .retry := state ▸ x.2.property
      rw [List.map_cons, List.nodup_cons] at distinct
      have moved : (cycleAlone sha times).Sat
          (Prog.tryExcept
            (do
              let _ ← Prog.perform (StoreOp.transitionEventQueueState x.1 x.2.val .dead)
              pure true)
            fun exc => if exc.isValueError then pure false else .raise exc)
          (endsOr False fun _ db' => db' = db.setQueueState e.id .dead) db := by
        apply Actor.Sat.handle
        apply Actor.Sat.handle
        apply sat_perform
        rw [← named, ← state, perform_deadLetter member waiting]
        apply Actor.Sat.ret
        rintro _ rfl
        exact sat_returned rfl
      refine sat_then moved ?_
      rintro _ _ rfl
      have first := DeadLettered.setDead ledger member waiting
      have rest := ih distinct.2 ?_ first.ledger
      · refine sat_then rest ?_
        intro _ last later
        apply sat_returned
        apply (first.trans later).congr
        intro e' _
        rw [List.map_cons, List.mem_cons, named]
      · intro y hy
        obtain ⟨e', member', named', state'⟩ := rows y (List.mem_cons_of_mem _ hy)
        refine ⟨e', (mem_setQueueState db e.id .dead e').mpr (.inl ⟨member', ?_⟩), named', state'⟩
        intro same
        apply distinct.1
        rw [← named, ← same, named']
        exact List.mem_map_of_mem hy

theorem sat_requireReaderCode (readerCode : String) :
    (cycleAlone sha times).Sat (requireReaderCode readerCode)
      (endsOr (strip readerCode = "") fun code db' =>
        strip readerCode ≠ "" ∧ code = strip readerCode ∧ db' = db) db := by
  unfold requireReaderCode
  split
  · rename_i blank
    exact sat_raised blank
  · rename_i filled
    exact sat_returned ⟨filled, rfl, rfl⟩

theorem selectCancelled_sublist (readerCode : String) :
    ((db.selectCancelled readerCode).map Prod.fst).Sublist (db.events.rows.map Keyed.key) := by
  unfold selectCancelled
  generalize db.events.rows = rows
  induction rows with
  | nil => exact List.Sublist.slnil
  | cons e rows ih =>
      simp only [List.filterMap_cons, List.map_cons]
      split
      · exact ih.cons _
      · rename_i x taken
        split at taken
        · split at taken
          · cases taken
            exact ih.cons_cons _
          · cases taken
        · cases taken

/-- A final event of the reader that waits for delivery in a cancelled session. -/
def InCancelledSession (readerCode : String) (db : Database) (e : RawRFIDEvent) : Prop :=
  (e.queueState = .queued ∨ e.queueState = .retry) ∧ db.hasReader readerCode e = true ∧
    isFinalEvent e = true ∧ (db.sessionOf e).any (fun s => s.status == .cancelled) = true

theorem mem_selectCancelled {readerCode : String} {e : RawRFIDEvent}
    (member : e ∈ db.events.rows) :
    e.id ∈ (db.selectCancelled readerCode).map Prod.fst ↔ InCancelledSession readerCode db e := by
  simp only [selectCancelled, List.mem_map, List.mem_filterMap]
  constructor
  · rintro ⟨x, ⟨e', member', chosen⟩, same⟩
    split at chosen
    · rename_i waiting
      split at chosen
      · rename_i found
        cases chosen
        cases db.events.eq_of_key_eq member' member same
        simp only [Bool.and_eq_true] at found
        exact ⟨waiting, found.1.1, found.1.2, found.2⟩
      · cases chosen
    · cases chosen
  · rintro ⟨waiting, reader, final, cancelled⟩
    refine ⟨(e.id, ⟨e.queueState, waiting⟩), ⟨e, member, ?_⟩, rfl⟩
    rw [dif_pos waiting, if_pos (by simp only [reader, final, cancelled, Bool.and_self])]

theorem sat_deadLetterCancelled (readerCode : String) (ledger : StoreLedger db) :
    (cycleAlone sha times).Sat (deadLetterCancelledSessionFinalEvents Prog.perform readerCode)
      (endsOr (strip readerCode = "") fun _ db' =>
        DeadLettered (InCancelledSession (strip readerCode) db) db db') db := by
  apply sat_then (sat_requireReaderCode readerCode)
  rintro _ db ⟨-, rfl, rfl⟩
  apply Actor.Sat.handle
  apply sat_perform
  apply (sat_deadLetterEach (db.events.distinct.sublist (selectCancelled_sublist _)) ?_ ledger).mono
  · intro outcome db' post
    cases outcome with
    | ok _ => exact post.congr fun e he => mem_selectCancelled he
    | error _ => exact post.elim
  · intro x hx
    obtain ⟨e, member, chosen⟩ := List.mem_filterMap.mp hx
    split at chosen
    · split at chosen
      · cases chosen
        exact ⟨e, member, rfl, rfl⟩
      · cases chosen
    · cases chosen

/-- A final event of the reader that a session owns. -/
def Owned (readerCode : String) (db : Database) (e : RawRFIDEvent) : Prop :=
  db.hasReader readerCode e = true ∧ isFinalEvent e = true ∧ e.rfidSessionId.isSome = true

instance (readerCode : String) (db : Database) (e : RawRFIDEvent) :
    Decidable (Owned readerCode db e) :=
  inferInstanceAs (Decidable (_ ∧ _ ∧ _))

/-- A final event of the reader in RETRY that has used up its attempts. -/
def Exhausted (readerCode : String) (limit : Int) (db : Database) (e : RawRFIDEvent) : Prop :=
  Owned readerCode db e ∧ e.queueState = .retry ∧ limit ≤ (db.attemptsOf e.id).length

theorem mem_selectExhausted {readerCode : String} {limit : Int} {e : RawRFIDEvent}
    (member : e ∈ db.events.rows) :
    e.id ∈ db.selectExhausted readerCode limit ↔ Exhausted readerCode limit db e := by
  simp only [selectExhausted, List.mem_map, List.mem_filter, Bool.and_eq_true, beq_iff_eq,
    decide_eq_true_eq]
  constructor
  · rintro ⟨e', ⟨member', found⟩, same⟩
    cases db.events.eq_of_key_eq member' member same
    exact ⟨⟨found.1.1.1.1, found.1.1.1.2, found.1.1.2⟩, found.1.2, found.2⟩
  · rintro ⟨⟨reader, final, owned⟩, retry, most⟩
    exact ⟨e, ⟨member, ⟨⟨⟨reader, final⟩, owned⟩, retry⟩, most⟩, rfl⟩

theorem sat_deadLetterExhausted (readerCode : String) (limit : Int) (ledger : StoreLedger db) :
    (cycleAlone sha times).Sat (deadLetterExhaustedFinalEvents Prog.perform readerCode limit)
      (endsOr (limit < 1 ∨ strip readerCode = "") fun _ db' =>
        DeadLettered (Exhausted (strip readerCode) limit db) db db') db := by
  unfold deadLetterExhaustedFinalEvents requireMaxDeliveryAttempts
  split
  · rename_i none
    exact sat_raised (.inl none)
  apply sat_then (sat_refused (sat_requireReaderCode readerCode) .inr)
  rintro _ db ⟨-, rfl, rfl⟩
  apply Actor.Sat.handle
  apply sat_perform
  have listed : ((db.selectExhausted (strip readerCode) limit).map fun eventId =>
      (eventId, (⟨.retry, Or.inr rfl⟩ : WaitingState))).map Prod.fst =
      db.selectExhausted (strip readerCode) limit := by
    rw [List.map_map]
    exact List.map_id _
  apply (sat_deadLetterEach ?_ ?_ ledger).mono
  · intro outcome db' post
    cases outcome with
    | error _ => exact post.elim
    | ok _ =>
        rw [listed] at post
        exact post.congr fun e he => mem_selectExhausted he
  · rw [listed]
    exact db.events.distinct.sublist ((List.filter_sublist).map _)
  · intro x hx
    obtain ⟨id, chosen, rfl⟩ := List.mem_map.mp hx
    obtain ⟨e, member, rfl⟩ := List.mem_map.mp chosen
    obtain ⟨there, found⟩ := List.mem_filter.mp member
    simp only [Bool.and_eq_true, beq_iff_eq] at found
    exact ⟨e, there, rfl, found.1.2⟩

/-- What the query of the candidates returns. -/
theorem mem_selectCandidates {readerCode : String} {batchSize : Nat} {now : Timestamp}
    {c : Candidate} (h : c ∈ db.selectCandidates readerCode batchSize now) :
    c.event ∈ db.events.rows ∧ Owned readerCode db c.event ∧
      (c.event.queueState = .queued ∨
        c.event.queueState = .retry ∧ db.retryIsDue now c.event = true) := by
  obtain ⟨e, taken, rfl⟩ := List.mem_map.mp h
  obtain ⟨member, chosen⟩ := List.mem_filter.mp (List.mem_mergeSort.mp (List.mem_of_mem_take taken))
  simp only [Bool.and_eq_true, Bool.or_eq_true, beq_iff_eq] at chosen
  exact ⟨member, ⟨chosen.1.1.1, chosen.1.1.2, chosen.1.2⟩, chosen.2⟩

/-- A queue names each event once, whatever it selects. -/
theorem nodup_queue (chosen : RawRFIDEvent → Bool) (order : RawRFIDEvent → RawRFIDEvent → Bool)
    (batchSize : Nat) :
    ((((db.events.rows.filter chosen).mergeSort order).take batchSize).map (·.id)).Nodup := by
  have whole := db.events.distinct.sublist
    ((List.filter_sublist (p := chosen)).map Keyed.key)
  exact (((List.mergeSort_perm _ _).map _).nodup_iff.mpr whole).sublist
    ((List.take_sublist _ _).map _)

theorem nodup_selectCandidates (readerCode : String) (batchSize : Nat) (now : Timestamp) :
    ((db.selectCandidates readerCode batchSize now).map (·.event.id)).Nodup := by
  simp only [selectCandidates, List.map_map, Function.comp_def]
  exact nodup_queue _ _ _

/-- Settings with which a cycle begins. -/
structure DeliverySettings.Valid (settings : DeliverySettings) : Prop where
  readerCode : strip settings.readerCode ≠ ""
  batchSize : 1 ≤ settings.batchSize
  limit : 1 ≤ settings.maxDeliveryAttempts

/-- What the passes of a cycle move to DEAD. -/
abbrev DeadLettersOf (settings : DeliverySettings) (db : Database) (e : RawRFIDEvent) : Prop :=
  InCancelledSession (strip settings.readerCode) db e ∨
    Exhausted (strip settings.readerCode) settings.maxDeliveryAttempts db e

/-- An event on which this cycle can open an attempt. -/
structure Deliverable (settings : DeliverySettings) (db : Database) (e : RawRFIDEvent) : Prop where
  member : e ∈ db.events.rows
  waiting : e.queueState = .queued ∨ e.queueState = .retry
  within : ((db.attemptsOf e.id).length + 1 : Int) ≤ settings.maxDeliveryAttempts

/-- The order of every delivery queue. -/
def receivedBefore (a b : RawRFIDEvent) : Bool :=
  a.receivedAt < b.receivedAt || (a.receivedAt == b.receivedAt && a.id ≤ b.id)

/-- Where an event stands in that order. -/
def reception (e : RawRFIDEvent) : Nat ×ₗ Nat := toLex (e.receivedAt, e.id)

theorem receivedBefore_iff {a b : RawRFIDEvent} :
    receivedBefore a b = true ↔ reception a ≤ reception b := by
  rw [reception, reception, Prod.Lex.toLex_le_toLex]
  simp [receivedBefore]

/-- Which rows are selected decides the order in which they are. -/
theorem mergeSort_congr {rows rows' : List RawRFIDEvent} (nodup : (rows.map (·.id)).Nodup)
    (nodup' : (rows'.map (·.id)).Nodup) (same : ∀ e, e ∈ rows ↔ e ∈ rows') :
    rows.mergeSort receivedBefore = rows'.mergeSort receivedBefore := by
  have trans : ∀ a b c, receivedBefore a b → receivedBefore b c → receivedBefore a c := by
    intro a b c
    simp only [receivedBefore_iff]
    exact le_trans
  have total : ∀ a b, receivedBefore a b || receivedBefore b a := by
    intro a b
    simp only [Bool.or_eq_true, receivedBefore_iff]
    exact le_total _ _
  have perm : rows.Perm rows' :=
    (List.perm_ext_iff_of_nodup nodup.of_map nodup'.of_map).mpr same
  refine List.Perm.eq_of_pairwise ?_ (List.pairwise_mergeSort trans total rows)
    (List.pairwise_mergeSort trans total rows')
    ((List.mergeSort_perm ..).trans (perm.trans (List.mergeSort_perm ..).symm))
  intro a b ha hb before after
  have ha := List.mem_mergeSort.mp ha
  have hb := (same b).mpr (List.mem_mergeSort.mp hb)
  have place := le_antisymm (receivedBefore_iff.mp before) (receivedBefore_iff.mp after)
  exact List.inj_on_of_nodup_map nodup ha hb (congrArg (fun p => (ofLex p).2) place)

/-- A final event that a cycle can deliver: QUEUED, or RETRY and due with an attempt left,
and not in a cancelled session. -/
def Database.awaitsDelivery (db : Database) (settings : DeliverySettings) (now : Timestamp)
    (e : RawRFIDEvent) : Bool :=
  db.hasReader (strip settings.readerCode) e && isFinalEvent e && e.rfidSessionId.isSome &&
  !(db.sessionOf e).any (fun s => s.status == .cancelled) &&
  (e.queueState == .queued ||
    (e.queueState == .retry && db.retryIsDue now e &&
      decide (((db.attemptsOf e.id).length : Int) < settings.maxDeliveryAttempts)))

/-- The candidates of a cycle, as the store in front of it has them. -/
def Database.cycleCandidates (db : Database) (settings : DeliverySettings) (now : Timestamp) :
    List Candidate :=
  (((db.events.rows.filter (db.awaitsDelivery settings now)).mergeSort receivedBefore).take
    settings.batchSize.toNat).map fun e => ⟨e, db.deviceOf e.deviceId, db.sessionOf e⟩

theorem awaitsDelivery_iff {settings : DeliverySettings} {now : Timestamp} {e : RawRFIDEvent} :
    db.awaitsDelivery settings now e = true ↔
      Owned (strip settings.readerCode) db e ∧
      (db.sessionOf e).any (fun s => s.status == .cancelled) = false ∧
      (e.queueState = .queued ∨ e.queueState = .retry ∧ db.retryIsDue now e = true ∧
        ((db.attemptsOf e.id).length : Int) < settings.maxDeliveryAttempts) := by
  simp only [Database.awaitsDelivery, Owned, Bool.and_eq_true, Bool.or_eq_true, beq_iff_eq,
    Bool.not_eq_true', decide_eq_true_eq, and_assoc]

/-- The query behind the passes returns the candidates of the store in front of them. -/
theorem DeadLettered.selectCandidates {settings : DeliverySettings} {now : Timestamp}
    (h : DeadLettered (DeadLettersOf settings db) db db') :
    db'.selectCandidates (strip settings.readerCode) settings.batchSize.toNat now =
      db.cycleCandidates settings now := by
  have loaded : (fun e : RawRFIDEvent =>
      (⟨e, db'.deviceOf e.deviceId, db'.sessionOf e⟩ : Candidate)) =
      fun e => ⟨e, db.deviceOf e.deviceId, db.sessionOf e⟩ := by
    funext e
    simp only [h.sessionOf, deviceOf, h.devices]
  simp only [Database.selectCandidates, Database.cycleCandidates, loaded]
  congr 2
  apply mergeSort_congr
  · exact db'.events.distinct.sublist ((List.filter_sublist).map Keyed.key)
  · exact db.events.distinct.sublist ((List.filter_sublist).map Keyed.key)
  intro e
  have due : db'.retryIsDue now e = db.retryIsDue now e := by
    simp only [retryIsDue, latestAttempt, h.attemptsOf]
  simp only [List.mem_filter, awaitsDelivery_iff, Bool.and_eq_true, Bool.or_eq_true, beq_iff_eq,
    h.hasReader, due]
  constructor
  · rintro ⟨member, ⟨⟨reader, final⟩, session⟩, state⟩
    have alive : e.queueState ≠ .dead := by
      rcases state with queued | ⟨retry, -⟩ <;> simp_all
    have waiting : e.queueState = .queued ∨ e.queueState = .retry := state.imp_right And.left
    obtain ⟨before, spared⟩ := (h.rows_iff alive).mp member
    have open_ : (db.sessionOf e).any (fun s => s.status == .cancelled) = false :=
      Bool.eq_false_iff.mpr fun cancelled => spared (.inl ⟨waiting, reader, final, cancelled⟩)
    refine ⟨before, ⟨reader, final, session⟩, open_, state.imp_right fun ⟨retry, due⟩ => ?_⟩
    exact ⟨retry, due, Int.not_le.mp fun most =>
      spared (.inr ⟨⟨reader, final, session⟩, retry, most⟩)⟩
  · rintro ⟨member, ⟨reader, final, session⟩, open_, state⟩
    have alive : e.queueState ≠ .dead := by
      rcases state with queued | ⟨retry, -⟩ <;> simp_all
    refine ⟨(h.rows_iff alive).mpr ⟨member, ?_⟩, ⟨⟨reader, final⟩, session⟩,
      state.imp_right fun ⟨retry, due, _⟩ => ⟨retry, due⟩⟩
    rintro (⟨-, -, -, cancelled⟩ | ⟨-, retry, most⟩)
    · rw [open_] at cancelled
      cases cancelled
    · rcases state with queued | ⟨-, -, left⟩
      · cases queued.symm.trans retry
      · exact absurd left (Int.not_lt.mpr most)

theorem nodup_cycleCandidates (settings : DeliverySettings) (now : Timestamp) :
    ((db.cycleCandidates settings now).map (·.event.id)).Nodup := by
  simp only [Database.cycleCandidates, List.map_map, Function.comp_def]
  exact nodup_queue _ _ _

theorem mem_cycleCandidates {settings : DeliverySettings} {now : Timestamp} {c : Candidate}
    (h : c ∈ db.cycleCandidates settings now) :
    c.event ∈ db.events.rows ∧ db.awaitsDelivery settings now c.event = true := by
  obtain ⟨e, taken, rfl⟩ := List.mem_map.mp h
  exact List.mem_filter.mp (List.mem_mergeSort.mp (List.mem_of_mem_take taken))

/-- Every candidate can be delivered. -/
theorem deliverable_of_cycleCandidates {settings : DeliverySettings} {now : Timestamp}
    {c : Candidate} (ledger : StoreLedger db) (limit : 1 ≤ settings.maxDeliveryAttempts)
    (h : c ∈ db.cycleCandidates settings now) :
    Deliverable settings db c.event ∧ ¬ DeadLettersOf settings db c.event := by
  obtain ⟨member, chosen⟩ := mem_cycleCandidates h
  obtain ⟨-, uncancelled, state⟩ := awaitsDelivery_iff.mp chosen
  refine ⟨⟨member, state.imp_right And.left, ?_⟩, ?_⟩
  · rcases state with queued | ⟨-, -, left⟩
    · have none := (eventLedger_of_ledger (ledger.ledger c.event member)).fresh (.inr queued)
      rw [none]
      exact limit
    · exact left
  · rintro (⟨-, -, -, cancelled⟩ | ⟨-, retry, most⟩)
    · rw [uncancelled] at cancelled
      cases cancelled
    · rcases state with queued | ⟨-, -, left⟩
      · cases queued.symm.trans retry
      · exact absurd left (Int.not_lt.mpr most)

/-- A part of a cycle behind its passes and its selection. -/
theorem sat_selected {α : Type} {settings : DeliverySettings}
    {rest : Nat → List Candidate → StoreProgram α} {Q : α → Database → Prop} {refused : Prop}
    (ledger : StoreLedger db) (invalid : ¬ settings.Valid → refused)
    (h : ∀ exhausted db', settings.Valid → DeadLettered (DeadLettersOf settings db) db db' →
      (cycleAlone sha times).Sat (rest exhausted (db.cycleCandidates settings times.selection))
        (endsOr refused Q) db') :
    (cycleAlone sha times).Sat
      (do
        requireMaxDeliveryAttempts settings.maxDeliveryAttempts
        let _ ← deadLetterCancelledSessionFinalEvents Prog.perform settings.readerCode
        let exhausted ← deadLetterExhaustedFinalEvents Prog.perform settings.readerCode
          settings.maxDeliveryAttempts
        let candidates ← selectFinalDeliveryCandidates Prog.perform settings.readerCode
          settings.batchSize
        rest exhausted candidates) (endsOr refused Q) db := by
  have blank : strip settings.readerCode = "" → refused :=
    fun empty => invalid fun valid => valid.readerCode empty
  unfold requireMaxDeliveryAttempts
  split
  · rename_i none
    exact sat_raised (invalid fun valid => absurd valid.limit (Int.not_le.mpr none))
  rename_i positive
  apply sat_then (sat_refused (sat_deadLetterCancelled settings.readerCode ledger) blank)
  intro _ db₁ first
  apply sat_then (sat_refused (sat_deadLetterExhausted settings.readerCode
    settings.maxDeliveryAttempts first.ledger) (Or.rec (fun none => absurd none positive) blank))
  intro exhausted db₂ second
  have both : DeadLettered (DeadLettersOf settings db) db db₂ := by
    apply (first.trans second).congr
    intro e _
    simp only [DeadLettersOf, Exhausted, Owned, first.hasReader, first.attemptsOf]
  unfold selectFinalDeliveryCandidates
  split
  · rename_i none
    exact sat_raised (invalid fun valid => absurd valid.batchSize (Int.not_le.mpr none))
  rename_i filled
  refine sat_then (P := fun candidates db' => settings.Valid ∧ db' = db₂ ∧
    candidates = db.cycleCandidates settings times.selection) ?_ ?_
  · apply sat_then (sat_refused (sat_requireReaderCode settings.readerCode) blank)
    rintro _ _ ⟨named, rfl, rfl⟩
    apply sat_perform
    exact ⟨⟨named, Int.not_lt.mp filled, Int.not_lt.mp positive⟩, rfl, both.selectCandidates⟩
  · rintro _ _ ⟨valid, rfl, rfl⟩
    exact h exhausted _ valid both

theorem sat_selectForCycle {settings : DeliverySettings} (ledger : StoreLedger db) :
    (cycleAlone sha times).Sat (selectForCycle settings)
      (returning fun candidates _ => candidates = db.cycleCandidates settings times.selection)
      db := by
  have whole := @sat_selected sha times db (List Candidate) settings
    (fun _ candidates => .ret candidates)
    (fun candidates _ => candidates = db.cycleCandidates settings times.selection) True ledger
    (fun _ => trivial) fun _ _ _ _ => sat_returned rfl
  have same : ∀ p : StoreProgram (List Candidate), (p >>= fun candidates => .ret candidates) = p :=
    Prog.bind_ret
  simp only [same] at whole
  exact whole

end
end RfidBridge
