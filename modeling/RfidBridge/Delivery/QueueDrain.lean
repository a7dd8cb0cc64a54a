import RfidBridge.Library.Measure
import RfidBridge.Delivery.SettledCycles
import RfidBridge.Delivery.DeliveryBarrier

/-!
Delivery ends. A cycle uses up an attempt of every event that it sends and sends as many as it
can, so cycle by cycle the attempts that are left become fewer, whatever Odoo answers; behind
the last of them no event is waiting, and the barrier of a STOP no longer asks for patience.
-/

namespace RfidBridge
open Database

/-- An event apart from its place in the queue. -/
def RawRFIDEvent.unplaced (e : RawRFIDEvent) : RawRFIDEvent := { e with queueState := .unassigned }

/-- Only the places in the queue and the attempts differ. -/
structure SameEvents (db db' : Database) : Prop where
  events : db'.events.rows.map RawRFIDEvent.unplaced = db.events.rows.map RawRFIDEvent.unplaced
  sessions : db'.sessions = db.sessions
  devices : db'.devices = db.devices

section
variable {sha : Sha256} {times : CycleTimes} {db db' db'' : Database} {settings : DeliverySettings}
  {reply : Candidate → Except PyException DeliverySenderResult} {e e' : RawRFIDEvent}

namespace SameEvents

theorem refl (db : Database) : SameEvents db db := ⟨rfl, rfl, rfl⟩

theorem trans (first : SameEvents db db') (second : SameEvents db' db'') : SameEvents db db'' :=
  ⟨second.events.trans first.events, second.sessions.trans first.sessions,
    second.devices.trans first.devices⟩

theorem setQueueState (eventId : Nat) (state : QueueState) :
    SameEvents db (db.setQueueState eventId state) := by
  refine ⟨?_, rfl, rfl⟩
  simp only [Database.setQueueState, Table.update, List.map_map]
  apply List.map_congr_left
  intro e _
  simp only [Function.comp]
  split <;> rfl

theorem openAttempt (eventId : Nat) (now : Timestamp) :
    SameEvents db (db.openAttempt eventId now) :=
  let placed : SameEvents db (db.setQueueState eventId .inflight) := setQueueState eventId .inflight
  ⟨placed.events, rfl, rfl⟩

theorem of_completeDeliveryAttempt {utf8 : Utf8} {eventId attemptId : Nat} {outcome : Outcome}
    {responseCode errorKind detail : String} {initial maximum : Option Int} {now : Timestamp}
    {result : DeliveryAttemptCompletionResult}
    (h : completeDeliveryAttempt utf8 eventId attemptId outcome responseCode errorKind detail
      initial maximum now db = .ok (result, db')) : SameEvents db db' := by
  obtain ⟨event, -, _, -, target, _, -, -, -, -, -, -, -, -, rfl⟩ := completeDeliveryAttempt_eq_ok h
  have placed : SameEvents db (db.setQueueState event.id target) := setQueueState event.id target
  exact ⟨placed.events, rfl, rfl⟩

theorem of_transition {eventId : Nat} {expected target : QueueState}
    {result : QueueTransitionResult}
    (h : transitionEventQueueState eventId expected target db = .ok (result, db')) :
    SameEvents db db' := by
  simp only [transitionEventQueueState, bind_eq_ok, guard_eq_ok, Except.ok.injEq,
    Prod.mk.injEq] at h
  obtain ⟨_, -, -, _, -, -, rfl⟩ := h
  exact setQueueState eventId target

/-- What a delivery worker does to the store. -/
theorem of_perform {op : StoreOp} (delivers : op.deadLetters = true ∨ op.isRoutine = false) :
    SameEvents db (op.perform sha times db).2 := by
  unfold StoreOp.perform
  split
  · rename_i answer db' ran
    cases op with
    | startDeliveryAttempt eventId expectedState limit =>
        obtain ⟨-, -, -, -, rfl⟩ := startDeliveryAttempt_eq_ok ran
        exact openAttempt _ _
    | completeDeliveryAttempt => exact of_completeDeliveryAttempt ran
    | transitionEventQueueState => exact of_transition ran
    | selectCancelled | selectExhausted | selectCandidates =>
        cases ran
        exact refl db
    | _ => cases delivers <;> contradiction
  · exact refl db

theorem hasReader (same : SameEvents db db') (readerCode : String) (e : RawRFIDEvent) :
    db'.hasReader readerCode e = db.hasReader readerCode e := by
  rw [Database.hasReader, deviceOf, same.devices]
  rfl

theorem sessionOf (same : SameEvents db db') (e : RawRFIDEvent) :
    db'.sessionOf e = db.sessionOf e := by
  rw [Database.sessionOf, same.sessions]
  rfl

theorem ids (same : SameEvents db db') :
    db'.events.rows.map (·.id) = db.events.rows.map (·.id) := by
  have mapped := congrArg (List.map fun e => e.id) same.events
  rw [List.map_map, List.map_map] at mapped
  exact mapped

/-- An event is found again under its id. -/
theorem unplaced_eq (same : SameEvents db db') (member : e ∈ db.events.rows)
    (member' : e' ∈ db'.events.rows) (id : e'.id = e.id) : e'.unplaced = e.unplaced := by
  have mapped : e'.unplaced ∈ db.events.rows.map RawRFIDEvent.unplaced :=
    same.events ▸ List.mem_map_of_mem member'
  obtain ⟨old, there, eq⟩ := List.mem_map.mp mapped
  have known : old.id = e.id := (congrArg (fun e => e.id) eq).trans id
  rw [← eq, db.events.eq_of_key_eq there member known]

theorem exists_event (same : SameEvents db db') (member : e' ∈ db'.events.rows) :
    ∃ e ∈ db.events.rows, e'.id = e.id := by
  have listed : e'.id ∈ db.events.rows.map (·.id) := same.ids ▸ List.mem_map_of_mem member
  obtain ⟨e, there, eq⟩ := List.mem_map.mp listed
  exact ⟨e, there, eq.symm⟩

theorem eq_of_unplaced (unplaced : e'.unplaced = e.unplaced) :
    e' = { e with queueState := e'.queueState } :=
  calc e' = { e'.unplaced with queueState := e'.queueState } := rfl
    _ = { e with queueState := e'.queueState } := by rw [unplaced]; rfl

/-- Whose an event is does not change. -/
theorem owned_iff (same : SameEvents db db') (readerCode : String)
    (unplaced : e'.unplaced = e.unplaced) :
    Owned readerCode db' e' ↔ Owned readerCode db e := by
  rw [Owned, Owned, same.hasReader, eq_of_unplaced unplaced]
  exact Iff.rfl

/-- Nor does the session that the barrier finds it in. -/
theorem mem_finalEvents_iff (same : SameEvents db db') (member : e ∈ db.events.rows)
    (member' : e' ∈ db'.events.rows) (id : e'.id = e.id) (key readerCode : String) :
    e' ∈ db'.finalEvents key readerCode ↔ e ∈ db.finalEvents key readerCode := by
  simp only [mem_finalEvents, same.hasReader, same.sessionOf, member, member']
  rw [eq_of_unplaced (same.unplaced_eq member member' id)]
  exact Iff.rfl

theorem deadLettersOf_iff (same : SameEvents db db')
    (attempts : db'.attemptsOf e.id = db.attemptsOf e.id) :
    DeadLettersOf settings db' e ↔ DeadLettersOf settings db e := by
  simp only [DeadLettersOf, InCancelledSession, Exhausted, Owned, same.hasReader, same.sessionOf,
    attempts]

end SameEvents

/-- The cycle as a whole. -/
theorem sameEvents_of_cycle {outcome : Except PyException FinalDeliveryCycleResult}
    (run : (finalDeliveryCycle settings reply).eval (StoreOp.perform sha times) db =
      (outcome, db')) : SameEvents db db' := by
  have calls : (finalDeliveryCycle settings reply).Calls fun op =>
      op.deadLetters = true ∨ op.isRoutine = false :=
    calls_runFinalDeliveryCycle (fun op _ passes => Prog.calls_perform (.inl passes))
      (fun _ _ => Prog.calls_perform (.inr rfl)) (fun _ _ _ => Prog.calls_perform (.inr rfl))
      (fun _ _ _ _ _ _ => Prog.calls_perform (.inr rfl)) fun _ _ => Prog.calls_ofExcept _ _
  refine calls.eval_keeps (I := SameEvents db) ?_ run (.refl db)
  exact fun op db₁ delivers same => same.trans (.of_perform delivers)

/-- The events that a cycle neither moves to DEAD nor sends are as they were. -/
theorem sat_cycleOthers (ledger : StoreLedger db) :
    (cycleAlone sha times).Sat (finalDeliveryCycle settings reply)
      (returning fun _ db' => StoreLedger db' ∧ ∀ e ∈ db.events.rows,
        ¬ DeadLettersOf settings db e →
        (∀ c ∈ db.cycleCandidates settings times.selection, e.id ≠ c.event.id) →
        Untouched e.id db db') db := by
  rw [finalDeliveryCycle, runFinalDeliveryCycle_eq]
  apply sat_then (sat_refused (sat_beginCycle ledger) fun _ => trivial)
  rintro ⟨exhausted, _⟩ db₁ ⟨valid, dead, rfl⟩
  have chosen : ∀ c ∈ db.cycleCandidates settings times.selection,
      Deliverable settings db c.event ∧ ¬ DeadLettersOf settings db c.event :=
    fun _ hc => deliverable_of_cycleCandidates ledger valid.limit hc
  apply Actor.Sat.handle
  apply (sat_forEachCandidate sat_deliverCandidate (nodup_cycleCandidates settings times.selection)
    (fun c hc => dead.others _ (chosen c hc).1.member (chosen c hc).2)
    (fun c hc => (chosen c hc).1.waiting) dead.ledger).mono
  intro outcomes db' post
  cases outcomes with
  | error exc => exact sat_raised trivial
  | ok outcomes =>
      obtain ⟨-, handled⟩ := post
      apply sat_returned
      refine ⟨handled.ledger, fun e member spared unsent => ?_⟩
      exact (dead.untouched member spared).trans (handled.others e.id unsent)

/-- How many more cycles can send an event, or move it to DEAD. -/
def Database.attemptsLeft (db : Database) (settings : DeliverySettings) (e : RawRFIDEvent) : Nat :=
  if Owned (strip settings.readerCode) db e ∧ (e.queueState = .queued ∨ e.queueState = .retry) then
    max 1 (settings.maxDeliveryAttempts + 1 - (db.attemptsOf e.id).length).toNat
  else 0

/-- The same over the whole queue. -/
def Database.cyclesLeft (db : Database) (settings : DeliverySettings) : Nat :=
  (db.events.rows.map (db.attemptsLeft settings)).sum

/-- The clock has passed every retry of the reader's events. -/
def Database.RetriesDue (db : Database) (settings : DeliverySettings) (now : Timestamp) : Prop :=
  ∀ e ∈ db.events.rows, Owned (strip settings.readerCode) db e → e.queueState = .retry →
    db.retryIsDue now e = true

instance (db : Database) (settings : DeliverySettings) (now : Timestamp) :
    Decidable (db.RetriesDue settings now) :=
  List.decidableBAll _ _

/-- What a settled cycle leaves of the queue. -/
structure CycleLeaves (settings : DeliverySettings) (times : CycleTimes)
    (reply : Candidate → Except PyException DeliverySenderResult) (db db' : Database) : Prop where
  same : SameEvents db db'
  ledger : StoreLedger db'
  sent : ∀ c ∈ db.cycleCandidates settings times.selection, ∀ e' ∈ db'.events.rows,
    e'.id = c.event.id → (db'.attemptsOf e'.id).length = (db.attemptsOf e'.id).length + 1 ∧
      outcomeToQueueState (recordedResult (reply c)).outcome = some e'.queueState
  dead : ∀ e ∈ db.events.rows, DeadLettersOf settings db e → ∀ e' ∈ db'.events.rows,
    e'.id = e.id → e'.queueState = .dead
  others : ∀ e ∈ db.events.rows, ¬ DeadLettersOf settings db e →
    (∀ c ∈ db.cycleCandidates settings times.selection, e.id ≠ c.event.id) → Untouched e.id db db'

theorem cycleLeaves_of_settles (sha : Sha256) (ledger : StoreLedger db) (valid : settings.Valid)
    (settles : ∀ c ∈ db.cycleCandidates settings times.selection,
      CanSettle sha settings times db c (reply c)) :
    CycleLeaves settings times reply db
      ((finalDeliveryCycle settings reply).eval (StoreOp.perform sha times) db).2 := by
  have account := eval_post (@sat_finalDeliveryCycle sha times db settings reply ledger)
  have rest := eval_post (@sat_cycleOthers sha times db settings reply ledger)
  cases returned : (finalDeliveryCycle settings reply).eval (StoreOp.perform sha times) db with
  | mk outcome db' =>
  have same := sameEvents_of_cycle returned
  rw [returned] at account rest
  have chosen : ∀ c ∈ db.cycleCandidates settings times.selection,
      Deliverable settings db c.event ∧ ¬ DeadLettersOf settings db c.event :=
    fun _ hc => deliverable_of_cycleCandidates ledger valid.limit hc
  cases outcome with
  | error exc =>
      obtain invalid | ⟨c, hc, -, cut⟩ := account
      · exact absurd valid invalid
      · exact absurd cut (settles c hc).uncut
  | ok result =>
      refine ⟨same, rest.1, ?_, ?_, rest.2⟩
      · intro c hc e' member id
        have settled : Settles sha settings times db c (reply c) :=
          ⟨⟨(chosen c hc).1, (settles c hc).column⟩, (settles c hc).recordable⟩
        obtain ⟨a, extended, -⟩ := (account.treated c hc).attempted settled
        refine ⟨?_, (account.treated c hc).moved settled e' member id⟩
        rw [id, extended, List.length_append]
        rfl
      · intro e member struck e' member' id
        obtain ⟨gone, there, same, dead⟩ := account.dead e member struck
        cases db'.events.eq_of_key_eq member' there (id.trans same.symm)
        exact dead

theorem attemptsLeft_pos_iff : 0 < db.attemptsLeft settings e ↔
    Owned (strip settings.readerCode) db e ∧ (e.queueState = .queued ∨ e.queueState = .retry) := by
  unfold Database.attemptsLeft
  split
  · rename_i waits
    exact iff_of_true (Nat.lt_of_lt_of_le Nat.zero_lt_one (Nat.le_max_left ..)) waits
  · rename_i rests
    exact iff_of_false (Nat.lt_irrefl 0) rests

theorem attemptsLeft_eq_zero (queued : e.queueState ≠ .queued) (retry : e.queueState ≠ .retry) :
    db.attemptsLeft settings e = 0 :=
  if_neg fun waits => waits.2.elim queued retry

/-- An event that waits is delivered in the end, unless it is moved to DEAD first. -/
theorem awaitsDelivery_of_due {now : Timestamp} (owned : Owned (strip settings.readerCode) db e)
    (state : e.queueState = .queued ∨ e.queueState = .retry)
    (spared : ¬ DeadLettersOf settings db e)
    (due : e.queueState = .retry → db.retryIsDue now e = true) :
    db.awaitsDelivery settings now e = true := by
  rw [awaitsDelivery_iff]
  refine ⟨owned, Bool.eq_false_iff.mpr fun cancelled => spared (.inl ?_), ?_⟩
  · exact ⟨state, owned.1, owned.2.1, cancelled⟩
  · refine state.imp_right fun retry => ⟨retry, due retry, ?_⟩
    exact Int.not_le.mp fun most => spared (.inr ⟨owned, retry, most⟩)

theorem exists_candidate {now : Timestamp} (batch : 1 ≤ settings.batchSize)
    (member : e ∈ db.events.rows) (awaits : db.awaitsDelivery settings now e = true) :
    ∃ c, c ∈ db.cycleCandidates settings now := by
  apply List.exists_mem_of_length_pos
  have listed : e ∈ db.events.rows.filter (db.awaitsDelivery settings now) :=
    List.mem_filter.mpr ⟨member, awaits⟩
  have some_ := List.length_pos_of_mem listed
  simp only [Database.cycleCandidates, List.length_map, List.length_take, List.length_mergeSort]
  omega

namespace CycleLeaves
variable (leaves : CycleLeaves settings times reply db db')
include leaves

theorem event_eq (member : e ∈ db.events.rows) (member' : e' ∈ db'.events.rows) (id : e'.id = e.id)
    (spared : ¬ DeadLettersOf settings db e)
    (unsent : ∀ c ∈ db.cycleCandidates settings times.selection, e.id ≠ c.event.id) : e' = e := by
  have kept := ((leaves.others e member spared unsent).rows e rfl).mpr member
  exact db'.events.eq_of_key_eq member' kept id

/-- An event that is sent has one attempt less, and one that is moved to DEAD has none. -/
theorem attemptsLeft_lt (valid : settings.Valid) (ledger : StoreLedger db)
    (member : e ∈ db.events.rows) (member' : e' ∈ db'.events.rows) (id : e'.id = e.id)
    (waits : 0 < db.attemptsLeft settings e)
    (hit : DeadLettersOf settings db e ∨
      ∃ c ∈ db.cycleCandidates settings times.selection, c.event = e) :
    db'.attemptsLeft settings e' < db.attemptsLeft settings e := by
  by_cases struck : DeadLettersOf settings db e
  · have dead := leaves.dead e member struck e' member' id
    rwa [attemptsLeft_eq_zero (by simp [dead]) (by simp [dead])]
  obtain ⟨c, hc, rfl⟩ := hit.resolve_left struck
  have within := (deliverable_of_cycleCandidates ledger valid.limit hc).1.within
  obtain ⟨more, moved⟩ := leaves.sent c hc e' member' id
  have unqueued := (target_of_outcome moved).2.1
  by_cases again : e'.queueState = .retry
  · have before : db.attemptsLeft settings c.event =
        max 1 (settings.maxDeliveryAttempts + 1 - (db.attemptsOf c.event.id).length).toNat :=
      if_pos (attemptsLeft_pos_iff.mp waits)
    have after : db'.attemptsLeft settings e' ≤
        max 1 (settings.maxDeliveryAttempts + 1 - (db'.attemptsOf e'.id).length).toNat := by
      unfold Database.attemptsLeft
      split
      · exact le_refl _
      · exact Nat.zero_le _
    rw [id] at more
    rw [id, more] at after
    omega
  · rwa [attemptsLeft_eq_zero unqueued again]

theorem attemptsLeft_le (valid : settings.Valid) (ledger : StoreLedger db)
    (member : e ∈ db.events.rows) (member' : e' ∈ db'.events.rows) (id : e'.id = e.id) :
    db'.attemptsLeft settings e' ≤ db.attemptsLeft settings e := by
  by_cases hit : DeadLettersOf settings db e ∨
      ∃ c ∈ db.cycleCandidates settings times.selection, c.event = e
  · by_cases waits : 0 < db.attemptsLeft settings e
    · exact (leaves.attemptsLeft_lt valid ledger member member' id waits hit).le
    obtain struck | ⟨c, hc, rfl⟩ := hit
    · have dead := leaves.dead e member struck e' member' id
      rw [attemptsLeft_eq_zero (by simp [dead]) (by simp [dead])]
      exact Nat.zero_le _
    · have chosen := awaitsDelivery_iff.mp (mem_cycleCandidates hc).2
      exact absurd (attemptsLeft_pos_iff.mpr ⟨chosen.1, chosen.2.2.imp_right And.left⟩) waits
  · rw [not_or] at hit
    have unsent : ∀ c ∈ db.cycleCandidates settings times.selection, e.id ≠ c.event.id :=
      fun c hc same =>
        hit.2 ⟨c, hc, db.events.eq_of_key_eq (mem_cycleCandidates hc).1 member same.symm⟩
    have attempts := (leaves.others e member hit.1 unsent).attempts
    have owned := leaves.same.owned_iff (strip settings.readerCode) (rfl : e.unplaced = e.unplaced)
    rw [leaves.event_eq member member' id hit.1 unsent]
    simp only [Database.attemptsLeft, attempts, owned, le_refl]

theorem cyclesLeft_le (valid : settings.Valid) (ledger : StoreLedger db) :
    db'.cyclesLeft settings ≤ db.cyclesLeft settings :=
  sum_map_le_of_keys leaves.same.ids fun _ member _ member' id =>
    leaves.attemptsLeft_le valid ledger member member' id

/-- A cycle that finds every retry due gets on, as long as anything is waiting. -/
theorem cyclesLeft_lt (valid : settings.Valid) (ledger : StoreLedger db)
    (due : db.RetriesDue settings times.selection) (left : 0 < db.cyclesLeft settings) :
    db'.cyclesLeft settings < db.cyclesLeft settings := by
  refine sum_map_lt_of_keys leaves.same.ids (fun _ member _ member' id =>
    leaves.attemptsLeft_le valid ledger member member' id) ?_
  have hits : ∃ e ∈ db.events.rows, 0 < db.attemptsLeft settings e ∧
      (DeadLettersOf settings db e ∨
        ∃ c ∈ db.cycleCandidates settings times.selection, c.event = e) := by
    obtain ⟨_, listed, waits⟩ := List.sum_pos_iff_exists_pos_nat.mp left
    obtain ⟨e, member, rfl⟩ := List.mem_map.mp listed
    by_cases struck : DeadLettersOf settings db e
    · exact ⟨e, member, waits, .inl struck⟩
    obtain ⟨owned, state⟩ := attemptsLeft_pos_iff.mp waits
    -- the queue is not empty, so the cycle has a candidate
    have awaits := awaitsDelivery_of_due owned state struck fun retry => due e member owned retry
    obtain ⟨c, hc⟩ := exists_candidate valid.batchSize member awaits
    have chosen := awaitsDelivery_iff.mp (mem_cycleCandidates hc).2
    exact ⟨c.event, (mem_cycleCandidates hc).1,
      attemptsLeft_pos_iff.mpr ⟨chosen.1, chosen.2.2.imp_right And.left⟩, .inr ⟨c, hc, rfl⟩⟩
  obtain ⟨e, member, waits, hit⟩ := hits
  exact ⟨e, member, fun e' member' id =>
    leaves.attemptsLeft_lt valid ledger member member' id waits hit⟩

end CycleLeaves

/-- Cycles of one worker with nobody beside it, and how many of them found every retry due. The
sender is never cut off, and what it answers can be recorded and is among these outcomes. -/
inductive DeliveryCycles (sha : Sha256) (settings : DeliverySettings) (answers : Outcome → Prop)
    (db : Database) : Nat → Database → Prop
  | start : DeliveryCycles sha settings answers db 0 db
  | cycle {n : Nat} {db' : Database} (times : CycleTimes)
      (reply : Candidate → Except PyException DeliverySenderResult) :
      DeliveryCycles sha settings answers db n db' →
      (∀ c ∈ db'.cycleCandidates settings times.selection,
        CanSettle sha settings times db' c (reply c) ∧ answers (recordedResult (reply c)).outcome) →
      DeliveryCycles sha settings answers db
        (if db'.RetriesDue settings times.selection then n + 1 else n)
        ((finalDeliveryCycle settings reply).eval (StoreOp.perform sha times) db').2

section
variable {answers : Outcome → Prop} {n : Nat}

/-- The rule for what every cycle keeps. -/
theorem DeliveryCycles.invariant {I : Database → Prop}
    (run : DeliveryCycles sha settings answers db n db') (valid : settings.Valid)
    (ledger : StoreLedger db) (init : I db)
    (step : ∀ {db db' : Database} {times : CycleTimes}
      {reply : Candidate → Except PyException DeliverySenderResult}, StoreLedger db →
      CycleLeaves settings times reply db db' →
      (∀ c ∈ db.cycleCandidates settings times.selection,
        answers (recordedResult (reply c)).outcome) → I db → I db') :
    StoreLedger db' ∧ I db' := by
  induction run with
  | start => exact ⟨ledger, init⟩
  | cycle times reply before settles ih =>
      have leaves := cycleLeaves_of_settles sha ih.1 valid fun c hc => (settles c hc).1
      exact ⟨leaves.ledger, step ih.1 leaves (fun c hc => (settles c hc).2) ih.2⟩

/-- Each cycle that finds every retry due takes one off. -/
theorem DeliveryCycles.cyclesLeft_le (run : DeliveryCycles sha settings answers db n db')
    (valid : settings.Valid) (ledger : StoreLedger db) :
    db'.cyclesLeft settings ≤ db.cyclesLeft settings - n := by
  induction run with
  | start => exact le_refl _
  | @cycle n db' times reply before settles ih =>
      have known := (before.invariant (I := fun _ => True) valid ledger trivial
        fun _ _ _ _ => trivial).1
      have leaves := cycleLeaves_of_settles sha known valid fun c hc => (settles c hc).1
      have less := leaves.cyclesLeft_le valid known
      split
      · rename_i due
        by_cases left : 0 < db'.cyclesLeft settings
        · have := leaves.cyclesLeft_lt valid known due left
          omega
        · omega
      · omega

/-- An event of the reader is waiting, at its end, or where it was before the first cycle. -/
def PlacedAfter (settings : DeliverySettings) (before db : Database) : Prop :=
  ∀ e ∈ db.events.rows, Owned (strip settings.readerCode) db e →
    (e.queueState = .queued ∨ e.queueState = .retry) ∨ e.queueState.Terminal ∨
      e ∈ before.events.rows ∧ (e.queueState = .inflight ∨ e.queueState = .unassigned)

theorem place_cases (state : QueueState) :
    (state = .queued ∨ state = .retry) ∨ state.Terminal ∨ state = .inflight ∨
      state = .unassigned := by
  cases state <;> decide

theorem placedAfter_refl (settings : DeliverySettings) (db : Database) :
    PlacedAfter settings db db :=
  fun e member _ => (place_cases e.queueState).imp_right fun rests =>
    rests.imp_right fun stays => ⟨member, stays⟩

theorem CycleLeaves.placedAfter {before : Database}
    (leaves : CycleLeaves settings times reply db db') (placed : PlacedAfter settings before db) :
    PlacedAfter settings before db' := by
  intro e' member' owned
  obtain ⟨e, member, id⟩ := leaves.same.exists_event member'
  by_cases struck : DeadLettersOf settings db e
  · rw [leaves.dead e member struck e' member' id]
    exact .inr (.inl rfl)
  by_cases sent : ∃ c ∈ db.cycleCandidates settings times.selection, c.event = e
  · obtain ⟨c, hc, rfl⟩ := sent
    obtain ⟨unassigned, -, inflight⟩ := target_of_outcome (leaves.sent c hc e' member' id).2
    exact (place_cases e'.queueState).imp_right fun rests =>
      .inl (rests.resolve_right (not_or_intro inflight unassigned))
  · have unsent : ∀ c ∈ db.cycleCandidates settings times.selection, e.id ≠ c.event.id :=
      fun c hc same =>
        sent ⟨c, hc, db.events.eq_of_key_eq (mem_cycleCandidates hc).1 member same.symm⟩
    obtain rfl := leaves.event_eq member member' id struck unsent
    exact placed e' member ((leaves.same.owned_iff _ rfl).mp owned)

end

/-- What has to be delivered before the STOP of a session may be acknowledged is SENT, or a
cycle can still deliver it. -/
def Deliverables (settings : DeliverySettings) (sessionKey : String) (db : Database) : Prop :=
  ∀ e ∈ db.finalEvents (strip sessionKey) (strip settings.readerCode),
    e.queueState = .sent ∨
      (e.queueState = .queued ∨ e.queueState = .retry) ∧ ¬ DeadLettersOf settings db e

theorem CycleLeaves.deliverables {sessionKey : String}
    (leaves : CycleLeaves settings times reply db db')
    (accepted : ∀ c ∈ db.cycleCandidates settings times.selection,
      (recordedResult (reply c)).outcome = .sent)
    (open_ : Deliverables settings sessionKey db) : Deliverables settings sessionKey db' := by
  intro e' final
  have member' := (mem_finalEvents.mp final).1
  obtain ⟨e, member, id⟩ := leaves.same.exists_event member'
  have place := open_ e ((leaves.same.mem_finalEvents_iff member member' id _ _).mp final)
  by_cases sent : ∃ c ∈ db.cycleCandidates settings times.selection, c.event = e
  · obtain ⟨c, hc, rfl⟩ := sent
    have moved := (leaves.sent c hc e' member' id).2
    rw [accepted c hc] at moved
    exact .inl (Option.some.inj moved).symm
  have spared : ¬ DeadLettersOf settings db e := by
    obtain done | ⟨-, spared⟩ := place
    · rintro (⟨waits, -⟩ | ⟨-, retry, -⟩)
      · cases waits with
        | inl queued => cases done.symm.trans queued
        | inr retry => cases done.symm.trans retry
      · cases done.symm.trans retry
    · exact spared
  have unsent : ∀ c ∈ db.cycleCandidates settings times.selection, e.id ≠ c.event.id :=
    fun c hc same =>
      sent ⟨c, hc, db.events.eq_of_key_eq (mem_cycleCandidates hc).1 member same.symm⟩
  obtain rfl := leaves.event_eq member member' id spared unsent
  have attempts := (leaves.others e' member spared unsent).attempts
  exact place.imp_right fun waits =>
    ⟨waits.1, fun struck => waits.2 ((leaves.same.deadLettersOf_iff attempts).mp struck)⟩

/-- Nothing but SENT leaves nothing failed and nothing pending. -/
theorem counts_of_all_sent {states : List QueueState} (sent : ∀ state ∈ states, state = .sent) :
    (countStates states).failedCount = 0 ∧ (countStates states).pendingCount = 0 := by
  have failed : (states.countP fun state => state == .rejected || state == .dead) = 0 := by
    apply List.countP_eq_zero.mpr
    intro state member
    rw [sent state member]
    decide
  have all : (states.countP fun state => state == .sent) = states.length := by
    apply List.countP_eq_length.mpr
    intro state member
    rw [sent state member]
    rfl
  simp [countStates, failed, all]

end

/-- Whatever Odoo answers, its answers use the attempts up: after as many cycles as could still
send an event, no event of the reader is waiting. Only what was stranded before stays. -/
theorem delivery_drains {sha : Sha256} {db₀ db db' : Database} {settings : DeliverySettings}
    {n : Nat} (fresh : FreshStore db₀) (reached : Evolves sha db₀ db) (valid : settings.Valid)
    (run : DeliveryCycles sha settings (fun _ => True) db n db')
    (enough : db.cyclesLeft settings ≤ n) :
    ∀ e ∈ db'.events.rows, Owned (strip settings.readerCode) db' e →
      e.queueState.Terminal ∨
        e ∈ db.events.rows ∧ (e.queueState = .inflight ∨ e.queueState = .unassigned) := by
  have ledger : StoreLedger db :=
    reached.keeps StoreLedger.edit StoreLedger.opened (.of_fresh fresh.noAttempts fresh.unassigned)
  have placed := (run.invariant valid ledger (placedAfter_refl settings db)
    fun _ leaves _ => leaves.placedAfter).2
  intro e member owned
  apply (placed e member owned).resolve_left
  intro waits
  have left := attemptsLeft_pos_iff.mpr ⟨owned, waits⟩
  have none := run.cyclesLeft_le valid ledger
  have counted : 0 < db'.cyclesLeft settings := List.sum_pos_iff_exists_pos_nat.mpr
    ⟨_, List.mem_map_of_mem member, left⟩
  omega

namespace OneTag

/-- Settings with a single attempt. -/
def once : DeliverySettings := { settings 30 3600 with maxDeliveryAttempts := 1 }

/-- A cycle behind the first retry. -/
def later : CycleTimes := ⟨100000000, fun _ => 0, fun _ => 0⟩

theorem once_valid : once.Valid := ⟨by decide +kernel, by decide, by decide⟩

/-- A cycle that sends the queued tag, and one that has nothing to send. -/
theorem cycles_once {answers : Outcome → Prop}
    (reply : Candidate → Except PyException DeliverySenderResult) {db : Database}
    (run : ((finalDeliveryCycle once reply).eval (StoreOp.perform sha times) queuedStore).2 = db)
    (none : db.cycleCandidates once later.selection = []) (due : db.RetriesDue once later.selection)
    (can : ∀ c, ¬ SendCutOff (reply c) ∧ Recordable plainUtf8 once 1 30 (recordedResult (reply c)) ∧
      answers (recordedResult (reply c)).outcome) :
    DeliveryCycles sha once answers queuedStore 2
      ((finalDeliveryCycle once reply).eval (StoreOp.perform sha later) db).2 := by
  have first : DeliveryCycles sha once answers queuedStore _ _ :=
    .cycle times reply .start fun c _ =>
      ⟨⟨(can c).1, show 0 < maxPositiveInteger by decide, (can c).2.1⟩, (can c).2.2⟩
  rw [run, if_pos (show queuedStore.RetriesDue once times.selection by decide +kernel)] at first
  have second := DeliveryCycles.cycle later reply first (by simp [none])
  rwa [if_pos due] at second

end OneTag

open OneTag in
/-- One attempt, which Odoo does not answer: the next cycle moves the event to DEAD. -/
theorem delivery_drains_unanswered : ∃ db',
    DeliveryCycles sha once (fun _ => True) queuedStore 2 db' ∧
    db'.events.rows.map (·.queueState) = [.dead] ∧
    ∀ e ∈ db'.events.rows, Owned (strip once.readerCode) db' e → e.queueState.Terminal ∨
      e ∈ queuedStore.events.rows ∧ (e.queueState = .inflight ∨ e.queueState = .unassigned) := by
  let reply : Candidate → Except PyException DeliverySenderResult :=
    fun _ => .ok { outcome := .retry }
  have run : DeliveryCycles sha once (fun _ => True) queuedStore 2 _ :=
    cycles_once reply rfl (by decide +kernel) (by decide +kernel) fun c =>
      ⟨by rintro ⟨_, ⟨⟩, -⟩, ⟨rfl, by decide, by decide, by decide, by decide⟩, trivial⟩
  exact ⟨_, run, by decide +kernel,
    delivery_drains freshStore_fresh reached_queuedStore once_valid run (by decide +kernel)⟩

theorem barrier_passes {sha : Sha256} {db : Database} {sessionKey readerCode : String}
    (session : strip sessionKey ≠ "") (reader : strip readerCode ≠ "")
    (sent : ∀ e ∈ db.finalEvents (strip sessionKey) (strip readerCode), e.queueState = .sent)
    (times : CycleTimes) :
    ∃ result, (requireFinalSessionDeliveryComplete (Prog.perform : (op : StoreOp) →
      StoreProgram op.Answer) sessionKey readerCode).eval (StoreOp.perform sha times) db =
        (.ok result, db) := by
  let states := (db.finalEvents (strip sessionKey) (strip readerCode)).map (·.queueState)
  have asks : (inspectFinalSessionDelivery (Prog.perform : (op : StoreOp) →
      StoreProgram op.Answer) sessionKey readerCode).eval (StoreOp.perform sha times) db =
        (.ok (countStates states), db) := by
    unfold inspectFinalSessionDelivery
    rw [if_neg session, if_neg reader]
    rfl
  have listed : ∀ state ∈ states, state = .sent := by
    simpa [states] using sent
  obtain ⟨failed, pending⟩ := counts_of_all_sent listed
  refine ⟨countStates states, ?_⟩
  change (Prog.bind _ _).eval _ _ = _
  rw [Prog.eval_bind, asks]
  dsimp only
  rw [if_neg (not_not.mpr failed), if_neg (not_not.mpr pending)]
  rfl

/-- If Odoo accepts what it is sent, the barrier of a STOP opens: after as many cycles as could
still send an event, every final event of the session is SENT. -/
theorem stop_barrier_opens {sha : Sha256} {db₀ db db' : Database} {settings : DeliverySettings}
    {n : Nat} {sessionKey : String} (fresh : FreshStore db₀) (reached : Evolves sha db₀ db)
    (valid : settings.Valid) (named : strip sessionKey ≠ "")
    (open_ : Deliverables settings sessionKey db)
    (run : DeliveryCycles sha settings (· = .sent) db n db')
    (enough : db.cyclesLeft settings ≤ n) (times : CycleTimes) :
    (∀ e ∈ db'.finalEvents (strip sessionKey) (strip settings.readerCode),
      e.queueState = .sent) ∧
    ∃ result, (requireFinalSessionDeliveryComplete (Prog.perform : (op : StoreOp) →
      StoreProgram op.Answer) sessionKey settings.readerCode).eval
      (StoreOp.perform sha times) db' = (.ok result, db') := by
  have ledger : StoreLedger db :=
    reached.keeps StoreLedger.edit StoreLedger.opened (.of_fresh fresh.noAttempts fresh.unassigned)
  have later := (run.invariant valid ledger open_
    fun _ leaves accepted => leaves.deliverables accepted).2
  have sent : ∀ e ∈ db'.finalEvents (strip sessionKey) (strip settings.readerCode),
      e.queueState = .sent := by
    intro e final
    apply (later e final).resolve_right
    rintro ⟨waits, -⟩
    obtain ⟨member, reader, isFinal, s, found, -⟩ := mem_finalEvents.mp final
    have owned : Owned (strip settings.readerCode) db' e :=
      ⟨reader, isFinal, by rw [(sessionOf_eq_some.mp found).2]; rfl⟩
    have counted : 0 < db'.cyclesLeft settings := List.sum_pos_iff_exists_pos_nat.mpr
      ⟨_, List.mem_map_of_mem member, attemptsLeft_pos_iff.mpr ⟨owned, waits⟩⟩
    have none := run.cyclesLeft_le valid ledger
    omega
  exact ⟨sent, barrier_passes named valid.readerCode sent times⟩

open OneTag in
/-- Odoo accepts the queued tag, and the STOP of its session may be acknowledged. -/
theorem stop_barrier_opens_accepted : ∃ db',
    DeliveryCycles sha once (· = .sent) queuedStore 2 db' ∧
    (db'.finalEvents (strip "S1") (strip once.readerCode)).map (·.id) = [1] ∧
    ∃ result, (requireFinalSessionDeliveryComplete (Prog.perform : (op : StoreOp) →
      StoreProgram op.Answer) "S1" once.readerCode).eval (StoreOp.perform sha later) db' =
        (.ok result, db') := by
  have accepted : FinalOdooEventSender.resultOfAnswer py "event-1" (.dict acceptance) =
      ⟨.sent, "accepted", "", "RFID event accepted by Odoo."⟩ := by decide +kernel
  have can : ∀ c, ¬ SendCutOff (reply acceptance c) ∧
      Recordable plainUtf8 once 1 30 (recordedResult (reply acceptance c)) ∧
      (recordedResult (reply acceptance c)).outcome = .sent := by
    intro c
    rw [reply, recordedResult, accepted]
    exact ⟨by rintro ⟨_, ⟨⟩, -⟩, ⟨rfl, by decide, by decide, by decide, by rintro ⟨⟩⟩, rfl⟩
  have run : DeliveryCycles sha once (· = .sent) queuedStore 2 _ :=
    cycles_once (reply acceptance) rfl (by decide +kernel) (by decide +kernel) can
  have open_ : Deliverables once "S1" queuedStore := by
    intro e final
    have queued : ∀ e ∈ queuedStore.events.rows, e.queueState = .queued ∧
        (queuedStore.sessionOf e).any (fun s => s.status == .cancelled) = false := by
      decide +kernel
    obtain ⟨queued, active⟩ := queued e (mem_finalEvents.mp final).1
    refine .inr ⟨.inl queued, ?_⟩
    rintro (⟨-, -, -, cancelled⟩ | ⟨-, retry, -⟩)
    · cases active.symm.trans cancelled
    · cases queued.symm.trans retry
  have opens := stop_barrier_opens freshStore_fresh reached_queuedStore once_valid
    (by decide +kernel) open_ run (by decide +kernel) later
  exact ⟨_, run, by decide +kernel, opens.2⟩

end RfidBridge
