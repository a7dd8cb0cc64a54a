import RfidBridge.Delivery.DeliveryRuns

/-!
A cycle with nobody beside it, with the calls of its sender on record. It selects only events
that it can start; every candidate is settled unless the sender is cut off or its answer
cannot be recorded.
-/

namespace RfidBridge
open Database

/-- The store of a cycle with nobody beside it, and the events for which its sender was
called. -/
structure SendingStore where
  db : Database
  sent : List Nat := []

def CycleOp.perform (sha : Sha256) (times : CycleTimes)
    (reply : Candidate → Except PyException DeliverySenderResult) :
    (op : CycleOp) → SendingStore → Except PyException op.Answer × SendingStore
  | .store op, s => ((op.perform sha times s.db).1, { s with db := (op.perform sha times s.db).2 })
  | .send _ candidate, s => (reply candidate, { s with sent := candidate.event.id :: s.sent })

def sendingCycle (settings : DeliverySettings) : CycleProgram FinalDeliveryCycleResult :=
  runFinalDeliveryCycle cycleStore cycleSend settings

/-- What a cycle should do to a store: no failure, one completed attempt for each candidate,
and no request for an event that has used up its attempts or whose session is cancelled. -/
structure SettledCycle (settings : DeliverySettings) (now : Timestamp) (db : Database)
    (result : FinalDeliveryCycleResult) (s : SendingStore) : Prop where
  counters : AllCounted result
  selected : result.selectedCount = (db.cycleCandidates settings now).length
  attempted : ∀ c ∈ db.cycleCandidates settings now, ∃ a,
    s.db.attemptsOf c.event.id = db.attemptsOf c.event.id ++ [a] ∧ a.completedAt.isSome
  exhausted : ∀ e ∈ db.events.rows,
    Exhausted (strip settings.readerCode) settings.maxDeliveryAttempts db e →
      (∃ e' ∈ s.db.events.rows, e'.id = e.id ∧ e'.queueState = .dead) ∧ e.id ∉ s.sent
  cancelled : ∀ e ∈ db.events.rows, isFinalEvent e = true →
    (db.sessionOf e).any (fun session => session.status == .cancelled) = true → e.id ∉ s.sent

/-- The sender is not cut off, the attempt has a number, and the answer can be recorded. -/
structure CanSettle (sha : Sha256) (settings : DeliverySettings) (times : CycleTimes)
    (db : Database) (c : Candidate) (answer : Except PyException DeliverySenderResult) : Prop where
  uncut : ¬ SendCutOff answer
  column : (db.attemptsOf c.event.id).length < maxPositiveInteger
  recordable : Recordable sha.toUtf8 settings ((db.attemptsOf c.event.id).length + 1)
    (times.completed c.event.id) (recordedResult answer)

section
variable {ι κ : Type} {ρ : ι → Type} {ρ' : κ → Type} {α β : Type}
  (f : (op : κ) → Prog ι ρ PyException (ρ' op))
  (store : (op : StoreOp) → Prog κ ρ' PyException op.Answer)
  (send : Nat → Candidate → Prog κ ρ' PyException DeliverySenderResult)

theorem translate_deadLetterEach (selected : List (Nat × WaitingState)) :
    (deadLetterEach store selected).translate f =
      deadLetterEach (fun op => (store op).translate f) selected := by
  simp [deadLetterEach]

theorem translate_beginCycle (settings : DeliverySettings) :
    (beginCycle store settings).translate f =
      beginCycle (fun op => (store op).translate f) settings := by
  simp [beginCycle, deadLetterCancelledSessionFinalEvents, deadLetterExhaustedFinalEvents,
    selectFinalDeliveryCandidates, requireMaxDeliveryAttempts, requireReaderCode,
    translate_deadLetterEach]

theorem translate_deliverCandidate (settings : DeliverySettings) (c : Candidate) :
    (deliverCandidate store send settings c).translate f =
      deliverCandidate (fun op => (store op).translate f)
        (fun attemptId candidate => (send attemptId candidate).translate f) settings c := by
  simp [deliverCandidate, processDeliveryCandidate]

end

section
variable {sha : Sha256} {times : CycleTimes} {db : Database} {settings : DeliverySettings}
  {reply : Candidate → Except PyException DeliverySenderResult} {s s' : SendingStore}

/-- An operation of a cycle where the sender's answers are given. -/
def CycleOp.answered (reply : Candidate → Except PyException DeliverySenderResult) :
    (op : CycleOp) → StoreProgram op.Answer
  | .store op => Prog.perform op
  | .send _ candidate => Prog.ofExcept (reply candidate)

/-- The record of the requests does not change what happens to the store. -/
theorem eval_db {α : Type} (p : CycleProgram α) (s : SendingStore) :
    (p.translate (CycleOp.answered reply)).eval (StoreOp.perform sha times) s.db =
      ((p.eval (CycleOp.perform sha times reply) s).1,
        (p.eval (CycleOp.perform sha times reply) s).2.db) := by
  rw [Prog.eval_translate]
  apply Prog.eval_map SendingStore.db (I := fun _ => True) (fun _ _ _ => trivial) _ trivial
  intro op s _
  cases op with
  | store op => exact Prog.eval_perform _ op s.db
  | send attemptId candidate =>
      simp only [CycleOp.answered, CycleOp.perform]
      cases reply candidate <;> rfl

theorem translate_sendingCycle :
    (sendingCycle settings).translate (CycleOp.answered reply) =
      finalDeliveryCycle settings reply := by
  simp only [sendingCycle, finalDeliveryCycle, runFinalDeliveryCycle_eq, Prog.translate_bind,
    translate_beginCycle, Prog.translate_forEach, translate_deliverCandidate, Prog.translate_ret,
    Prog.translate_perform]
  rfl

/-- The requests among some operations are for these candidates. -/
def SendsFor (candidates : List Candidate) : CycleOp → Prop
  | .store _ => True
  | .send _ c => c ∈ candidates

theorem calls_beginCycle :
    (beginCycle cycleStore settings).Calls fun op => ∃ o, op = .store o := by
  have same := translate_beginCycle cycleStore Prog.perform settings
  simp only [Prog.translate_perform] at same
  rw [← same]
  exact Prog.calls_translate (fun op => Prog.calls_perform ⟨op, rfl⟩) _

/-- The requests of a cycle are for its candidates. -/
theorem sent_of_returned {result : FinalDeliveryCycleResult} (ledger : StoreLedger s.db)
    (returned : (sendingCycle settings).eval (CycleOp.perform sha times reply) s =
      (.ok result, s')) :
    ∀ id ∈ s'.sent, id ∈ s.sent ∨
      ∃ c ∈ s.db.cycleCandidates settings times.selection, c.event.id = id := by
  rw [sendingCycle, runFinalDeliveryCycle_eq] at returned
  obtain ⟨begun, s₁, begins, returned⟩ := Prog.eval_bind_eq_ok.mp returned
  obtain ⟨outcomes, s₂, delivers, returned⟩ := Prog.eval_bind_eq_ok.mp returned
  cases returned
  have selected : begun.2 = s.db.cycleCandidates settings times.selection := by
    have post := eval_post (@sat_beginCycle sha times s.db settings ledger)
    have run := @eval_db sha times reply _ (beginCycle cycleStore settings) s
    simp only [translate_beginCycle, Prog.translate_perform, CycleOp.answered, begins] at run
    rw [run] at post
    exact post.2.2
  have quiet : s₁.sent = s.sent := by
    refine calls_beginCycle.eval_keeps (I := fun s' => s'.sent = s.sent) ?_ begins rfl
    rintro _ _ ⟨op, rfl⟩ same
    exact same
  have mine : (Prog.forEach begun.2 (deliverCandidate cycleStore cycleSend settings)).Calls
      (SendsFor begun.2) := by
    apply Prog.calls_forEach
    intro c hc
    -- a candidate calls the sender for itself only
    change
      (deliverCandidate cycleStore (fun attemptId _ => cycleSend attemptId c) settings c).Calls _
    apply calls_deliverCandidate
    · exact fun _ _ _ => Prog.calls_perform trivial
    · exact fun _ _ _ _ _ _ => Prog.calls_perform trivial
    · exact fun _ _ => Prog.calls_perform hc
  have held : ∀ id ∈ s'.sent, id ∈ s₁.sent ∨ ∃ c ∈ begun.2, c.event.id = id := by
    refine mine.eval_keeps
      (I := fun s' => ∀ id ∈ s'.sent, id ∈ s₁.sent ∨ ∃ c ∈ begun.2, c.event.id = id) ?_ delivers
      fun _ => .inl
    intro op s₂ allowed inv
    cases op with
    | store op => exact inv
    | send attemptId c =>
        intro id member
        cases member with
        | head => exact .inr ⟨c, allowed, rfl⟩
        | tail _ earlier => exact inv id earlier
  rwa [quiet, selected] at held

/-- A cycle settles all its candidates exactly when the sender is not cut off and each of its
answers can be recorded. -/
theorem finalDeliveryCycle_settles_iff {db₀ : Database} (fresh : FreshStore db₀)
    (reached : Evolves sha db₀ db) (valid : settings.Valid) :
    (∃ result s, (sendingCycle settings).eval (CycleOp.perform sha times reply) ⟨db, []⟩ =
        (.ok result, s) ∧ SettledCycle settings times.selection db result s) ↔
      ∀ c ∈ db.cycleCandidates settings times.selection,
        CanSettle sha settings times db c (reply c) := by
  have ledger : StoreLedger db :=
    reached.keeps StoreLedger.edit StoreLedger.opened (.of_fresh fresh.noAttempts fresh.unassigned)
  have post := eval_post (@sat_finalDeliveryCycle sha times db settings reply ledger)
  rw [← translate_sendingCycle, @eval_db sha times reply _ (sendingCycle settings) ⟨db, []⟩] at post
  have chosen : ∀ c ∈ db.cycleCandidates settings times.selection,
      Deliverable settings db c.event ∧ ¬ DeadLettersOf settings db c.event :=
    fun _ hc => deliverable_of_cycleCandidates ledger valid.limit hc
  constructor
  · rintro ⟨result, s, returned, settled⟩ c hc
    rw [returned] at post
    obtain ⟨exhausted, outcomes, rfl, counted⟩ := post.counted
    have settles := (allCounted_iff counted).mp settled.counters c hc
    obtain ⟨i, inside, rfl⟩ := List.getElem_of_mem hc
    have entry := counted.get inside (counted.length_eq ▸ inside)
    exact ⟨entry.uncut settles.startable, settles.startable.column, settles.recordable⟩
  · intro can
    have settles : ∀ c ∈ db.cycleCandidates settings times.selection,
        Settles sha settings times db c (reply c) :=
      fun c hc => ⟨⟨(chosen c hc).1, (can c hc).column⟩, (can c hc).recordable⟩
    cases returned : (sendingCycle settings).eval (CycleOp.perform sha times reply) ⟨db, []⟩ with
    | mk outcome s =>
    rw [returned] at post
    cases outcome with
    | error exc =>
        rcases post with invalid | ⟨c, hc, -, cut⟩
        · exact absurd valid invalid
        · exact absurd cut (can c hc).uncut
    | ok result =>
        have mine := sent_of_returned ledger returned
        obtain ⟨-, ⟨exhausted, outcomes, rfl, counted⟩, treated, dead⟩ := post
        refine ⟨_, s, rfl, (allCounted_iff counted).mpr settles, rfl, ?_, ?_, ?_⟩
        · intro c hc
          obtain ⟨a, extended, -, completed⟩ := (treated c hc).attempted (settles c hc)
          exact ⟨a, extended, completed⟩
        · intro e he usedUp
          refine ⟨dead e he (.inr usedUp), fun sent => ?_⟩
          obtain ⟨c, hc, same⟩ := (mine e.id sent).resolve_left List.not_mem_nil
          cases db.events.eq_of_key_eq (chosen c hc).1.member he same
          exact (chosen c hc).2 (.inr usedUp)
        · intro e he final cancelled sent
          obtain ⟨c, hc, same⟩ := (mine e.id sent).resolve_left List.not_mem_nil
          cases db.events.eq_of_key_eq (chosen c hc).1.member he same
          have owned := (awaitsDelivery_iff.mp (mem_cycleCandidates hc).2).1
          exact (chosen c hc).2 (.inl ⟨(chosen c hc).1.waiting, owned.1, final, cancelled⟩)

end

open OneTag in
/-- Odoo accepts the event of a queued tag. -/
theorem finalDeliveryCycle_settles_iff_accepted :
    (queuedStore.cycleCandidates (settings 30 3600) 10).map (·.event.id) = [1] ∧
    ∃ result s, (sendingCycle (settings 30 3600)).eval
        (CycleOp.perform sha times (reply acceptance)) ⟨queuedStore, []⟩ = (.ok result, s) ∧
      SettledCycle (settings 30 3600) 10 queuedStore result s := by
  have valid : (settings 30 3600).Valid := ⟨by decide +kernel, by decide, by decide⟩
  have listed : (queuedStore.cycleCandidates (settings 30 3600) 10).map (·.event.id) = [1] := by
    decide +kernel
  have accepted : FinalOdooEventSender.resultOfAnswer py "event-1" (.dict acceptance) =
      ⟨.sent, "accepted", "", "RFID event accepted by Odoo."⟩ := by decide +kernel
  refine ⟨listed,
    (finalDeliveryCycle_settles_iff freshStore_fresh reached_queuedStore valid).mpr ?_⟩
  intro c hc
  refine ⟨nofun, ?_, ?_⟩
  · have none : queuedStore.attemptsOf c.event.id = [] := rfl
    rw [none]
    decide
  · show Recordable _ _ _ _ (FinalOdooEventSender.resultOfAnswer py "event-1" (.dict acceptance))
    rw [accepted]
    exact ⟨rfl, by decide, by decide, by decide, nofun⟩

open OneTag in
/-- The sender raises an exception whose text no text column can hold. -/
theorem finalDeliveryCycle_unsettled :
    FreshStore freshStore ∧ Evolves sha freshStore queuedStore ∧ (settings 30 3600).Valid ∧
    ∃ result s, (sendingCycle (settings 30 3600)).eval
        (CycleOp.perform sha times fun _ =>
          raised .runtimeError ("reply " ++ String.singleton (Char.ofNat 0)))
        ⟨queuedStore, []⟩ = (.ok result, s) ∧
      result.selectedCount = 1 ∧ result.processedCount = 0 ∧ result.failedCount = 1 ∧
      Stranded s.db 1 := by
  have valid : (settings 30 3600).Valid := ⟨by decide +kernel, by decide, by decide⟩
  let cycle := (sendingCycle (settings 30 3600)).eval
    (CycleOp.perform sha times fun _ =>
      raised .runtimeError ("reply " ++ String.singleton (Char.ofNat 0))) ⟨queuedStore, []⟩
  have outcome : cycle.1 = .ok ⟨1, 0, 0, 0, 0, 0, 0, 1⟩ := by decide +kernel
  have stranded : Stranded cycle.2.db 1 := by decide +kernel
  exact ⟨freshStore_fresh, reached_queuedStore, valid, _, cycle.2, Prod.ext outcome rfl, rfl, rfl,
    rfl, stranded⟩

end RfidBridge
