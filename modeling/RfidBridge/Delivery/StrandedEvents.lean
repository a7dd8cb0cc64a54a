import RfidBridge.Delivery.CycleAccount

/-!
A cycle swallows the exception of a closing transaction that is refused. The event of that
transaction stays INFLIGHT, and which replies are refused is decided by the retry settings
and the columns.
-/

namespace RfidBridge
open Database

section
variable {sha : Sha256} {times : CycleTimes} {db db' : Database} {settings : DeliverySettings}
  {reply : Candidate → Except PyException DeliverySenderResult}

/-- A cycle that returns has selected its candidates. -/
theorem selectForCycle_of_returned {result : FinalDeliveryCycleResult}
    (returned : (finalDeliveryCycle settings reply).eval (StoreOp.perform sha times) db =
      (.ok result, db')) :
    ∃ candidates db₁,
      (selectForCycle settings).eval (StoreOp.perform sha times) db = (.ok candidates, db₁) := by
  obtain ⟨_, db₁, positive, returned⟩ := Prog.eval_bind_eq_ok.mp returned
  obtain ⟨cancelled, db₂, first, returned⟩ := Prog.eval_bind_eq_ok.mp returned
  obtain ⟨exhausted, db₃, second, returned⟩ := Prog.eval_bind_eq_ok.mp returned
  obtain ⟨candidates, db₄, selected, returned⟩ := Prog.eval_bind_eq_ok.mp returned
  exact ⟨candidates, db₄, Prog.eval_bind_eq_ok.mpr ⟨_, db₁, positive, Prog.eval_bind_eq_ok.mpr
    ⟨cancelled, db₂, first, Prog.eval_bind_eq_ok.mpr ⟨exhausted, db₃, second, selected⟩⟩⟩⟩

/-- A cycle leaves none of its candidates stranded exactly when the result of each can be
recorded. -/
theorem finalDeliveryCycle_strands_iff {db₀ : Database} {result : FinalDeliveryCycleResult}
    (fresh : FreshStore db₀) (reached : Evolves sha db₀ db)
    (column : settings.maxDeliveryAttempts ≤ maxPositiveInteger)
    (returned : (finalDeliveryCycle settings reply).eval (StoreOp.perform sha times) db =
      (.ok result, db')) :
    ∃ candidates db₁,
      (selectForCycle settings).eval (StoreOp.perform sha times) db = (.ok candidates, db₁) ∧
      ((∀ c ∈ candidates, ¬ Stranded db' c.event.id) ↔
        ∀ c ∈ candidates, Recordable sha.toUtf8 settings ((db.attemptsOf c.event.id).length + 1)
          (times.completed c.event.id) (recordedResult (reply c))) := by
  have ledger : StoreLedger db :=
    reached.keeps StoreLedger.edit StoreLedger.opened (.of_fresh fresh.noAttempts fresh.unassigned)
  obtain ⟨candidates, db₁, selected⟩ := selectForCycle_of_returned returned
  have chosen := eval_post (@sat_selectForCycle sha times db settings ledger)
  rw [selected] at chosen
  obtain rfl : candidates = db.cycleCandidates settings times.selection := chosen
  have account := eval_post (@sat_finalDeliveryCycle sha times db settings reply ledger)
  rw [returned] at account
  refine ⟨_, db₁, selected, ?_⟩
  apply forall₂_congr
  intro c hc
  have deliverable := (deliverable_of_cycleCandidates ledger account.valid.limit hc).1
  have startable : Startable settings db c.event := by
    refine ⟨deliverable, ?_⟩
    have within := deliverable.within
    omega
  rw [(account.treated c hc).stranded_iff startable, not_not]

end

/-! A store with one final event, for cycles that can be evaluated. -/

namespace OneTag

def sha : Sha256 :=
  ⟨plainUtf8, fun _ => zeros, fun _ => length_zeros, fun _ => hex_zeros⟩

def freshStore : Database :=
  { oneEventStore with events := (Table.empty : Table RawRFIDEvent).insert fun id =>
    { id, deviceId := 1, readerEventKey := "final:S1:E2", epc := "E2", rawPayload := .text "",
      receivedAt := 0 } }

/-- The event is in the session and waits for delivery. -/
def queuedStore : Database :=
  { freshStore with events := freshStore.events.update 1 fun e =>
    { e with rfidSessionId := some 1, queueState := .queued } }

theorem freshStore_fresh : FreshStore freshStore :=
  ⟨by simp [freshStore, Table.insert, Table.empty], rfl⟩

theorem reached_queuedStore : Evolves sha freshStore queuedStore :=
  .single ⟨.assignEventToActiveSession 1, 0, (), trivial, rfl⟩

def times : CycleTimes := ⟨10, fun _ => 20, fun _ => 30⟩

def settings (retryInitialSeconds retryMaxSeconds : Int) : DeliverySettings where
  readerCode := "GATE-1"
  batchSize := 10
  maxDeliveryAttempts := 3
  retryInitialSeconds
  retryMaxSeconds

def py : Builtins where
  containerText _ := "{}"
  reprText := id
  intOfText _ := none
  upper := id
  lower := id

/-- The bridge's sender on an answer of Odoo with these fields. -/
def reply (answer : List (String × Json)) (_ : Candidate) :
    Except PyException DeliverySenderResult :=
  .ok (FinalOdooEventSender.resultOfAnswer py "event-1" (.dict answer))

def acceptance : List (String × Json) :=
  [("ok", .bool true), ("results", .list [.dict
    [("event_uuid", .str "event-1"), ("outcome", .str "accepted")]])]

end OneTag

theorem run_of_outcome {α : Type} {run : Except PyException α × Database}
    {outcome : Except PyException α} (h : run.1 = outcome) : run = (outcome, run.2) := by
  rw [← h]

open OneTag in
/-- Odoo accepts the event of a queued tag, and the cycle records it. -/
theorem finalDeliveryCycle_strands_iff_accepted :
    ∃ db' result, ∃ candidates : List Candidate,
      (finalDeliveryCycle (settings 30 3600) (reply acceptance)).eval
          (StoreOp.perform sha times) queuedStore = (.ok result, db') ∧
      candidates.map (·.event.id) = [1] ∧
      ∀ c ∈ candidates, ¬ Stranded db' c.event.id := by
  let cycle := (finalDeliveryCycle (settings 30 3600) (reply acceptance)).eval
    (StoreOp.perform sha times) queuedStore
  have outcome : cycle.1 = .ok ⟨1, 1, 1, 0, 0, 0, 0, 0⟩ := by decide +kernel
  have returned := run_of_outcome outcome
  obtain ⟨candidates, db₁, selected, iff⟩ :=
    finalDeliveryCycle_strands_iff freshStore_fresh reached_queuedStore (by decide) returned
  have listed : ((selectForCycle (settings 30 3600)).eval (StoreOp.perform sha times)
      queuedStore).1 = .ok (queuedStore.selectCandidates "GATE-1" 10 10) := by decide +kernel
  rw [selected] at listed
  cases listed
  refine ⟨cycle.2, _, _, returned, by decide +kernel, iff.mpr ?_⟩
  intro c hc
  have accepted : FinalOdooEventSender.resultOfAnswer py "event-1" (.dict acceptance) =
      ⟨.sent, "accepted", "", "RFID event accepted by Odoo."⟩ := by decide +kernel
  show Recordable _ _ _ _ (FinalOdooEventSender.resultOfAnswer py "event-1" (.dict acceptance))
  rw [accepted]
  exact ⟨rfl, by decide, by decide, by decide, nofun⟩

open OneTag in
/-- Odoo refuses a request while the largest retry delay is below the initial one: the
cycle returns, and its event stays INFLIGHT. -/
theorem finalDeliveryCycle_strands :
    FreshStore freshStore ∧ Evolves sha freshStore queuedStore ∧
    ∃ db' candidates db₁ result,
      (finalDeliveryCycle (settings 30 10) (reply [("ok", .bool false)])).eval
          (StoreOp.perform sha times) queuedStore = (.ok result, db') ∧
      (selectForCycle (settings 30 10)).eval (StoreOp.perform sha times) queuedStore =
        (.ok candidates, db₁) ∧
      ∃ c ∈ candidates, Stranded db' c.event.id := by
  let cycle := (finalDeliveryCycle (settings 30 10) (reply [("ok", .bool false)])).eval
    (StoreOp.perform sha times) queuedStore
  let selection := (selectForCycle (settings 30 10)).eval (StoreOp.perform sha times) queuedStore
  have outcome : cycle.1 = .ok ⟨1, 0, 0, 0, 0, 0, 0, 1⟩ := by decide +kernel
  have chosen : selection.1 = .ok (queuedStore.selectCandidates "GATE-1" 10 10) := by
    decide +kernel
  have stranded :
      ∃ c ∈ queuedStore.selectCandidates "GATE-1" 10 10, Stranded cycle.2 c.event.id := by
    decide +kernel
  exact ⟨freshStore_fresh, reached_queuedStore, cycle.2, _, selection.2, _, run_of_outcome outcome,
    run_of_outcome chosen, stranded⟩

end RfidBridge
