import RfidBridge.Python.Statements
import RfidBridge.Store.Transactions

/-!
final_delivery_barrier.py: the check in front of the success acknowledgement of a
STOP. It passes only when every final event of the session is SENT.
-/

namespace RfidBridge

structure FinalDeliveryBarrierResult where
  totalCount : Nat
  sentCount : Nat
  pendingCount : Nat
  failedCount : Nat
  deriving DecidableEq, Repr

def countStates (states : List QueueState) : FinalDeliveryBarrierResult :=
  let sentCount := states.countP fun state => state == .sent
  let failedCount := states.countP fun state => state == .rejected || state == .dead
  { totalCount := states.length
    sentCount
    pendingCount := states.length - sentCount - failedCount
    failedCount }

section
variable {ι : Type} {ρ : ι → Type} (store : (op : StoreOp) → Program ι ρ op.Answer)

def inspectFinalSessionDelivery (sessionKey readerCode : String) :
    Program ι ρ FinalDeliveryBarrierResult :=
  if strip sessionKey = "" then
    raising .finalDeliveryBarrierError "STOP delivery barrier requires a session key."
  else if strip readerCode = "" then
    raising .finalDeliveryBarrierError "STOP delivery barrier requires a reader code."
  else do
    let states ← store (.finalQueueStates (strip sessionKey) (strip readerCode))
    pure (countStates states)

def requireFinalSessionDeliveryComplete (sessionKey readerCode : String) :
    Program ι ρ FinalDeliveryBarrierResult := do
  let result ← inspectFinalSessionDelivery store sessionKey readerCode
  if result.failedCount ≠ 0 then
    raising .finalDeliveryBarrierFailed ("STOP success ACK blocked because " ++
      s!"{result.failedCount} final RFID event(s) " ++
      "are rejected or dead and require recovery.")
  else if result.pendingCount ≠ 0 then
    raising .finalDeliveryBarrierPending ("STOP success ACK waiting for " ++
      s!"{result.pendingCount} final RFID event(s) to be delivered to Odoo.")
  else
    pure result

end

theorem calls_requireFinalSessionDeliveryComplete {ι : Type} {ρ : ι → Type} {allowed : ι → Prop}
    {store : (op : StoreOp) → Program ι ρ op.Answer} {sessionKey readerCode : String}
    (query : ∀ sessionKey readerCode,
      (store (.finalQueueStates sessionKey readerCode)).Calls allowed) :
    (requireFinalSessionDeliveryComplete store sessionKey readerCode).Calls allowed := by
  have inspects : (inspectFinalSessionDelivery store sessionKey readerCode).Calls allowed := by
    unfold inspectFinalSessionDelivery
    split
    · exact Prog.calls_raise _ _
    split
    · exact Prog.calls_raise _ _
    exact Prog.calls_bind (query _ _) fun _ => Prog.calls_pure _ _
  apply Prog.calls_bind inspects
  intro result
  split
  · exact Prog.calls_raise _ _
  split
  · exact Prog.calls_raise _ _
  · exact Prog.calls_pure _ _

/-- Nothing failed and nothing pending leaves only SENT. -/
theorem all_sent_of_counts {states : List QueueState}
    (failed : (countStates states).failedCount = 0)
    (pending : (countStates states).pendingCount = 0) : ∀ state ∈ states, state = .sent := by
  simp only [countStates] at failed pending
  have total : states.length ≤ states.countP fun state => state == .sent := by omega
  have all := List.countP_eq_length.mp (Nat.le_antisymm List.countP_le_length total)
  intro state member
  simpa using all state member

end RfidBridge
