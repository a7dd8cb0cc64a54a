import RfidBridge.Delivery.DeliveryLedger
import RfidBridge.Worker.CaptureCalls
import RfidBridge.Worker.System

/-!
What each thread of the bridge can call. Only the control thread sends requests,
opens sessions and writes the attributes of the executor; the reader only obeys.
-/

namespace RfidBridge

/-- The operations of a delivery worker: its requests, its queries, and the transactions
of attempts and dead-letter passes. -/
def BridgeOp.delivers : BridgeOp → Prop
  | .events .. => True
  | .store op => op.Issued ∧ (op.deadLetters = true ∨ op.isRoutine = false)
  | _ => False

/-- Which operations the code of a thread can call. -/
def BridgeOp.belongs : Thread → BridgeOp → Prop
  | .control, _ => True
  | .capture n, op => op.polls n
  | .delivery _, op => op.delivers
  | .reader, op => op = .processRequest

section
variable {env : BridgeEnv}

theorem delivers_store {op : StoreOp} (issued : op.Issued)
    (mine : op.deadLetters = true ∨ op.isRoutine = false) :
    (store op).Calls BridgeOp.delivers :=
  Prog.calls_perform ⟨issued, mine⟩

theorem delivers_eventsCall (attemptId : Nat) (sessionKey readerCode : String)
    (payload : EventPayload) :
    (eventsCall attemptId sessionKey readerCode payload).Calls BridgeOp.delivers :=
  Prog.calls_bind (Prog.calls_perform (by trivial)) fun _ => Prog.calls_pure _ _

theorem delivers_sendEvent (attemptId : Nat) (readerCode : String) (candidate : Candidate) :
    (FinalOdooEventSender.sendEvent env.py env.texts (eventsCall attemptId) readerCode
      candidate).Calls BridgeOp.delivers := by
  unfold FinalOdooEventSender.sendEvent
  split
  · exact Prog.calls_raise _ _
  split
  · exact Prog.calls_raise _ _
  split
  · exact Prog.calls_raise _ _
  split
  · exact Prog.calls_raise _ _
  split
  · exact Prog.calls_raise _ _
  split
  · exact Prog.calls_raise _ _
  split
  · exact Prog.calls_raise _ _
  split
  · exact Prog.calls_raise _ _
  apply calls_tryElse (delivers_eventsCall _ _ _ _)
  · intro exc
    split
    · exact Prog.calls_pure _ _
    · exact Prog.calls_raise _ _
  · exact fun _ => Prog.calls_pure _ _

theorem delivers_deliveryCycle (settings : DeliverySettings) :
    (deliveryCycle env settings).Calls BridgeOp.delivers := by
  refine Prog.calls_handle ?_ fun _ => Prog.calls_pure _ _
  apply calls_runFinalDeliveryCycle
  · exact fun op issued passes => delivers_store issued (.inl passes)
  · exact fun readerCode batchSize => delivers_store trivial (.inr rfl)
  · exact fun eventId expectedState limit => delivers_store trivial (.inr rfl)
  · exact fun _ _ _ _ _ _ => delivers_store trivial (.inr rfl)
  · exact fun attemptId candidate => delivers_sendEvent attemptId _ candidate

/-- A success acknowledgement with the delivery barrier in front of it. -/
theorem calls_sendCompletedSuccessAck {allowed : BridgeOp → Prop} (device : ReaderDevice)
    (command : OdooRFIDCommand)
    (query : ∀ sessionKey readerCode, allowed (.store (.finalQueueStates sessionKey readerCode)))
    (ack : allowed (.ack (ackRequest command true (successAckMessage command.command)))) :
    (FinalRuntimeOrchestrator.sendCompletedSuccessAck (FinalWorkerCycle.collaborators device)
      command).Calls allowed := by
  have barrier : (FinalWorkerCycle.requireStopDeliveryComplete device command.sessionKey
      command.readerCode).Calls allowed := by
    unfold FinalWorkerCycle.requireStopDeliveryComplete
    split
    · exact Prog.calls_raise _ _
    · exact Prog.calls_bind (calls_requireFinalSessionDeliveryComplete fun sessionKey readerCode =>
        Prog.calls_perform (query sessionKey readerCode)) fun _ => Prog.calls_pure _ _
  apply Prog.calls_bind
  · cases command.command == RuntimeCommand.stop with
    | true => exact barrier
    | false => exact Prog.calls_pure _ _
  intro _
  apply Prog.calls_bind (Prog.calls_perform ack)
  intro result
  cases !result.isOk with
  | true => exact Prog.calls_raise _ _
  | false => exact Prog.calls_pure _ _

theorem belongs_of_body (t : Thread) (p : Bridge Unit) (body : BridgeBody env t p) :
    p.Calls (BridgeOp.belongs t) := by
  cases body with
  | capture n => exact polls_threadMain n
  | delivery n settings => exact delivers_deliveryCycle settings
  | reader => exact Prog.calls_perform rfl

/-- In every run, each thread is within its own operations. -/
theorem belongs_of_run {settings : CommandSettings} {c₀ c : BridgePool}
    (started : Started env settings c₀) (run : BridgeSteps env c₀ c) :
    c.Within BridgeOp.belongs := by
  have init : c₀.Within BridgeOp.belongs := by
    intro t
    by_cases main : t = .control
    · subst main
      exact Prog.calls_any (fun _ => trivial) _
    · rw [started.idle t main]
      exact Prog.calls_pure _ _
  exact (Pool.invariant_of_allowed (I := fun _ => True) belongs_of_body
    (fun _ _ _ _ _ _ _ _ => trivial) init trivial run).1

end
end RfidBridge
