import Mathlib.Algebra.Group.Int.Defs
import RfidBridge.Store.Models

/-!
queue_policy.py: the allowed transitions of an event's queue state, and the
exponential retry delay with its cap.
-/

namespace RfidBridge

def allowedTransitions : QueueState → List QueueState
  | .unassigned => [.queued, .rejected]
  | .queued => [.inflight, .rejected, .dead]
  | .inflight => [.sent, .retry, .rejected, .dead]
  | .retry => [.inflight, .dead]
  | .sent | .rejected | .dead => []

def validateQueueTransition (currentState targetState : QueueState) : Except PyException Unit :=
  if currentState = targetState then
    raised .valueError s!"Queue transition cannot remain in state: {currentState.value}"
  else if targetState ∉ allowedTransitions currentState then
    raised .valueError
      s!"Illegal queue transition: {currentState.value} -> {targetState.value}"
  else
    .ok ()

def calculateRetryDelaySeconds (attemptNumber initialSeconds maximumSeconds : Int) :
    Except PyException Int :=
  if attemptNumber < 1 then
    raised .valueError "Attempt number must be at least 1."
  else if initialSeconds < 1 then
    raised .valueError "Initial retry seconds must be at least 1."
  else if maximumSeconds < initialSeconds then
    raised .valueError "Maximum retry seconds cannot be less than initial seconds."
  else
    .ok (min (initialSeconds * 2 ^ (attemptNumber - 1).toNat) maximumSeconds)

/-- A state that no transition leaves. -/
def QueueState.Terminal (state : QueueState) : Prop := allowedTransitions state = []

instance (state : QueueState) : Decidable state.Terminal :=
  inferInstanceAs (Decidable (_ = _))

theorem QueueState.terminal_iff (state : QueueState) :
    state.Terminal ↔ state = .sent ∨ state = .rejected ∨ state = .dead := by
  cases state <;> decide

theorem validateQueueTransition_eq_ok {currentState targetState : QueueState} {u : Unit} :
    validateQueueTransition currentState targetState = .ok u ↔
      targetState ∈ allowedTransitions currentState := by
  have stays : ∀ s, s ∉ allowedTransitions s := by intro s; cases s <;> decide
  simp only [validateQueueTransition, guard_eq_ok, not_not, and_true]
  constructor
  · exact fun h => h.2
  · rintro legal
    exact ⟨by rintro rfl; exact stays _ legal, legal⟩

end RfidBridge
