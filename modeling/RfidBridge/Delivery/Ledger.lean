import RfidBridge.Delivery.DeliveryService

/-!
The life of one event: an abstract automaton over its queue state and its list
of delivery attempts. Everything the delivery ledger promises about an event is a
fact about the runs of this automaton.
-/

namespace RfidBridge

inductive Ledger : QueueState → List DeliveryAttempt → Prop
  | created : Ledger .unassigned []
  | assigned {attempts} : Ledger .unassigned attempts → Ledger .queued attempts
  | opened {state attempts attempt} :
      Ledger state attempts → state = .queued ∨ state = .retry →
      attempt.outcome = .started → attempt.attemptNumber = attempts.length + 1 →
      attempt.completedAt = none → attempt.nextRetryAt = none →
      Ledger .inflight (attempts ++ [attempt])
  | closed {attempts attempt outcome target responseCode errorKind detail now next} :
      Ledger .inflight (attempts ++ [attempt]) → outcomeToQueueState outcome = some target →
      (Option.isSome next ↔ outcome = .retry) →
      Ledger target
        (attempts ++ [closeAttempt outcome responseCode errorKind detail now next attempt])
  | abandoned {state attempts} :
      Ledger state attempts → state = .queued ∨ state = .retry → Ledger .dead attempts

/-- An attempt that ended in RETRY and says when to try again. -/
def Retried (attempt : DeliveryAttempt) : Prop :=
  attempt.outcome = .retry ∧ attempt.completedAt.isSome ∧ attempt.nextRetryAt.isSome

/-- The last attempt of an event, as its queue state determines it. -/
inductive LastAttempt : QueueState → Option DeliveryAttempt → Prop
  | unassigned : LastAttempt .unassigned none
  | queued : LastAttempt .queued none
  | inflight {attempt} : attempt.outcome = .started → attempt.completedAt = none →
      attempt.nextRetryAt = none → LastAttempt .inflight (some attempt)
  | retry {attempt} : Retried attempt → LastAttempt .retry (some attempt)
  | ended {state attempt} : outcomeToQueueState attempt.outcome = some state → state ≠ .retry →
      attempt.completedAt.isSome → attempt.nextRetryAt = none → LastAttempt state (some attempt)
  | exhausted {attempt} : Retried attempt → LastAttempt .dead (some attempt)
  | undelivered : LastAttempt .dead none

namespace Ledger
variable {state : QueueState} {attempts : List DeliveryAttempt}

/-- An event that waits for delivery has no last attempt, or a retried one. -/
theorem retried_of_waiting {last : Option DeliveryAttempt} (h : LastAttempt state last)
    (waiting : state = .queued ∨ state = .retry) : ∀ a ∈ last, Retried a := by
  cases h with
  | queued => nofun
  | retry retried =>
      rintro a ⟨⟩
      exact retried
  | ended target notRetry =>
      rcases waiting with rfl | rfl
      · exact absurd rfl (target_of_outcome target).2.1
      · exact absurd rfl notRetry
  | _ => simp at waiting

theorem all_retried (retried : ∀ a ∈ attempts.dropLast, Retried a)
    (last : ∀ a ∈ attempts.getLast?, Retried a) : ∀ a ∈ attempts, Retried a := by
  intro a member
  rcases List.eq_nil_or_concat attempts with rfl | ⟨front, b, rfl⟩
  · cases member
  · rw [List.concat_eq_append] at retried last member
    rw [List.dropLast_concat] at retried
    rw [List.getLast?_concat] at last
    rcases List.mem_append.mp member with h | h
    · exact retried a h
    · exact List.mem_singleton.mp h ▸ last b rfl

/-- The shape of an event's attempts: numbered from one, retried but for the last. -/
theorem shape (h : Ledger state attempts) :
    attempts.map (·.attemptNumber) = List.range' 1 attempts.length ∧
    (∀ a ∈ attempts.dropLast, Retried a) ∧ LastAttempt state attempts.getLast? := by
  induction h with
  | created => exact ⟨rfl, nofun, .unassigned⟩
  | assigned _ ih =>
      obtain ⟨numbered, retried, last⟩ := ih
      refine ⟨numbered, retried, ?_⟩
      generalize List.getLast? _ = a at last
      cases last with
      | unassigned => exact .queued
      | ended target => exact absurd rfl (target_of_outcome target).1
  | @opened state attempts attempt _ waiting started number completed next ih =>
      obtain ⟨numbered, retried, last⟩ := ih
      refine ⟨?_, ?_, ?_⟩
      · rw [List.map_append, numbered, List.length_append, List.map_singleton, number,
          List.length_singleton, List.range'_concat]
        simp [Nat.add_comm]
      · rw [List.dropLast_concat]
        exact all_retried retried (retried_of_waiting last waiting)
      · rw [List.getLast?_concat]
        exact .inflight started completed next
  | @closed attempts attempt outcome target responseCode errorKind detail now next _ hasTarget
      scheduled ih =>
      obtain ⟨numbered, retried, -⟩ := ih
      refine ⟨?_, ?_, ?_⟩
      · simpa [closeAttempt] using numbered
      · simpa using retried
      · rw [List.getLast?_concat]
        by_cases again : outcome = .retry
        · subst again
          cases hasTarget
          exact .retry ⟨rfl, rfl, scheduled.mpr rfl⟩
        · refine .ended hasTarget ?_ rfl ?_
          · rintro rfl
            cases outcome <;> cases hasTarget
            exact again rfl
          · exact Option.not_isSome_iff_eq_none.mp fun h => again (scheduled.mp h)
  | abandoned _ waiting ih =>
      obtain ⟨numbered, retried, last⟩ := ih
      refine ⟨numbered, retried, ?_⟩
      have lastRetried := retried_of_waiting last waiting
      cases hlast : List.getLast? _ with
      | none => exact .undelivered
      | some a => exact .exhausted (lastRetried a hlast)

/-- The attempts are numbered by their places. -/
theorem number_of_getElem (h : Ledger state attempts) {i : Nat} (inside : i < attempts.length) :
    attempts[i].attemptNumber = i + 1 := by
  have same : (attempts.map (·.attemptNumber))[i]? = (List.range' 1 attempts.length)[i]? := by
    rw [h.shape.1]
  rw [List.getElem?_map, List.getElem?_eq_getElem inside,
    List.getElem?_eq_getElem (by simpa using inside), List.getElem_range'] at same
  simp only [Option.map_some, Option.some.injEq] at same
  omega

theorem number_le (h : Ledger state attempts) {a : DeliveryAttempt} (member : a ∈ attempts) :
    a.attemptNumber ≤ attempts.length := by
  obtain ⟨i, inside, rfl⟩ := List.getElem_of_mem member
  rw [h.number_of_getElem inside]
  omega

/-- The attempt with the largest number is the last one. -/
theorem getLast?_of_number (h : Ledger state attempts) {a : DeliveryAttempt}
    (member : a ∈ attempts) (number : attempts.length ≤ a.attemptNumber) :
    attempts.getLast? = some a := by
  obtain ⟨i, inside, rfl⟩ := List.getElem_of_mem member
  rw [h.number_of_getElem inside] at number
  rw [List.getLast?_eq_getElem?, ← List.getElem?_eq_getElem inside]
  congr 1
  omega

theorem number_of_getLast? (h : Ledger state attempts) {a : DeliveryAttempt}
    (last : attempts.getLast? = some a) : a.attemptNumber = attempts.length := by
  rw [List.getLast?_eq_getElem?] at last
  obtain ⟨inside, rfl⟩ := List.getElem?_eq_some_iff.mp last
  rw [h.number_of_getElem inside]
  omega

/-- The attempt that the queries call the latest is the last one. -/
theorem argmax_number (h : Ledger state attempts) :
    attempts.argmax (·.attemptNumber) = attempts.getLast? := by
  cases best : attempts.argmax (·.attemptNumber) with
  | none => rw [List.argmax_eq_none.mp best, List.getLast?_nil]
  | some latest =>
      have member := List.argmax_mem best
      have nonempty : 0 < attempts.length := List.length_pos_of_mem member
      have last := h.number_of_getElem (Nat.sub_lt nonempty Nat.one_pos)
      have le : attempts[attempts.length - 1].attemptNumber ≤ latest.attemptNumber :=
        List.le_of_mem_argmax (List.getElem_mem _) best
      rw [h.getLast?_of_number member (by omega)]

/-- The number that the next attempt takes. -/
theorem next_number (h : Ledger state attempts) :
    (match attempts.argmax (·.attemptNumber) with
      | some previous => previous.attemptNumber + 1
      | none => 1) = attempts.length + 1 := by
  rw [h.argmax_number]
  cases last : attempts.getLast? with
  | none => rw [List.getLast?_eq_none_iff.mp last, List.length_nil]
  | some previous => exact congrArg (· + 1) (h.number_of_getLast? last)

end Ledger
end RfidBridge
