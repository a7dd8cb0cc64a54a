import RfidBridge.Delivery.Ledger
import RfidBridge.Store.Edits

/-!
The store refines the event automaton: in every reachable database the queue
state of each event and the attempts stored for it form a run of the automaton,
and no attempt belongs to an event that does not exist.
-/

namespace RfidBridge
open Database

structure StoreLedger (db : Database) : Prop where
  ledger : ∀ e ∈ db.events.rows, Ledger e.queueState (db.attemptsOf e.id)
  owned : ∀ a ∈ db.attempts.rows, ∃ e ∈ db.events.rows, e.id = a.eventId

namespace Database
variable (db : Database)

theorem attemptsOf_insertAttempt (eventId number : Nat) (now : Timestamp) (other : Nat) :
    (db.insertAttempt eventId number now).attemptsOf other =
      db.attemptsOf other ++
        (if eventId = other then
          [{ id := db.attempts.nextKey, eventId, attemptNumber := number, outcome := .started,
             attemptedAt := now }]
        else []) := by
  simp only [attemptsOf, insertAttempt, Table.insert, List.filter_append]
  congr 1
  by_cases h : eventId = other <;> simp [h]

/-- Changing one attempt changes it in place in the list of its event. -/
theorem attemptsOf_update (k : Nat) (change : DeliveryAttempt → DeliveryAttempt) (keeps)
    (other : Nat) (same : ∀ a, (change a).eventId = a.eventId) :
    { db with attempts := db.attempts.update k change keeps }.attemptsOf other =
      (db.attemptsOf other).map fun a => if a.id = k then change a else a := by
  simp only [attemptsOf, Table.update, List.filter_map]
  congr 1
  apply List.filter_congr
  intro a _
  simp only [Function.comp, key_attempt]
  split
  · rw [same]
  · rfl

end Database

namespace StoreLedger
variable {db : Database}

theorem attemptsOf_fresh (inv : StoreLedger db) : db.attemptsOf db.events.nextKey = [] := by
  apply List.filter_eq_nil_iff.mpr
  intro a member
  obtain ⟨e, he, same⟩ := inv.owned a member
  have := db.events.below e he
  simp only [key_event] at this
  simp only [beq_iff_eq]
  omega

/-- The queue state of one event moves while every list of attempts stays. -/
theorem of_setQueueState (inv : StoreLedger db) {change : RawRFIDEvent → RawRFIDEvent} {k : Nat}
    (keeps : ∀ e, Keyed.key (change e) = Keyed.key e)
    (moved : ∀ e ∈ db.events.rows, e.id = k →
      Ledger (change e).queueState (db.attemptsOf e.id)) :
    StoreLedger { db with events := db.events.update k change keeps } where
  ledger e member := by
    rcases (Table.mem_update _ _ _ keeps _).mp member with ⟨old, _⟩ | ⟨e₀, old, same, rfl⟩
    · exact inv.ledger e old
    · have id : (change e₀).id = e₀.id := keeps e₀
      rw [id]
      exact moved e₀ old same
  owned a member := Table.exists_key_update _ _ _ keeps (inv.owned a member)

/-- An open attempt of an event is its last one, behind closed attempts only. -/
theorem last_of_started (inv : StoreLedger db) {e : RawRFIDEvent} {a : DeliveryAttempt}
    (he : e ∈ db.events.rows) (ha : a ∈ db.attemptsOf e.id) (started : a.outcome = .started) :
    ∃ front, db.attemptsOf e.id = front ++ [a] ∧ ∀ b ∈ front, b.outcome ≠ .started := by
  obtain ⟨-, retried, -⟩ := (inv.ledger e he).shape
  rcases List.eq_nil_or_concat (db.attemptsOf e.id) with empty | ⟨front, b, split⟩
  · rw [empty] at ha
    cases ha
  · rw [List.concat_eq_append] at split
    rw [split, List.dropLast_concat] at retried
    rw [split] at ha
    have notStarted : ∀ c ∈ front, c.outcome ≠ .started := by
      intro c hc h
      have := (retried c hc).1
      rw [h] at this
      cases this
    rcases List.mem_append.mp ha with early | last
    · exact absurd started (notStarted a early)
    · rw [List.mem_singleton.mp last]
      exact ⟨front, split, notStarted⟩

theorem edit {scope : EditScope} {db' : Database} (h : Edit scope db db')
    (inv : StoreLedger db) : StoreLedger db' := by
  cases h with
  | openSession | finishSession => exact ⟨inv.ledger, inv.owned⟩
  | addEvent row keyed deviceId readerEventKey fresh identity absent =>
      refine ⟨?_, ?_⟩
      · intro e member
        rcases (Table.mem_insert _ _ keyed _).mp member with old | rfl
        · exact inv.ledger e old
        · have id : (row db.events.nextKey).id = db.events.nextKey := keyed _
          show Ledger _ (db.attemptsOf _)
          rw [id, inv.attemptsOf_fresh, (fresh _).1]
          exact .created
      · exact fun a member => Table.exists_key_insert _ _ keyed (inv.owned a member)
  | assignEvent event session member unassigned =>
      apply inv.of_setQueueState
      intro e he same
      have : e = event := db.events.eq_of_key_eq he member same
      subst this
      exact .assigned (unassigned ▸ inv.ledger e he)
  | deadLetter event member waiting =>
      apply inv.of_setQueueState
      intro e he same
      have : e = event := db.events.eq_of_key_eq he member same
      subst this
      exact .abandoned (inv.ledger e he) waiting
  | completeAttempt event attempt outcome target responseCode errorKind detail now next member
      inflight memberAttempt mine started hasTarget scheduled =>
      have listed : attempt ∈ db.attemptsOf event.id := mem_attemptsOf.mpr ⟨memberAttempt, mine⟩
      obtain ⟨front, split, closed⟩ := inv.last_of_started member listed started
      have others : ∀ a ∈ db.attempts.rows, a.id = attempt.id → a = attempt :=
        fun a ha same => db.attempts.eq_of_key_eq ha memberAttempt same
      refine ⟨?_, ?_⟩
      · intro e he
        refine Eq.mpr
          (congrArg (Ledger _) (attemptsOf_update db attempt.id _ _ e.id fun _ => rfl)) ?_
        rcases (mem_setQueueState db event.id target e).mp he with
          ⟨old, other⟩ | ⟨e₀, old, same, rfl⟩
        · have untouched : ∀ a ∈ db.attemptsOf e.id, a.id ≠ attempt.id := by
            intro a ha same
            obtain ⟨row, owner⟩ := mem_attemptsOf.mp ha
            rw [others a row same, mine] at owner
            exact other owner.symm
          rw [List.map_congr_left fun a ha => if_neg (untouched a ha), List.map_id']
          exact inv.ledger e old
        · have : e₀ = event := db.events.eq_of_key_eq old member same
          subst this
          have untouched : ∀ a ∈ front, a.id ≠ attempt.id := by
            intro a ha same
            have row := (mem_attemptsOf.mp (split ▸ List.mem_append_left _ ha)).1
            exact closed a ha (others a row same ▸ started)
          have open_ := inv.ledger e₀ old
          simp only [split, List.map_append, List.map_singleton, if_true] at open_ ⊢
          rw [List.map_congr_left fun a ha => if_neg (untouched a ha), List.map_id']
          exact .closed (inflight ▸ open_) hasTarget scheduled
      · intro a ha
        apply exists_id_setQueueState db event.id target
        rcases (Table.mem_update db.attempts attempt.id (closeAttempt outcome responseCode
          errorKind detail now next) (fun _ => rfl) a).mp ha with ⟨old, _⟩ | ⟨a₀, old, _, rfl⟩
        · exact inv.owned a old
        · exact inv.owned a₀ old

theorem opened {event : RawRFIDEvent} {now : Timestamp} (member : event ∈ db.events.rows)
    (waiting : event.queueState = .queued ∨ event.queueState = .retry) (inv : StoreLedger db) :
    StoreLedger (db.openAttempt event.id now) := by
  have number : nextAttemptNumber db event.id = (db.attemptsOf event.id).length + 1 :=
    (inv.ledger event member).next_number
  refine ⟨?_, ?_⟩
  · intro e he
    rw [openAttempt, attemptsOf_insertAttempt]
    show Ledger _ (db.attemptsOf e.id ++ _)
    rcases (mem_setQueueState db event.id .inflight e).mp he with
      ⟨old, other⟩ | ⟨e₀, old, same, rfl⟩
    · rw [if_neg fun h => other h.symm, List.append_nil]
      exact inv.ledger e old
    · have : e₀ = event := db.events.eq_of_key_eq old member same
      subst this
      rw [if_pos rfl, number]
      exact .opened (inv.ledger e₀ old) waiting rfl rfl rfl rfl
  · intro a ha
    apply exists_id_setQueueState db event.id .inflight
    rcases (mem_insertAttempt _ _ _ _ a).mp ha with old | rfl
    · exact inv.owned a old
    · exact ⟨event, member, rfl⟩

/-- A store of fresh events is a store of runs that have not begun. -/
theorem of_fresh (noAttempts : db.attempts.rows = [])
    (fresh : ∀ e ∈ db.events.rows, e.queueState = .unassigned) : StoreLedger db where
  ledger e he := by
    rw [fresh e he, attemptsOf, noAttempts]
    exact .created
  owned a ha := by
    rw [noAttempts] at ha
    cases ha

/-- Every operation of the bridge keeps the refinement. -/
theorem run {sha : Sha256} {now : Timestamp} {db' : Database} {op : StoreOp} {answer : op.Answer}
    (issued : op.Issued) (h : op.run sha now db = .ok (answer, db')) (inv : StoreLedger db) :
    StoreLedger db' :=
  StoreOp.run_invariant edit opened issued h inv

end StoreLedger
end RfidBridge
