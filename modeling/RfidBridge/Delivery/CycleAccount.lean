import RfidBridge.Delivery.CandidateDelivery

/-!
The account of a whole cycle with nobody beside it: its counters and what it leaves of each
event, from the store in front of it and the replies of the sender.
-/

namespace RfidBridge
open Database

section
variable {ι : Type} {ρ : ι → Type} (store : (op : StoreOp) → Prog ι ρ PyException op.Answer)

/-- The passes and the selection, with the number of exhausted events. -/
def beginCycle (settings : DeliverySettings) : Prog ι ρ PyException (Nat × List Candidate) := do
  requireMaxDeliveryAttempts settings.maxDeliveryAttempts
  let _ ← deadLetterCancelledSessionFinalEvents store settings.readerCode
  let exhausted ← deadLetterExhaustedFinalEvents store settings.readerCode
    settings.maxDeliveryAttempts
  let candidates ← selectFinalDeliveryCandidates store settings.readerCode settings.batchSize
  .ret (exhausted, candidates)

/-- The outcomes that a cycle counts. -/
abbrev countedOutcomes : List Outcome := [.sent, .retry, .rejected, .dead]

def cycleResult (exhausted : Nat) (candidates : List Candidate) (outcomes : List (Option Outcome)) :
    FinalDeliveryCycleResult where
  selectedCount := candidates.length
  processedCount := outcomes.countP Option.isSome
  sentCount := outcomes.count (some .sent)
  retryCount := outcomes.count (some .retry)
  rejectedCount := outcomes.count (some .rejected)
  deadCount := outcomes.count (some .dead)
  exhaustedDeadCount := exhausted
  failedCount := outcomes.countP fun outcome => outcome.all fun o => o ∉ countedOutcomes

theorem runFinalDeliveryCycle_eq
    (sendEvent : Nat → Candidate → Prog ι ρ PyException DeliverySenderResult)
    (settings : DeliverySettings) :
    runFinalDeliveryCycle store sendEvent settings =
      (beginCycle store settings).bind fun begun =>
        (Prog.forEach begun.2 (deliverCandidate store sendEvent settings)).bind fun outcomes =>
          .ret (cycleResult begun.1 begun.2 outcomes) := by
  have same : ∀ {α β : Type} (p : Prog ι ρ PyException α) (f : α → Prog ι ρ PyException β),
      (p >>= f) = p.bind f := fun _ _ => rfl
  simp only [runFinalDeliveryCycle, beginCycle, same, Prog.bind_bind]
  rfl

end

section
variable {sha : Sha256} {times : CycleTimes} {db db' : Database} {settings : DeliverySettings}
  {reply : Candidate → Except PyException DeliverySenderResult}

theorem sat_beginCycle (ledger : StoreLedger db) :
    (cycleAlone sha times).Sat (beginCycle Prog.perform settings)
      (endsOr (¬ settings.Valid) fun begun db' =>
        settings.Valid ∧ DeadLettered (DeadLettersOf settings db) db db' ∧
        begun.2 = db.cycleCandidates settings times.selection) db :=
  sat_selected ledger id fun _ _ valid dead => sat_returned ⟨valid, dead, rfl⟩

theorem countP_isSome_eq {outcomes : List (Option Outcome)}
    (counted : ∀ outcome ∈ outcomes, ∃ o ∈ countedOutcomes, outcome = some o) :
    outcomes.countP Option.isSome = outcomes.length ∧
    outcomes.count (some .sent) + outcomes.count (some .retry) + outcomes.count (some .rejected) +
      outcomes.count (some .dead) = outcomes.length := by
  induction outcomes with
  | nil => exact ⟨rfl, rfl⟩
  | cons outcome outcomes ih =>
      obtain ⟨some_, sum⟩ := ih fun o ho => counted o (List.mem_cons_of_mem _ ho)
      obtain ⟨o, member, rfl⟩ := counted outcome (List.mem_cons_self ..)
      rw [List.countP_cons, some_, List.length_cons]
      refine ⟨rfl, ?_⟩
      simp only [countedOutcomes, List.mem_cons, List.not_mem_nil, or_false] at member
      rcases member with rfl | rfl | rfl | rfl <;>
        simp only [List.count_cons, beq_iff_eq, Option.some.injEq, reduceCtorEq, if_true,
          if_false] <;>
        omega

/-- The counters of a cycle all of whose candidates are settled. -/
structure AllCounted (result : FinalDeliveryCycleResult) : Prop where
  failed : result.failedCount = 0
  processed : result.selectedCount = result.processedCount
  outcomes : result.processedCount =
    result.sentCount + result.retryCount + result.rejectedCount + result.deadCount

theorem mem_countedOutcomes {outcome : Outcome} :
    outcome ∈ countedOutcomes ↔ (outcomeToQueueState outcome).isSome := by
  cases outcome <;> simp [countedOutcomes, outcomeToQueueState]

/-- A cycle fails exactly for the candidates that are not settled. -/
theorem allCounted_iff {candidates : List Candidate} {exhausted : Nat}
    {outcomes : List (Option Outcome)}
    (counted :
      List.Forall₂ (fun c => Counted sha settings times db c (reply c)) candidates outcomes) :
    AllCounted (cycleResult exhausted candidates outcomes) ↔
      ∀ c ∈ candidates, Settles sha settings times db c (reply c) := by
  constructor
  · intro all c hc
    by_contra unsettled
    obtain ⟨i, inside, rfl⟩ := List.getElem_of_mem hc
    have bound : i < outcomes.length := counted.length_eq ▸ inside
    have none := (counted.get inside bound).failed unsettled
    have member : (Option.none : Option Outcome) ∈ outcomes := none ▸ List.get_mem ..
    have positive : 0 < (cycleResult exhausted candidates outcomes).failedCount :=
      List.countP_pos_iff.mpr ⟨Option.none, member, rfl⟩
    exact absurd all.failed positive.ne'
  · intro settles
    have known : ∀ outcome ∈ outcomes, ∃ o ∈ countedOutcomes, outcome = some o := by
      intro outcome ho
      obtain ⟨i, bound, rfl⟩ := List.getElem_of_mem ho
      have inside : i < candidates.length := counted.length_eq ▸ bound
      have settled := settles _ (List.getElem_mem inside)
      exact ⟨_, mem_countedOutcomes.mpr settled.recordable.outcome,
        (counted.get inside bound).settled settled⟩
    obtain ⟨processed, sum⟩ := countP_isSome_eq known
    refine ⟨?_, ?_, processed.trans sum.symm⟩
    · apply List.countP_eq_zero.mpr
      intro outcome ho
      obtain ⟨o, member, rfl⟩ := known outcome ho
      simp only [Option.all_some, decide_eq_true_eq, not_not]
      exact member
    · exact counted.length_eq.trans processed.symm

/-- What a cycle that returns has done to the store in front of it. -/
structure CycleAccount (sha : Sha256) (settings : DeliverySettings) (times : CycleTimes)
    (reply : Candidate → Except PyException DeliverySenderResult) (db : Database)
    (result : FinalDeliveryCycleResult) (db' : Database) : Prop where
  valid : settings.Valid
  counted : ∃ exhausted outcomes, result =
    cycleResult exhausted (db.cycleCandidates settings times.selection) outcomes ∧
    List.Forall₂ (fun c => Counted sha settings times db c (reply c))
      (db.cycleCandidates settings times.selection) outcomes
  treated : ∀ c ∈ db.cycleCandidates settings times.selection,
    Treated sha settings times c (reply c) db db'
  dead : ∀ e ∈ db.events.rows, DeadLettersOf settings db e →
    ∃ e' ∈ db'.events.rows, e'.id = e.id ∧ e'.queueState = .dead

theorem DeadLettered.untouched {hit : RawRFIDEvent → Prop} (h : DeadLettered hit db db')
    {e : RawRFIDEvent} (member : e ∈ db.events.rows) (spared : ¬ hit e) :
    Untouched e.id db db' where
  rows e' same := by
    constructor
    · intro he'
      cases db'.events.eq_of_key_eq he' (h.others e member spared) same
      exact member
    · intro he'
      cases db.events.eq_of_key_eq he' member same
      exact h.others e member spared
  attempts := h.attemptsOf e.id

/-- A cycle raises only with settings that it refuses, or when it is cut off while it
sends. -/
theorem sat_finalDeliveryCycle (ledger : StoreLedger db) :
    (cycleAlone sha times).Sat (finalDeliveryCycle settings reply)
      (endsOr (¬ settings.Valid ∨ ∃ c ∈ db.cycleCandidates settings times.selection,
          Startable settings db c.event ∧ SendCutOff (reply c))
        (CycleAccount sha settings times reply db)) db := by
  rw [finalDeliveryCycle, runFinalDeliveryCycle_eq]
  apply sat_then (sat_refused (sat_beginCycle ledger) .inl)
  rintro ⟨exhausted, _⟩ db₁ ⟨valid, dead, rfl⟩
  have chosen : ∀ c ∈ db.cycleCandidates settings times.selection,
      Deliverable settings db c.event ∧ ¬ DeadLettersOf settings db c.event :=
    fun _ hc => deliverable_of_cycleCandidates ledger valid.limit hc
  have before : ∀ c ∈ db.cycleCandidates settings times.selection, Untouched c.event.id db db₁ :=
    fun c hc => dead.untouched (chosen c hc).1.member (chosen c hc).2
  apply Actor.Sat.handle
  apply (sat_forEachCandidate sat_deliverCandidate (nodup_cycleCandidates settings times.selection)
    (fun c hc => dead.others _ (chosen c hc).1.member (chosen c hc).2)
    (fun c hc => (chosen c hc).1.waiting) dead.ledger).mono
  intro outcomes db' post
  cases outcomes with
  | error exc =>
      obtain ⟨c, hc, startable, cut⟩ := post.exists_cut (nodup_cycleCandidates settings _)
      exact sat_raised (.inr ⟨c, hc, (before c hc).startable.mp startable, cut⟩)
  | ok outcomes =>
  obtain ⟨counts, -, -, treated, outside⟩ := post
  apply sat_returned
  refine ⟨valid, ⟨exhausted, outcomes, rfl, ?_⟩, ?_, ?_⟩
  · exact ((List.forall₂_and_left _ _).mpr ⟨before, counts⟩).imp fun _ _ h => h.1.counted h.2
  · exact fun c hc => (treated c hc).later (before c hc)
  · intro e he struck
    obtain ⟨e', he', same, gone⟩ := dead.dead e he struck
    refine ⟨e', ((outside e'.id ?_).rows e' rfl).mpr he', same, gone⟩
    intro c hc id
    cases db₁.events.eq_of_key_eq he' (dead.others _ (chosen c hc).1.member (chosen c hc).2) id
    rcases (chosen c hc).1.waiting with h | h <;> cases gone.symm.trans h

end

end RfidBridge
