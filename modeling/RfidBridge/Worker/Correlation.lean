import RfidBridge.Delivery.DeliveryLedger
import RfidBridge.Store.ClosedSessions
import RfidBridge.Worker.CaptureCalls
import RfidBridge.Worker.System

/-!
Delivery beside the control thread. A delivery worker closes an attempt as SENT only
after an answer of Odoo that accepts the attempt's own event, so every SENT event of
the process has such an answer in the history, whatever the other threads do.
-/

namespace RfidBridge
open Database

/-- Odoo has answered a request of the attempt, and accepted the event. -/
def Confirmed (env : BridgeEnv) (trace : List Entry) (attemptId eventId : Nat) : Prop :=
  ∃ t sessionKey readerCode payload result,
    (⟨t, .events attemptId sessionKey readerCode payload, .ok result⟩ : Entry) ∈ trace ∧
    payload.eventUuid = env.texts.uuid eventId ∧
    FinalOdooEventSender.Accepts env.py (env.texts.uuid eventId) (.dict result)

/-- The SENT attempts of the events in this process's sessions are confirmed. -/
def Correlated (env : BridgeEnv) (since : Nat) (trace : List Entry) (db : Database) : Prop :=
  ∀ a ∈ db.attempts.rows, a.outcome = .sent → ∀ e ∈ db.events.rows, e.id = a.eventId →
    ∀ id, e.rfidSessionId = some id → since ≤ id → Confirmed env trace a.id e.id

/-- What the threads may do to the store and to Odoo. -/
def Lawful (env : BridgeEnv) (since : Nat) (w : World) : BridgeOp → Prop
  | .store op => op.Issued ∧ ∀ eventId attemptId, op.scope.closes eventId attemptId .sent →
      Confirmed env w.trace attemptId eventId
  | .ack request => request.success = true → request.command = .stop →
      Settled since request.sessionKey request.readerCode w.db
  | _ => True

/-- Operations that are lawful at any time. -/
def BridgeOp.Plain : BridgeOp → Prop
  | .store op => op.Issued ∧ op.closesAttempt = false
  | .ack request => ¬ (request.success = true ∧ request.command = .stop)
  | .writeRuntime _ => False
  | _ => True

/-- A thread beside the others, where only the control thread writes the runtime. -/
def deliveryView (env : BridgeEnv) (since : Nat) (t : Thread) :
    Actor BridgeOp BridgeOp.Answer PyException World where
  exec := BridgeStep env t
  rely w w' := Evolves env.sha w.db w'.db ∧ w.trace <:+ w'.trace ∧
    (t = .control → w'.runtime = w.runtime)
  guarantee w w' := ∃ op answer, BridgeStep env t op w answer w' ∧ Lawful env since w op ∧
    (t ≠ .control → op.writes ≠ some .runtime)
  rely_refl _ := ⟨.refl, List.suffix_refl _, fun _ => rfl⟩
  rely_trans first second := ⟨first.1.trans second.1, first.2.1.trans second.2.1,
    fun mine => (second.2.2 mine).trans (first.2.2 mine)⟩

theorem Confirmed.mono {env : BridgeEnv} {trace trace' : List Entry} {attemptId eventId : Nat}
    (grows : trace <:+ trace') (h : Confirmed env trace attemptId eventId) :
    Confirmed env trace' attemptId eventId := by
  obtain ⟨t, sessionKey, readerCode, payload, result, member, rest⟩ := h
  exact ⟨t, sessionKey, readerCode, payload, result, grows.mem member, rest⟩

theorem Correlated.mono {env : BridgeEnv} {since : Nat} {trace trace' : List Entry}
    {db : Database} (grows : trace <:+ trace') (h : Correlated env since trace db) :
    Correlated env since trace' db :=
  fun a ha sent e he mine id assigned later => (h a ha sent e he mine id assigned later).mono grows

section
variable {env : BridgeEnv} {since : Nat} {trace : List Entry} {db db' : Database}

/-- Events keep their session under a change of the queue state. -/
theorem origin_of_setQueueState {eventId : Nat} {target : QueueState} {e : RawRFIDEvent}
    (he : e ∈ (db.setQueueState eventId target).events.rows) :
    ∃ old ∈ db.events.rows, old.id = e.id ∧ old.rfidSessionId = e.rfidSessionId := by
  rcases (mem_setQueueState db eventId target e).mp he with ⟨old, -⟩ | ⟨old, member, -, rfl⟩
  · exact ⟨e, old, rfl, rfl⟩
  · exact ⟨old, member, rfl, rfl⟩

/-- The attempts may get no SENT one, the events no new session. -/
theorem Correlated.of_origin (h : Correlated env since trace db)
    (attempts : ∀ a ∈ db'.attempts.rows, a.outcome = .sent → a ∈ db.attempts.rows)
    (events : ∀ e ∈ db'.events.rows,
      ∃ old ∈ db.events.rows, old.id = e.id ∧ old.rfidSessionId = e.rfidSessionId) :
    Correlated env since trace db' := by
  intro a ha sent e he mine id assigned later
  obtain ⟨old, member, same, session⟩ := events e he
  rw [← same]
  exact h a (attempts a ha sent) sent old member (same.trans mine) id (session.trans assigned) later

theorem Correlated.edit {scope : EditScope} (edit : Edit scope db db') (ledger : StoreLedger db)
    (closes : ∀ eventId attemptId, scope.closes eventId attemptId .sent →
      Confirmed env trace attemptId eventId)
    (h : Correlated env since trace db) : Correlated env since trace db' := by
  cases edit with
  | openSession | finishSession => exact h
  | addEvent row keyed =>
      intro a ha sent e he mine id assigned later
      rcases (Table.mem_insert _ _ keyed _).mp he with old | rfl
      · exact h a ha sent e old mine id assigned later
      · obtain ⟨owner, member, same⟩ := ledger.owned a ha
        have below := db.events.below owner member
        have fresh : (row db.events.nextKey).id = db.events.nextKey := keyed _
        simp only [key_event] at below
        omega
  | assignEvent event session member unassigned =>
      intro a ha sent e he mine id assigned later
      rcases (Table.mem_update db.events event.id
        (fun e => { e with rfidSessionId := some session.id, queueState := .queued })
        (fun _ => rfl) e).mp he with ⟨old, -⟩ | ⟨old, row, same, rfl⟩
      · exact h a ha sent e old mine id assigned later
      · -- an event that was unassigned has no attempt
        rw [db.events.eq_of_key_eq row member same] at mine
        have none := (eventLedger_of_ledger (ledger.ledger event member)).fresh (.inl unassigned)
        have listed : a ∈ db.attemptsOf event.id := mem_attemptsOf.mpr ⟨ha, mine.symm⟩
        rw [none] at listed
        cases listed
  | deadLetter event => exact h.of_origin (fun _ ha _ => ha) fun e => origin_of_setQueueState
  | completeAttempt event attempt outcome target responseCode errorKind detail now next member
      inflight found mine started hasTarget scheduled may =>
      intro a ha sent e he own id assigned later
      obtain ⟨old, row, same, session⟩ := origin_of_setQueueState he
      rcases (Table.mem_update db.attempts attempt.id (closeAttempt outcome responseCode
        errorKind detail now next) (fun _ => rfl) a).mp ha with ⟨was, -⟩ | ⟨was, there, named, rfl⟩
      · rw [← same]
        exact h a was sent old row (same.trans own) id (session.trans assigned) later
      · have this := db.attempts.eq_of_key_eq there found named
        subst this
        simp only [closeAttempt] at sent own ⊢
        subst sent
        rw [own, mine]
        exact closes event.id was.id may

theorem Correlated.opened {event : RawRFIDEvent} {now : Timestamp}
    (h : Correlated env since trace db) :
    Correlated env since trace (db.openAttempt event.id now) := by
  apply h.of_origin
  · intro a ha sent
    rcases (mem_insertAttempt _ _ _ _ a).mp ha with old | rfl
    · exact old
    · cases sent
  · exact fun e => origin_of_setQueueState

/-- One transaction keeps the store sound and its SENT attempts confirmed. -/
theorem correlated_run {sha : Sha256} {now : Timestamp} {op : StoreOp} {answer : op.Answer}
    (issued : op.Issued) (closes : ∀ eventId attemptId, op.scope.closes eventId attemptId .sent →
      Confirmed env trace attemptId eventId)
    (ran : op.run sha now db = .ok (answer, db'))
    (sound : StoreSound since db) (h : Correlated env since trace db) :
    StoreSound since db' ∧ Correlated env since trace db' :=
  StoreOp.run_invariant (I := fun db => StoreSound since db ∧ Correlated env since trace db)
    (fun edit inv => ⟨inv.1.edit edit, inv.2.edit edit inv.1.ledger closes⟩)
    (fun member waiting inv => ⟨inv.1.opened member waiting, inv.2.opened⟩) issued ran ⟨sound, h⟩

end

section
variable {env : BridgeEnv} {since : Nat} {t : Thread} {w w' : World}

theorem evolves_of_step {op : BridgeOp} {answer : Except PyException op.Answer}
    (step : BridgeStep env t op w answer w') (lawful : Lawful env since w op) :
    Evolves env.sha w.db w'.db := by
  cases op with
  | store op =>
      obtain ⟨w₁, effect | ⟨-, rfl⟩, rfl⟩ := step.effect
      · obtain ⟨now, value, db', -, ran, rfl⟩ | ⟨-, rfl⟩ := effect
        · exact .single ⟨op, now, value, lawful.1, ran⟩
        · exact .refl
      · exact .refl
  | _ =>
      have same : w'.db = w.db := step.frame.1.db nofun
      rw [same]

theorem grows_of_step {op : BridgeOp} {answer : Except PyException op.Answer}
    (step : BridgeStep env t op w answer w') : w.trace <:+ w'.trace := by
  rw [step.frame.2]
  exact List.suffix_cons _ _

theorem deliveryView_compatible : Pool.Compatible (deliveryView env since) := by
  rintro t t' other w w' ⟨op, answer, step, lawful, runtime⟩
  refine ⟨evolves_of_step step lawful, grows_of_step step, ?_⟩
  rintro rfl
  exact step.frame.1.runtime (runtime other)

theorem lawful_of_plain {op : BridgeOp} (plain : op.Plain) : Lawful env since w op := by
  cases op with
  | store op =>
      refine ⟨plain.1, ?_⟩
      intro eventId attemptId closes
      have quiet := plain.2
      cases op <;> first | exact closes.elim | cases quiet
  | ack request => exact fun success stop => absurd ⟨success, stop⟩ plain
  | _ => trivial

theorem guarantee_of_plain {op : BridgeOp} {answer : Except PyException op.Answer}
    (plain : op.Plain) (step : BridgeStep env t op w answer w') :
    (deliveryView env since t).guarantee w w' := by
  refine ⟨op, answer, step, lawful_of_plain plain, fun _ => ?_⟩
  cases op <;> first | exact plain.elim | simp [BridgeOp.writes]

theorem stable_true : (deliveryView env since t).Stable fun _ => True := fun _ _ _ _ => trivial

/-- A thread of plain operations. -/
theorem keeps_of_plain {α : Type} {p : Bridge α} (calls : p.Calls BridgeOp.Plain) :
    (deliveryView env since t).Keeps (fun _ => True) p :=
  Actor.keeps_of_calls stable_true
    (fun _ _ _ _ plain _ step => ⟨guarantee_of_plain plain step, trivial⟩) calls

theorem plain_of_captures {op : BridgeOp} (h : op.captures) : op.Plain := by
  cases op with
  | store op => cases op <;> first | exact ⟨trivial, rfl⟩ | exact h.elim
  | _ => trivial

theorem plain_routine (op : StoreOp) (issued : op.Issued) (routine : op.isRoutine = true) :
    (store op).Calls BridgeOp.Plain :=
  Prog.calls_perform ⟨issued, StoreOp.closesAttempt_of_routine routine⟩

theorem plain_deadLetters (op : StoreOp) (issued : op.Issued) (passes : op.deadLetters = true) :
    (store op).Calls BridgeOp.Plain :=
  plain_routine op issued (StoreOp.isRoutine_of_deadLetters passes)

theorem plain_startDeliveryAttempt (eventId : Nat) (expectedState : QueueState) (limit : Int) :
    (store (.startDeliveryAttempt eventId expectedState limit)).Calls BridgeOp.Plain :=
  Prog.calls_perform ⟨trivial, rfl⟩

theorem plain_selectCandidates (readerCode : String) (batchSize : Nat) :
    (store (.selectCandidates readerCode batchSize)).Calls BridgeOp.Plain :=
  Prog.calls_perform ⟨trivial, rfl⟩

/-- A sender says SENT only after a confirming answer. -/
abbrev SentIsConfirmed (env : BridgeEnv) (attemptId eventId : Nat) :
    Except PyException DeliverySenderResult → World → Prop :=
  Actor.ends (fun result w => result.outcome = .sent → Confirmed env w.trace attemptId eventId)
    fun _ _ => True

theorem sentIsConfirmed_stable {attemptId eventId : Nat}
    (outcome : Except PyException DeliverySenderResult) :
    (deliveryView env since t).Stable (SentIsConfirmed env attemptId eventId outcome) := by
  intro w w' post rely
  cases outcome with
  | error _ => trivial
  | ok result => exact fun sent => (post sent).mono rely.2.1

theorem sat_unsent {attemptId eventId : Nat} {result : DeliverySenderResult}
    (unsent : result.outcome ≠ .sent) :
    (deliveryView env since t).Sat (.ret result) (SentIsConfirmed env attemptId eventId) w :=
  Actor.Sat.ret fun _ _ sent => absurd sent unsent

theorem sat_notSent {attemptId eventId : Nat} {exc : PyException} :
    (deliveryView env since t).Sat (.raise exc) (SentIsConfirmed env attemptId eventId) w :=
  Actor.Sat.raise fun _ _ => trivial

/-- The request of an attempt and the reading of its answer. -/
theorem sat_eventsCall {attemptId eventId : Nat} {sessionKey readerCode : String}
    {payload : EventPayload} (own : payload.eventUuid = env.texts.uuid eventId) :
    (deliveryView env since t).Sat (eventsCall attemptId sessionKey readerCode payload)
      (Actor.ends (fun answer w =>
        (FinalOdooEventSender.resultOfAnswer env.py (env.texts.uuid eventId) answer).outcome =
          .sent → Confirmed env w.trace attemptId eventId) fun _ _ => True) w := by
  apply Actor.Sat.bind fun _ _ _ _ _ => trivial
  apply Actor.Sat.perform
  intro w₁ _ answer w₂ step
  refine ⟨guarantee_of_plain (by trivial) step, ?_⟩
  intro w₃ rely
  cases answer with
  | error _ => trivial
  | ok result =>
      apply Actor.Sat.ret
      intro w₄ rely' sent
      have grows : w₂.trace <:+ w₄.trace := rely.2.1.trans rely'.2.1
      refine ⟨t, sessionKey, readerCode, payload, result, grows.mem ?_, own,
        FinalOdooEventSender.accepts_of_sent sent⟩
      rw [step.frame.2]
      exact List.mem_cons_self ..

theorem sat_sendEvent {attemptId : Nat} {readerCode : String} {candidate : Candidate} :
    (deliveryView env since t).Sat
      (FinalOdooEventSender.sendEvent env.py env.texts (eventsCall attemptId) readerCode candidate)
      (SentIsConfirmed env attemptId candidate.event.id) w := by
  unfold FinalOdooEventSender.sendEvent
  split
  · exact sat_notSent
  split
  · exact sat_notSent
  split
  · exact sat_notSent
  split
  · exact sat_notSent
  split
  · exact sat_notSent
  split
  · exact sat_notSent
  split
  · exact sat_notSent
  split
  · exact sat_notSent
  apply Actor.Sat.handle
  refine Actor.Sat.mono (sat_eventsCall rfl) ?_
  intro outcome w₁ post
  cases outcome with
  | ok answer =>
      apply Actor.Sat.ret
      exact fun w₂ rely sent => (post sent).mono rely.2.1
  | error exc =>
      dsimp only
      split
      · split
        · exact sat_unsent (by simp)
        · exact sat_notSent
      · exact sat_notSent

/-- A completion as SENT comes after the confirming answer. -/
theorem sat_completion {eventId attemptId : Nat} {outcome : Outcome}
    {responseCode errorKind detail : String} {initial maximum : Option Int}
    (confirmed : outcome = .sent → Confirmed env w.trace attemptId eventId) :
    (deliveryView env since t).Sat (RfidBridge.store (.completeDeliveryAttempt eventId attemptId
      outcome responseCode errorKind detail initial maximum)) (fun _ _ => True) w := by
  apply Actor.Sat.perform
  intro w₁ rely answer w₂ step
  refine ⟨⟨_, answer, step, ⟨trivial, ?_⟩, fun _ => nofun⟩, fun _ _ => trivial⟩
  rintro _ _ ⟨rfl, rfl, sent⟩
  exact (confirmed sent.symm).mono rely.2.1

theorem keeps_processDeliveryCandidate {settings : DeliverySettings} {readerCode : String}
    {candidate : Candidate} :
    (deliveryView env since t).Keeps (fun _ => True)
      (processDeliveryCandidate RfidBridge.store (fun attemptId candidate =>
        FinalOdooEventSender.sendEvent env.py env.texts (eventsCall attemptId) readerCode
          candidate) settings candidate) := by
  refine Actor.keeps_bind stable_true (keeps_of_plain (plain_startDeliveryAttempt
    candidate.event.id candidate.event.queueState settings.maxDeliveryAttempts)) ?_
  intro started w _
  apply Actor.Sat.handle
  apply Actor.Sat.mono (Q := SentIsConfirmed env started.attemptId candidate.event.id)
  · apply Actor.Sat.handle
    apply sat_sendEvent.mono
    intro outcome w₁ post
    cases outcome with
    | ok result =>
        exact Actor.Sat.ret fun w₂ rely => sentIsConfirmed_stable (.ok result) _ _ post rely
    | error exc =>
        dsimp only
        split
        · exact sat_unsent (by simp)
        · exact sat_notSent
  · intro outcome w₁ post
    cases outcome with
    | error exc => exact Actor.Sat.raise fun _ _ => trivial
    | ok sent =>
        apply Actor.Sat.handle
        refine (sat_completion post).mono ?_
        intro outcome w₂ _
        cases outcome with
        | ok _ => exact Actor.Sat.ret fun _ _ => trivial
        | error _ => exact Actor.Sat.raise fun _ _ => trivial

theorem keeps_deliverCandidate {settings : DeliverySettings} {readerCode : String}
    {candidate : Candidate} :
    (deliveryView env since t).Keeps (fun _ => True)
      (deliverCandidate RfidBridge.store (fun attemptId candidate =>
        FinalOdooEventSender.sendEvent env.py env.texts (eventsCall attemptId) readerCode
          candidate) settings candidate) := by
  apply Actor.keeps_handle
  · exact Actor.keeps_bind stable_true keeps_processDeliveryCandidate fun _ =>
      Actor.keeps_ret stable_true _
  · intro outcome
    cases outcome with
    | ok _ => exact Actor.keeps_ret stable_true _
    | error exc =>
        dsimp only
        split
        · exact Actor.keeps_ret stable_true _
        · exact Actor.keeps_raise stable_true _

/-- A delivery worker is lawful beside anything. -/
theorem keeps_deliveryCycle (settings : DeliverySettings) :
    (deliveryView env since t).Keeps (fun _ => True) (deliveryCycle env settings) := by
  refine Actor.keeps_handle ?_ fun _ => Actor.keeps_ret stable_true _
  apply Actor.keeps_bind stable_true (keeps_of_plain (calls_requireMaxDeliveryAttempts _))
  intro _
  apply Actor.keeps_bind stable_true
    (keeps_of_plain (calls_deadLetterCancelled plain_deadLetters _))
  intro _
  apply Actor.keeps_bind stable_true
    (keeps_of_plain (calls_deadLetterExhausted plain_deadLetters _ _))
  intro exhausted
  apply Actor.keeps_bind stable_true
    (keeps_of_plain (calls_selectFinalDeliveryCandidates plain_selectCandidates _ _))
  intro candidates
  apply Actor.keeps_bind stable_true
  · exact Actor.keeps_forEach stable_true fun candidate _ => keeps_deliverCandidate
  · exact fun _ => Actor.keeps_ret stable_true _

end
end RfidBridge
