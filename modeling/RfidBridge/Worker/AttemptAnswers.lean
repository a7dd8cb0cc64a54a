import RfidBridge.Delivery.QueueDrain
import RfidBridge.Delivery.RetryBackoff
import RfidBridge.Library.Discipline
import RfidBridge.Worker.ControlCalls

/-!
What the rows of the delivery attempts say. An attempt makes at most one request, the request
tells Odoo of the event as it is stored, and the row of a closed attempt records what the
sender made of the answer: the table of attempts is the account of the exchanges with Odoo,
whoever else is at work.
-/

namespace RfidBridge
open Database

/-- What stays of the rows that a request is made from. -/
structure RowsStay (db db' : Database) : Prop where
  events : ∀ e ∈ db.events.rows, e.rfidSessionId ≠ none →
    ∃ e' ∈ db'.events.rows, e'.unplaced = e.unplaced
  sessions : SessionsStay db db'
  devices : db'.devices = db.devices

/-- Whether an operation is the request of the attempt. -/
def BridgeOp.serves (attemptId : Nat) : BridgeOp → Bool
  | .events id .. => id == attemptId
  | _ => false

/-- The requests of an attempt, the newest first. -/
def requestsOf (attemptId : Nat) (trace : List Entry) : List Entry :=
  trace.filter fun entry => entry.op.serves attemptId

/-- The attempt that a step has opened, with its event. -/
def Entry.opens : Entry → Option (Nat × Nat)
  | ⟨_, .store (.startDeliveryAttempt eventId ..), .ok started⟩ =>
      some (started.attemptId, eventId)
  | _ => none

/-- The thread has opened the attempt. -/
def OpenedBy (t : Thread) (attemptId eventId : Nat) (trace : List Entry) : Prop :=
  ∃ entry ∈ trace, entry.thread = t ∧ entry.opens = some (attemptId, eventId)

/-- A request that tells Odoo of the event as the database has it. -/
def Tells (env : BridgeEnv) (db : Database) (eventId : Nat) (sessionKey readerCode : String)
    (payload : EventPayload) : Prop :=
  ∃ e ∈ db.events.rows, ∃ s ∈ db.sessions.rows, ∃ device,
    e.id = eventId ∧ isFinalEvent e = true ∧ e.rfidSessionId = some s.id ∧
    s.deviceId = e.deviceId ∧ db.deviceOf e.deviceId = some device ∧
    sessionKey = strip s.externalSessionKey ∧ sessionKey ≠ "" ∧ readerCode = device.code ∧
    payload.epc ≠ "" ∧ payload = {
      eventUuid := env.texts.uuid e.id
      epc := env.py.upper (strip e.epc)
      seenAt := env.texts.isoformat e.receivedAt }

/-- What the sender makes of the outcome of a request. -/
def replyOf (env : BridgeEnv) (eventId : Nat) (answer : Except PyException ApiResult) :
    Except PyException DeliverySenderResult :=
  answer.map fun result =>
    FinalOdooEventSender.resultOfAnswer env.py (env.texts.uuid eventId) (.dict result)

/-- The exchange with Odoo behind an attempt, and what the sender made of it: it refused the
event, or it asked once. -/
inductive Exchange (env : BridgeEnv) (db : Database) (trace : List Entry)
    (attemptId eventId : Nat) : Except PyException DeliverySenderResult → Prop
  | refused {exc : PyException} : requestsOf attemptId trace = [] →
      Exchange env db trace attemptId eventId (.error exc)
  | asked {t : Thread} {sessionKey readerCode : String} {payload : EventPayload}
      {answer : Except PyException ApiResult} :
      requestsOf attemptId trace = [⟨t, .events attemptId sessionKey readerCode payload, answer⟩] →
      Tells env db eventId sessionKey readerCode payload →
      Exchange env db trace attemptId eventId (replyOf env eventId answer)

/-- The columns of an attempt that its completion fills from the sender's result. -/
def DeliveryAttempt.result (a : DeliveryAttempt) : DeliverySenderResult :=
  ⟨a.outcome, a.responseCode, a.errorKind, a.detail⟩

/-- The row of an attempt agrees with its exchange. -/
def RecordsExchange (env : BridgeEnv) (db : Database) (trace : List Entry) (a : DeliveryAttempt) :
    Prop :=
  ∃ reply, Exchange env db trace a.id a.eventId reply ∧
    (a.outcome = .started ∨ a.result = (recordedResult reply).kept)

namespace RowsStay
variable {db db' db'' : Database}

theorem refl (db : Database) : RowsStay db db :=
  ⟨fun e member _ => ⟨e, member, rfl⟩, fun s hs => ⟨s, hs, rfl, rfl, rfl⟩, rfl⟩

theorem trans (first : RowsStay db db') (second : RowsStay db' db'') : RowsStay db db'' := by
  refine ⟨?_, ?_, second.devices.trans first.devices⟩
  · intro e member assigned
    obtain ⟨e', member', same⟩ := first.events e member assigned
    have session : e'.rfidSessionId = e.rfidSessionId := by
      rw [SameEvents.eq_of_unplaced same]
    obtain ⟨e'', member'', same'⟩ := second.events e' member' (session ▸ assigned)
    exact ⟨e'', member'', same'.trans same⟩
  · intro s hs
    obtain ⟨s', hs', id, device, key⟩ := first.sessions s hs
    obtain ⟨s'', hs'', id', device', key'⟩ := second.sessions s' hs'
    exact ⟨s'', hs'', id'.trans id, device'.trans device, key'.trans key⟩

theorem setQueueState (eventId : Nat) (state : QueueState) (e : RawRFIDEvent)
    (member : e ∈ db.events.rows) :
    ∃ e' ∈ (db.setQueueState eventId state).events.rows, e'.unplaced = e.unplaced := by
  by_cases same : e.id = eventId
  · exact ⟨_, (mem_setQueueState db eventId state _).mpr (.inr ⟨e, member, same, rfl⟩), rfl⟩
  · exact ⟨e, (mem_setQueueState db eventId state e).mpr (.inl ⟨member, same⟩), rfl⟩

theorem of_edit {scope : EditScope} (edit : Edit scope db db') : RowsStay db db' := by
  refine ⟨?_, edit.sessionsStay, edit.devices⟩
  intro e member assigned
  cases edit with
  | openSession | finishSession => exact ⟨e, member, rfl⟩
  | addEvent row keyed => exact ⟨e, (Table.mem_insert _ _ keyed _).mpr (.inl member), rfl⟩
  | assignEvent event session found unassigned free =>
      have other : e.id ≠ event.id := by
        intro same
        exact assigned (db.events.eq_of_key_eq member found same ▸ free)
      exact ⟨e, (db.events.mem_update_of_ne other).mpr member, rfl⟩
  | completeAttempt event | deadLetter event => exact setQueueState event.id _ e member

theorem openAttempt (eventId : Nat) (now : Timestamp) :
    RowsStay db (db.openAttempt eventId now) :=
  ⟨fun e member _ => setQueueState eventId .inflight e member, fun s hs => ⟨s, hs, rfl, rfl, rfl⟩,
    rfl⟩

theorem of_run {sha : Sha256} {now : Timestamp} {op : StoreOp} {answer : op.Answer}
    (issued : op.Issued) (ran : op.run sha now db = .ok (answer, db')) : RowsStay db db' :=
  StoreOp.run_relation refl trans of_edit (fun _ _ => openAttempt _ _) issued ran

theorem of_step {env : BridgeEnv} {t : Thread} {op : BridgeOp} {w w' : World}
    {answer : Except PyException op.Answer} (issued : ∀ o, op = .store o → o.Issued)
    (step : BridgeStep env t op w answer w') : RowsStay w.db w'.db := by
  cases op with
  | store op =>
      cases answer with
      | ok value =>
          obtain ⟨now, ran⟩ := step.committed
          exact of_run (issued op rfl) ran
      | error exc => exact step.rolledBack.1 ▸ refl w.db
  | _ => exact step.frame.1.db (by rintro ⟨⟩) ▸ refl w.db

theorem deviceOf (h : RowsStay db db') (deviceId : Nat) :
    db'.deviceOf deviceId = db.deviceOf deviceId := by
  simp only [Database.deviceOf, h.devices]

end RowsStay

section
variable {env : BridgeEnv} {db db' : Database} {trace trace' : List Entry} {entry : Entry}
  {t : Thread} {attemptId eventId : Nat} {reply : Except PyException DeliverySenderResult}

theorem Tells.mono {sessionKey readerCode : String} {payload : EventPayload}
    (stay : RowsStay db db') (h : Tells env db eventId sessionKey readerCode payload) :
    Tells env db' eventId sessionKey readerCode payload := by
  obtain ⟨e, he, s, hs, device, id, final, assigned, mine, found, rest⟩ := h
  obtain ⟨e', he', same⟩ := stay.events e he (by simp [assigned])
  obtain ⟨s', hs', sid, sdevice, key⟩ := stay.sessions s hs
  rw [SameEvents.eq_of_unplaced same] at he'
  refine ⟨_, he', s', hs', device, id, final, ?_, ?_, ?_, ?_⟩
  · rw [sid]
    exact assigned
  · rw [sdevice]
    exact mine
  · rw [stay.deviceOf]
    exact found
  · rw [key]
    exact rest

theorem Exchange.mono (stay : RowsStay db db')
    (requests : requestsOf attemptId trace' = requestsOf attemptId trace)
    (h : Exchange env db trace attemptId eventId reply) :
    Exchange env db' trace' attemptId eventId reply := by
  cases h with
  | refused none => exact .refused (requests.trans none)
  | asked once tells => exact .asked (requests.trans once) (tells.mono stay)

theorem requestsOf_cons_of_not (unasked : entry.op.serves attemptId = false) :
    requestsOf attemptId (entry :: trace) = requestsOf attemptId trace := by
  simp [requestsOf, unasked]

theorem OpenedBy.mono (grows : trace <:+ trace') (h : OpenedBy t attemptId eventId trace) :
    OpenedBy t attemptId eventId trace' := by
  obtain ⟨entry, member, rest⟩ := h
  exact ⟨entry, grows.mem member, rest⟩

theorem opened_cons : OpenedBy t attemptId eventId (entry :: trace) ↔
    entry.thread = t ∧ entry.opens = some (attemptId, eventId) ∨
      OpenedBy t attemptId eventId trace := by
  simp [OpenedBy]

theorem opened_cons_of_none (unopened : entry.opens = none) :
    OpenedBy t attemptId eventId (entry :: trace) ↔ OpenedBy t attemptId eventId trace := by
  simp [opened_cons, unopened]

end

/-- When a thread may ask Odoo, and close an attempt: on behalf of an attempt of its own that
has not asked, and with what it was answered. -/
def AnswerLaw (env : BridgeEnv) (t : Thread) : BridgeOp → World → Prop
  | .events attemptId sessionKey readerCode payload, w => ∃ eventId,
      OpenedBy t attemptId eventId w.trace ∧ requestsOf attemptId w.trace = [] ∧
      (∃ a ∈ w.db.attempts.rows, a.id = attemptId ∧ a.outcome = .started) ∧
      Tells env w.db eventId sessionKey readerCode payload
  | .store (.completeDeliveryAttempt eventId attemptId outcome responseCode errorKind detail ..),
    w =>
      OpenedBy t attemptId eventId w.trace ∧
      ∃ reply, Exchange env w.db w.trace attemptId eventId reply ∧
        recordedResult reply = ⟨outcome, responseCode, errorKind, detail⟩
  | .store op, _ => op.Issued
  | _, _ => True

/-- The attempts of earlier processes are as they were, each of the later ones was opened by one
thread, and its row agrees with its exchange. -/
structure Faithful (env : BridgeEnv) (before : Table DeliveryAttempt) (w : World) : Prop where
  sequence : before.nextKey ≤ w.db.attempts.nextKey
  earlier : ∀ a : DeliveryAttempt, a.id < before.nextKey →
    (a ∈ w.db.attempts.rows ↔ a ∈ before.rows)
  opened : ∀ t attemptId eventId, OpenedBy t attemptId eventId w.trace →
    before.nextKey ≤ attemptId ∧
      ∃ a ∈ w.db.attempts.rows, a.id = attemptId ∧ a.eventId = eventId
  single : ∀ t t' attemptId eventId eventId', OpenedBy t attemptId eventId w.trace →
    OpenedBy t' attemptId eventId' w.trace → t = t'
  asked : ∀ attemptId, requestsOf attemptId w.trace ≠ [] →
    ∃ t eventId, OpenedBy t attemptId eventId w.trace
  recorded : ∀ a ∈ w.db.attempts.rows, before.nextKey ≤ a.id → RecordsExchange env w.db w.trace a

/-- What the other threads leave to a thread: its attempts, and the rows behind its requests. -/
structure Beside (t : Thread) (w w' : World) : Prop where
  attempts : ∀ attemptId eventId, OpenedBy t attemptId eventId w.trace →
    requestsOf attemptId w'.trace = requestsOf attemptId w.trace ∧
      ∀ a ∈ w.db.attempts.rows, a.id = attemptId → a ∈ w'.db.attempts.rows
  grows : w.trace <:+ w'.trace
  stay : RowsStay w.db w'.db

namespace Faithful
variable {env : BridgeEnv} {before : Table DeliveryAttempt} {t : Thread} {op : BridgeOp}
  {w w' : World} {answer : Except PyException op.Answer} {entry : Entry} {attemptId : Nat}

/-- The number of the next attempt has not been used. -/
theorem fresh (h : Faithful env before w) : requestsOf w.db.attempts.nextKey w.trace = [] := by
  by_contra asked
  obtain ⟨t, eventId, opened⟩ := h.asked _ asked
  obtain ⟨-, a, member, same, -⟩ := h.opened t _ eventId opened
  have below := w.db.attempts.below a member
  simp only [key_attempt] at below
  omega

/-- A step that touches no attempt. -/
theorem quiet (h : Faithful env before w) (attempts : w'.db.attempts = w.db.attempts)
    (stay : RowsStay w.db w'.db) (trace : w'.trace = entry :: w.trace)
    (unasked : ∀ id, entry.op.serves id = false) (unopened : entry.opens = none) :
    Faithful env before w' := by
  have requests : ∀ id, requestsOf id w'.trace = requestsOf id w.trace := by
    intro id
    rw [trace, requestsOf_cons_of_not (unasked id)]
  have opened : ∀ t id eventId, OpenedBy t id eventId w'.trace ↔ OpenedBy t id eventId w.trace := by
    intro t id eventId
    rw [trace, opened_cons_of_none unopened]
  constructor
  · rw [attempts]
    exact h.sequence
  · rw [attempts]
    exact h.earlier
  · simp only [attempts, opened]
    exact h.opened
  · simp only [opened]
    exact h.single
  · simp only [opened, requests]
    exact h.asked
  · intro a member later
    obtain ⟨reply, exchange, agrees⟩ := h.recorded a (attempts ▸ member) later
    exact ⟨reply, exchange.mono stay (requests a.id), agrees⟩

theorem of_start {eventId : Nat} {expectedState : QueueState} {limit : Int}
    {started : DeliveryAttemptStartResult}
    (step : BridgeStep env t (.store (.startDeliveryAttempt eventId expectedState limit)) w
      (.ok started) w') (h : Faithful env before w) : Faithful env before w' := by
  have stay : RowsStay w.db w'.db := .of_step (by rintro _ ⟨⟩; trivial) step
  have trace := step.frame.2
  obtain ⟨now, ran⟩ := step.committed
  obtain ⟨-, -, number, -, opened⟩ := startDeliveryAttempt_eq_ok ran
  have requests : ∀ id, requestsOf id w'.trace = requestsOf id w.trace := by
    intro id
    rw [trace, requestsOf_cons_of_not rfl]
  have rows : ∀ a, a ∈ w'.db.attempts.rows ↔
      a ∈ w.db.attempts.rows ∨ a = openedAttempt w.db eventId now := by
    intro a
    rw [opened]
    exact mem_insertAttempt _ _ _ _ a
  have old : ∀ t' id e, OpenedBy t' id e w.trace → id < w.db.attempts.nextKey := by
    intro t' id e before
    obtain ⟨-, a, member, rfl, -⟩ := h.opened t' id e before
    exact w.db.attempts.below a member
  have cases : ∀ t' id e, OpenedBy t' id e w'.trace →
      (t = t' ∧ w.db.attempts.nextKey = id ∧ eventId = e) ∨ OpenedBy t' id e w.trace := by
    intro t' id e now
    rw [trace, opened_cons] at now
    refine now.imp_left ?_
    rintro ⟨mine, same⟩
    simp only [Entry.opens, Option.some.injEq, Prod.mk.injEq, number] at same
    exact ⟨mine, same⟩
  constructor
  · rw [opened]
    exact h.sequence.trans (Nat.le_succ _)
  · intro a earlier
    rw [rows, ← h.earlier a earlier]
    refine or_iff_left ?_
    rintro rfl
    exact absurd h.sequence (Nat.not_le.mpr earlier)
  · intro t' id e now
    obtain ⟨-, rfl, rfl⟩ | was := cases t' id e now
    · exact ⟨h.sequence, _, (rows _).mpr (.inr rfl), rfl, rfl⟩
    · obtain ⟨later, a, member, rest⟩ := h.opened t' id e was
      exact ⟨later, a, (rows a).mpr (.inl member), rest⟩
  · intro t₁ t₂ id e e' first second
    obtain ⟨rfl, rfl, -⟩ | was := cases t₁ id e first
    · obtain ⟨rfl, -, -⟩ | was := cases t₂ _ e' second
      · rfl
      · exact absurd (old _ _ _ was) (Nat.lt_irrefl _)
    · obtain ⟨rfl, rfl, -⟩ | was' := cases t₂ id e' second
      · exact absurd (old _ _ _ was) (Nat.lt_irrefl _)
      · exact h.single t₁ t₂ id e e' was was'
  · intro id asked
    rw [requests] at asked
    obtain ⟨t', e, was⟩ := h.asked id asked
    exact ⟨t', e, was.mono (trace ▸ List.suffix_cons _ _)⟩
  · intro a member later
    obtain was | rfl := (rows a).mp member
    · obtain ⟨reply, exchange, agrees⟩ := h.recorded a was later
      exact ⟨reply, exchange.mono stay (requests a.id), agrees⟩
    · have none : requestsOf w.db.attempts.nextKey w'.trace = [] := (requests _).trans h.fresh
      exact ⟨.error ⟨.runtimeError, ""⟩, .refused none, .inl rfl⟩

theorem of_complete {eventId : Nat} {outcome : Outcome} {responseCode errorKind detail : String}
    {initial maximum : Option Int} {completed : DeliveryAttemptCompletionResult}
    (law : AnswerLaw env t (.store (.completeDeliveryAttempt eventId attemptId outcome responseCode
      errorKind detail initial maximum)) w)
    (step : BridgeStep env t (.store (.completeDeliveryAttempt eventId attemptId outcome
      responseCode errorKind detail initial maximum)) w (.ok completed) w')
    (h : Faithful env before w) : Faithful env before w' := by
  obtain ⟨mine, reply, exchange, result⟩ := law
  have stay : RowsStay w.db w'.db := .of_step (by rintro _ ⟨⟩; trivial) step
  have trace := step.frame.2
  obtain ⟨now, ran⟩ := step.committed
  obtain ⟨event, -, attempt, found, target, next, rfl, -, rfl, owner, -, -, -, -, closed⟩ :=
    completeDeliveryAttempt_eq_ok ran
  have requests : ∀ id, requestsOf id w'.trace = requestsOf id w.trace := by
    intro id
    rw [trace, requestsOf_cons_of_not rfl]
  have opened : ∀ t id e, OpenedBy t id e w'.trace ↔ OpenedBy t id e w.trace := by
    intro t id e
    rw [trace, opened_cons_of_none rfl]
  let close := closeAttempt outcome (keptText (some 64) responseCode)
    (keptText (some 128) errorKind) detail now next
  have rows : w'.db.attempts = w.db.attempts.update attempt.id close := by
    rw [closed]
  have later := (h.opened t _ _ mine).1
  constructor
  · rw [rows]
    exact h.sequence
  · intro a earlier
    rw [rows, ← h.earlier a earlier]
    exact w.db.attempts.mem_update_of_ne (by simp only [key_attempt]; omega)
  · intro t' id e now'
    obtain ⟨after, a, member, same, e'⟩ := h.opened t' id e ((opened t' id e).mp now')
    refine ⟨after, ?_⟩
    by_cases here : a.id = attempt.id
    · have moved := (Table.mem_update w.db.attempts attempt.id close (fun _ => rfl) _).mpr
        (.inr ⟨a, member, here, rfl⟩)
      exact ⟨close a, rows ▸ moved, same, e'⟩
    · exact ⟨a, rows ▸ (w.db.attempts.mem_update_of_ne here).mpr member, same, e'⟩
  · simp only [opened]
    exact h.single
  · simp only [opened, requests]
    exact h.asked
  · intro a member after
    rw [rows] at member
    rcases (Table.mem_update w.db.attempts _ _ _ a).mp member with
      ⟨was, -⟩ | ⟨was, there, same, rfl⟩
    · obtain ⟨reply, exchange, agrees⟩ := h.recorded a was after
      exact ⟨reply, exchange.mono stay (requests a.id), agrees⟩
    · obtain rfl := w.db.attempts.eq_of_key_eq there found same
      refine ⟨reply, ?_, .inr (congrArg DeliverySenderResult.kept result.symm)⟩
      simp only [close, closeAttempt, owner]
      exact exchange.mono stay (requests was.id)

theorem of_events {sessionKey readerCode : String} {payload : EventPayload}
    {answer : Except PyException ApiResult}
    (law : AnswerLaw env t (.events attemptId sessionKey readerCode payload) w)
    (step : BridgeStep env t (.events attemptId sessionKey readerCode payload) w answer w')
    (h : Faithful env before w) : Faithful env before w' := by
  obtain ⟨eventId, mine, unasked, ⟨row, there, named, open_⟩, tells⟩ := law
  have db : w'.db = w.db := step.frame.1.db (by rintro ⟨⟩)
  have trace := step.frame.2
  have opened : ∀ t id e, OpenedBy t id e w'.trace ↔ OpenedBy t id e w.trace := by
    intro t id e
    rw [trace, opened_cons_of_none rfl]
  have others : ∀ id, id ≠ attemptId → requestsOf id w'.trace = requestsOf id w.trace := by
    intro id other
    rw [trace]
    exact requestsOf_cons_of_not (by simpa [BridgeOp.serves] using other.symm)
  have once : requestsOf attemptId w'.trace =
      [⟨t, .events attemptId sessionKey readerCode payload, answer⟩] := by
    rw [trace, ← unasked]
    exact List.filter_cons_of_pos (by simp [BridgeOp.serves])
  obtain ⟨later, a₀, member₀, same₀, owner₀⟩ := h.opened t attemptId eventId mine
  constructor
  · rw [db]
    exact h.sequence
  · rw [db]
    exact h.earlier
  · simp only [opened, db]
    exact h.opened
  · simp only [opened]
    exact h.single
  · intro id asked
    by_cases same : id = attemptId
    · exact ⟨t, eventId, (opened _ _ _).mpr (same ▸ mine)⟩
    · rw [others id same] at asked
      obtain ⟨t', e, was⟩ := h.asked id asked
      exact ⟨t', e, (opened _ _ _).mpr was⟩
  · intro a member after
    rw [db] at member ⊢
    by_cases same : a.id = attemptId
    · obtain rfl := w.db.attempts.eq_of_key_eq there member (named.trans same.symm)
      obtain rfl := w.db.attempts.eq_of_key_eq there member₀ (named.trans same₀.symm)
      refine ⟨replyOf env row.eventId answer, ?_, .inl open_⟩
      rw [named]
      exact .asked once (owner₀ ▸ tells)
    · obtain ⟨reply, exchange, agrees⟩ := h.recorded a member after
      exact ⟨reply, exchange.mono (.refl _) (others a.id same), agrees⟩

theorem issued_of_law (law : AnswerLaw env t op w) : ∀ o, op = .store o → o.Issued := by
  rintro o rfl
  cases o <;> first | exact law | trivial

/-- A transaction that neither opens nor closes an attempt. -/
theorem of_store {o : StoreOp} {answer : Except PyException o.Answer} (issued : o.Issued)
    (opens : o.opensAttempt = false) (closes : o.closesAttempt = false)
    (step : BridgeStep env t (.store o) w answer w') (h : Faithful env before w) :
    Faithful env before w' := by
  have attempts : w'.db.attempts = w.db.attempts := by
    cases answer with
    | ok value =>
        obtain ⟨now, ran⟩ := step.committed
        exact attempts_run issued opens closes ran
    | error exc => rw [step.rolledBack.1]
  refine h.quiet attempts (.of_step (by rintro _ ⟨⟩; exact issued) step) step.frame.2
    (fun _ => rfl) ?_
  cases o <;> first | rfl | cases opens

/-- Every lawful step keeps the account. -/
theorem of_step (law : AnswerLaw env t op w) (step : BridgeStep env t op w answer w')
    (h : Faithful env before w) : Faithful env before w' := by
  cases op with
  | events attemptId sessionKey readerCode payload => exact of_events law step h
  | store o =>
      cases o with
      | startDeliveryAttempt eventId expectedState limit =>
          cases answer with
          | ok started => exact of_start step h
          | error exc =>
              exact h.quiet (by rw [step.rolledBack.1]) (.of_step (issued_of_law law) step)
                step.frame.2 (fun _ => rfl) rfl
      | completeDeliveryAttempt =>
          cases answer with
          | ok completed => exact of_complete law step h
          | error exc =>
              exact h.quiet (by rw [step.rolledBack.1]) (.of_step (issued_of_law law) step)
                step.frame.2 (fun _ => rfl) rfl
      | _ => exact of_store (issued_of_law law _ rfl) rfl rfl step h
  | _ =>
      exact h.quiet (congrArg Database.attempts (step.frame.1.db (by rintro ⟨⟩)))
        (.of_step (issued_of_law law) step) step.frame.2 (fun _ => rfl) rfl

/-- What another thread does leaves the attempts of a thread alone. -/
theorem beside_of_others {t' : Thread} (other : t' ≠ t) (law : AnswerLaw env t' op w)
    (step : BridgeStep env t' op w answer w') (h : Faithful env before w) : Beside t w w' := by
  have trace := step.frame.2
  refine ⟨?_, trace ▸ List.suffix_cons _ _, .of_step (issued_of_law law) step⟩
  intro id eventId mine
  have foreign : ∀ eventId', ¬ OpenedBy t' id eventId' w.trace :=
    fun eventId' theirs => other (h.single t' t id eventId' eventId theirs mine)
  have unasked : op.serves id = false → requestsOf id w'.trace = requestsOf id w.trace := by
    intro unasked
    rw [trace]
    exact requestsOf_cons_of_not unasked
  have untouched : ∀ {o : StoreOp}, op = .store o → o.opensAttempt = false →
      o.closesAttempt = false → w'.db.attempts = w.db.attempts := by
    rintro o rfl opens closes
    cases answer with
    | ok value =>
        obtain ⟨now, ran⟩ := step.committed
        exact attempts_run (issued_of_law law o rfl) opens closes ran
    | error exc => rw [step.rolledBack.1]
  cases op with
  | events attemptId sessionKey readerCode payload =>
      obtain ⟨eventId', theirs, -⟩ := law
      have apart : attemptId ≠ id := by
        rintro rfl
        exact foreign eventId' theirs
      refine ⟨unasked (by simpa [BridgeOp.serves] using apart), fun a member _ => ?_⟩
      rw [step.frame.1.db (by rintro ⟨⟩)]
      exact member
  | store o =>
      refine ⟨unasked rfl, fun a member same => ?_⟩
      cases o with
      | startDeliveryAttempt eventId' expectedState limit =>
          cases answer with
          | ok started =>
              obtain ⟨now, ran⟩ := step.committed
              obtain ⟨-, -, -, -, opened⟩ := startDeliveryAttempt_eq_ok ran
              rw [opened]
              exact (mem_insertAttempt _ _ _ _ a).mpr (.inl member)
          | error exc => exact step.rolledBack.1 ▸ member
      | completeDeliveryAttempt eventId' attemptId outcome responseCode errorKind detail _ _ =>
          cases answer with
          | ok completed =>
              obtain ⟨now, ran⟩ := step.committed
              obtain ⟨event, -, attempt, -, target, next, -, -, rfl, -, -, -, -, -, closed⟩ :=
                completeDeliveryAttempt_eq_ok ran
              have apart : a.id ≠ attempt.id := by
                rintro here
                exact foreign eventId' (same.symm.trans here ▸ law.1)
              rw [closed]
              exact (w.db.attempts.mem_update_of_ne apart).mpr member
          | error exc => exact step.rolledBack.1 ▸ member
      | _ => exact untouched rfl rfl rfl ▸ member
  | _ =>
      refine ⟨unasked rfl, fun a member _ => ?_⟩
      rw [step.frame.1.db (by rintro ⟨⟩)]
      exact member

end Faithful

/-- A candidate as it was selected, which the tables still know. -/
structure Held (c : Candidate) (db : Database) : Prop where
  assigned : c.event.rfidSessionId ≠ none
  event : ∃ e ∈ db.events.rows, e.unplaced = c.event.unplaced
  session : ∀ s, c.session = some s → c.event.rfidSessionId = some s.id ∧
    ∃ s' ∈ db.sessions.rows, s'.id = s.id ∧ s'.deviceId = s.deviceId ∧
      s'.externalSessionKey = s.externalSessionKey
  device : c.device = db.deviceOf c.event.deviceId

/-- The attempt has been opened by the thread, and nothing has come of it. -/
def Awaiting (t : Thread) (attemptId eventId : Nat) (w : World) : Prop :=
  OpenedBy t attemptId eventId w.trace ∧ requestsOf attemptId w.trace = [] ∧
    ∃ a ∈ w.db.attempts.rows, a.id = attemptId ∧ a.outcome = .started

/-- The sender has ended on the attempt of the thread. -/
def Answered (env : BridgeEnv) (t : Thread) (attemptId eventId : Nat)
    (outcome : Except PyException DeliverySenderResult) (w : World) : Prop :=
  OpenedBy t attemptId eventId w.trace ∧
    ∃ reply, Exchange env w.db w.trace attemptId eventId reply ∧
      recordedResult reply = recordedResult outcome

section
variable {env : BridgeEnv} {before : Table DeliveryAttempt} {t : Thread} {db db' : Database}
  {c : Candidate} {attemptId eventId : Nat}

theorem Held.mono (stay : RowsStay db db') (h : Held c db) : Held c db' := by
  refine ⟨h.assigned, ?_, ?_, ?_⟩
  · obtain ⟨e, he, same⟩ := h.event
    have assigned : e.rfidSessionId ≠ none := by
      rw [SameEvents.eq_of_unplaced same]
      exact h.assigned
    obtain ⟨e', he', same'⟩ := stay.events e he assigned
    exact ⟨e', he', same'.trans same⟩
  · intro s hs
    obtain ⟨assigned, s', hs', id, device, key⟩ := h.session s hs
    obtain ⟨s'', hs'', id', device', key'⟩ := stay.sessions s' hs'
    exact ⟨assigned, s'', hs'', id'.trans id, device'.trans device, key'.trans key⟩
  · rw [stay.deviceOf]
    exact h.device

theorem held_of_selected {readerCode : String} {batchSize : Nat} {now : Timestamp}
    (h : c ∈ db.selectCandidates readerCode batchSize now) : Held c db := by
  obtain ⟨member, owned, -⟩ := mem_selectCandidates h
  obtain ⟨e, -, rfl⟩ := List.mem_map.mp h
  refine ⟨by simpa [Option.isSome_iff_ne_none] using owned.2.2, ⟨e, member, rfl⟩, ?_, rfl⟩
  intro s found
  obtain ⟨hs, assigned⟩ := sessionOf_eq_some.mp found
  exact ⟨assigned, s, hs, rfl, rfl, rfl⟩

theorem lasts_awaiting : Actor.Lasts (Beside t) (Awaiting t attemptId eventId) := by
  rintro w w' beside ⟨mine, unasked, a, member, same, open_⟩
  obtain ⟨requests, kept⟩ := beside.attempts attemptId eventId mine
  exact ⟨mine.mono beside.grows, requests.trans unasked, a, kept a member same, same, open_⟩

theorem lasts_answered (outcome : Except PyException DeliverySenderResult) :
    Actor.Lasts (Beside t) (Answered env t attemptId eventId outcome) := by
  rintro w w' beside ⟨mine, reply, exchange, result⟩
  exact ⟨mine.mono beside.grows, reply,
    exchange.mono beside.stay (beside.attempts attemptId eventId mine).1, result⟩

/-- An attempt on which the sender refuses before it asks. -/
theorem answered_of_refusal {w : World} {exc : PyException} (h : Awaiting t attemptId eventId w) :
    Answered env t attemptId eventId (.error exc) w :=
  ⟨h.1, .error exc, .refused h.2.1, rfl⟩

/-- An exception counts as RETRY under its own name, whoever catches it. -/
theorem Answered.caught {w : World} {exc : PyException}
    (h : Answered env t attemptId eventId (.error exc) w) :
    Answered env t attemptId eventId
      (.ok { outcome := .retry, errorKind := exc.cls.name, detail := exc.message }) w := h

end
end RfidBridge
