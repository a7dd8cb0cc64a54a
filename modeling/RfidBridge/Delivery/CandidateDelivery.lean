import RfidBridge.Delivery.CycleAlone
import RfidBridge.Delivery.OdooEventSender

/-!
What a cycle makes of its candidates. An attempt is opened in one transaction and closed in
another; the first commits while the event has an attempt left, the second where the reply
can be recorded.
-/

namespace RfidBridge
open Database

/-- What a cycle records of a reply: a sender that raised counts as RETRY. -/
def recordedResult : Except PyException DeliverySenderResult → DeliverySenderResult
  | .ok result => result
  | .error exc => { outcome := .retry, errorKind := exc.cls.name, detail := exc.message }

/-- A result that complete_delivery_attempt accepts for the attempt of this number. -/
structure Recordable (utf8 : Utf8) (settings : DeliverySettings) (attemptNumber : Nat)
    (completedAt : Timestamp) (result : DeliverySenderResult) : Prop where
  outcome : (outcomeToQueueState result.outcome).isSome
  responseCode : fitsColumn utf8 (some 64) result.responseCode
  errorKind : fitsColumn utf8 (some 128) result.errorKind
  detail : fitsColumn utf8 none result.detail
  retry : result.outcome = .retry →
    1 ≤ settings.retryInitialSeconds ∧ settings.retryInitialSeconds ≤ settings.retryMaxSeconds ∧
    completedAt + (min (settings.retryInitialSeconds * 2 ^ (attemptNumber - 1))
      settings.retryMaxSeconds).toNat * 1000000 ≤ maxTimestamp

/-- INFLIGHT with an attempt that nobody will close. -/
def Stranded (db : Database) (eventId : Nat) : Prop :=
  ∃ e ∈ db.events.rows, e.id = eventId ∧ e.queueState = .inflight ∧
    ∃ a ∈ db.attemptsOf eventId, a.outcome = .started

instance (db : Database) (eventId : Nat) : Decidable (Stranded db eventId) :=
  inferInstanceAs (Decidable (∃ e ∈ db.events.rows, e.id = eventId ∧ e.queueState = .inflight ∧
    ∃ a ∈ db.attemptsOf eventId, a.outcome = .started))

section
variable {settings : DeliverySettings} {attemptNumber : Nat} {completedAt : Timestamp}
  {result : DeliverySenderResult} {next : Option Timestamp}

/-- The schedule of a completion exists exactly under the retry settings' own conditions. -/
theorem nextRetryAt_isOk (positive : 1 ≤ attemptNumber) :
    (∃ next, nextRetryAt result.outcome attemptNumber completedAt
        (some settings.retryInitialSeconds) (some settings.retryMaxSeconds) = .ok next) ↔
      (result.outcome = .retry →
        1 ≤ settings.retryInitialSeconds ∧
        settings.retryInitialSeconds ≤ settings.retryMaxSeconds ∧
        completedAt + (min (settings.retryInitialSeconds * 2 ^ (attemptNumber - 1))
          settings.retryMaxSeconds).toNat * 1000000 ≤ maxTimestamp) := by
  by_cases again : result.outcome = .retry
  · have number : ((attemptNumber : Int) - 1).toNat = attemptNumber - 1 := by omega
    have started : ¬ (attemptNumber : Int) < 1 := by omega
    simp only [again, nextRetryAt, calculateRetryDelaySeconds, addSeconds, bind_eq_ok, guard_eq_ok,
      Except.ok.injEq, number, forall_const, started, not_false_eq_true, true_and, Int.not_lt]
    constructor
    · rintro ⟨_, _, ⟨initial, maximum, rfl⟩, _, ⟨-, fits, -⟩, -⟩
      exact ⟨initial, maximum, Nat.not_lt.mp fits⟩
    · rintro ⟨initial, maximum, fits⟩
      refine ⟨_, _, ⟨initial, maximum, rfl⟩, _, ⟨?_, Nat.not_lt.mpr fits, rfl⟩, rfl⟩
      -- a delay that ends before datetime.max is within the range of timedelta
      have small := (Nat.le_add_left _ completedAt).trans fits
      simp only [maxTimestamp] at small
      simp only [maxTimedeltaSeconds]
      omega
  · simp only [again, false_implies, iff_true]
    refine ⟨none, ?_⟩
    cases kind : result.outcome <;> first | rfl | exact absurd kind again

end

/-- The rows and the attempts of other events are as they were. -/
structure OthersUntouched (eventId : Nat) (db db' : Database) : Prop where
  rows : ∀ e, e.id ≠ eventId → (e ∈ db'.events.rows ↔ e ∈ db.events.rows)
  attempts : ∀ id, id ≠ eventId → db'.attemptsOf id = db.attemptsOf id

section
variable {sha : Sha256} {utf8 : Utf8} {times : CycleTimes} {db db' db'' : Database}
  {settings : DeliverySettings} {e : RawRFIDEvent}

theorem OthersUntouched.trans {eventId : Nat} (first : OthersUntouched eventId db db')
    (second : OthersUntouched eventId db' db'') : OthersUntouched eventId db db'' where
  rows e other := (second.rows e other).trans (first.rows e other)
  attempts id other := (second.attempts id other).trans (first.attempts id other)

theorem rows_setQueueState {eventId : Nat} (state : QueueState) (e : RawRFIDEvent)
    (other : e.id ≠ eventId) :
    e ∈ (db.setQueueState eventId state).events.rows ↔ e ∈ db.events.rows :=
  db.events.mem_update_of_ne other

theorem othersUntouched_openAttempt (eventId : Nat) (now : Timestamp) :
    OthersUntouched eventId db (db.openAttempt eventId now) where
  rows e other := rows_setQueueState .inflight e other
  attempts id other := by
    rw [openAttempt, attemptsOf_insertAttempt, if_neg (Ne.symm other), List.append_nil]
    rfl

/-- The attempt that a start opens. -/
def openedAttempt (db : Database) (eventId : Nat) (now : Timestamp) : DeliveryAttempt :=
  { id := db.attempts.nextKey, eventId, attemptNumber := nextAttemptNumber db eventId,
    outcome := .started, attemptedAt := now }

theorem nextAttemptNumber_eq (ledger : StoreLedger db) (member : e ∈ db.events.rows) :
    nextAttemptNumber db e.id = (db.attemptsOf e.id).length + 1 :=
  (ledger.ledger e member).next_number

/-- The start of an attempt on this event commits. -/
structure Startable (settings : DeliverySettings) (db : Database) (e : RawRFIDEvent) : Prop
    extends Deliverable settings db e where
  column : (db.attemptsOf e.id).length < maxPositiveInteger

theorem startDeliveryAttempt_of_startable (startable : Startable settings db e)
    (ledger : StoreLedger db) (now : Timestamp) :
    startDeliveryAttempt e.id e.queueState settings.maxDeliveryAttempts now db =
      .ok ({
        eventId := e.id
        attemptId := db.attempts.nextKey
        attemptNumber := nextAttemptNumber db e.id
        previousState := e.queueState
        currentState := .inflight }, db.openAttempt e.id now) := by
  have number := nextAttemptNumber_eq ledger startable.member
  have within := startable.within
  have column := startable.column
  have found : db.getEvent e.id = .ok e := getEvent_eq_ok.mpr ⟨startable.member, rfl⟩
  have legal : validateQueueTransition e.queueState .inflight = .ok () := by
    rw [validateQueueTransition_eq_ok]
    rcases startable.waiting with h | h <;> rw [h] <;> decide
  unfold startDeliveryAttempt
  rw [if_neg (by omega)]
  simp only [found, bind, Except.bind, ne_eq, not_true, if_false]
  rw [if_neg (by rcases startable.waiting with h | h <;> simp [h]), if_neg (by omega), legal]
  dsimp only
  rw [if_neg (by omega)]
  rfl

/-- A start commits for the events that are startable. -/
theorem startDeliveryAttempt_isOk_iff (member : e ∈ db.events.rows)
    (waiting : e.queueState = .queued ∨ e.queueState = .retry) (ledger : StoreLedger db)
    (now : Timestamp) :
    (∃ answer, startDeliveryAttempt e.id e.queueState settings.maxDeliveryAttempts now db =
      .ok answer) ↔ Startable settings db e := by
  constructor
  · rintro ⟨⟨result, db'⟩, ran⟩
    have number := nextAttemptNumber_eq ledger member
    simp only [startDeliveryAttempt, bind_eq_ok, guard_eq_ok] at ran
    obtain ⟨-, _, -, -, -, within, -, -, column, -⟩ := ran
    refine ⟨⟨member, waiting, ?_⟩, ?_⟩ <;> omega
  · exact fun startable => ⟨_, startDeliveryAttempt_of_startable startable ledger now⟩

theorem perform_startDeliveryAttempt (startable : Startable settings db e)
    (ledger : StoreLedger db) :
    (StoreOp.startDeliveryAttempt e.id e.queueState settings.maxDeliveryAttempts).perform sha times
        db =
      (.ok {
        eventId := e.id
        attemptId := db.attempts.nextKey
        attemptNumber := nextAttemptNumber db e.id
        previousState := e.queueState
        currentState := .inflight }, db.openAttempt e.id (times.started e.id)) := by
  simp only [StoreOp.perform, StoreOp.run, CycleTimes.of,
    startDeliveryAttempt_of_startable startable ledger (times.started e.id)]

/-- An INFLIGHT event and its open attempt. -/
structure Opened (db : Database) (e : RawRFIDEvent) (a : DeliveryAttempt) : Prop where
  event : e ∈ db.events.rows
  inflight : e.queueState = .inflight
  attempt : a ∈ db.attempts.rows
  mine : a.eventId = e.id
  started : a.outcome = .started
  positive : 1 ≤ a.attemptNumber

theorem opened_openAttempt (ledger : StoreLedger db) (member : e ∈ db.events.rows)
    (now : Timestamp) :
    Opened (db.openAttempt e.id now) { e with queueState := .inflight }
      (openedAttempt db e.id now) where
  event := (mem_setQueueState db e.id .inflight _).mpr (.inr ⟨e, member, rfl, rfl⟩)
  inflight := rfl
  attempt := (mem_insertAttempt _ _ _ _ _).mpr (.inr rfl)
  mine := rfl
  started := rfl
  positive := by
    show 1 ≤ nextAttemptNumber db e.id
    rw [nextAttemptNumber_eq ledger member]
    omega

theorem Opened.getAttempt {a : DeliveryAttempt} (h : Opened db e a) :
    db.getAttempt a.id e.id = .ok a := by
  have found : db.attempts.find? a.id = some a := db.attempts.find?_self h.attempt
  simp [Database.getAttempt, found, Option.filter, h.mine]

/-- The closing transaction commits for a recordable result. -/
theorem completeDeliveryAttempt_of_recordable {a : DeliveryAttempt} {now : Timestamp}
    {result : DeliverySenderResult} (h : Opened db e a)
    (recordable : Recordable utf8 settings a.attemptNumber now result) :
    ∃ answer, completeDeliveryAttempt utf8 e.id a.id result.outcome result.responseCode
      result.errorKind result.detail (some settings.retryInitialSeconds)
      (some settings.retryMaxSeconds) now db = .ok answer := by
  obtain ⟨target, hasTarget⟩ := Option.isSome_iff_exists.mp recordable.outcome
  obtain ⟨next, scheduled⟩ := (nextRetryAt_isOk h.positive).mpr recordable.retry
  have found : db.getEvent e.id = .ok e := getEvent_eq_ok.mpr ⟨h.event, rfl⟩
  have settled : requireRetrySettings result.outcome (some settings.retryInitialSeconds)
      (some settings.retryMaxSeconds) = .ok () := by
    simp [requireRetrySettings]
  have legal : validateQueueTransition .inflight target = .ok () := by
    rw [validateQueueTransition_eq_ok]
    cases kind : result.outcome <;> rw [kind] at hasTarget <;> cases hasTarget <;> decide
  have responseCode := columnText_eq_ok.mpr ⟨recordable.responseCode, rfl⟩
  have errorKind := columnText_eq_ok.mpr ⟨recordable.errorKind, rfl⟩
  have detail := columnText_eq_ok.mpr ⟨recordable.detail, rfl⟩
  cases ran : completeDeliveryAttempt utf8 e.id a.id result.outcome result.responseCode
      result.errorKind result.detail (some settings.retryInitialSeconds)
      (some settings.retryMaxSeconds) now db with
  | ok answer => exact ⟨answer, rfl⟩
  | error exc =>
      simp only [completeDeliveryAttempt, hasTarget, settled, found, bind, Except.bind, h.inflight,
        ne_eq, not_true, if_false, h.getAttempt, h.started, legal, scheduled, responseCode,
        errorKind, detail] at ran
      cases ran

theorem othersUntouched_closeAttempt {a : DeliveryAttempt} {eventId : Nat}
    (member : a ∈ db.attempts.rows) (mine : a.eventId = eventId) (target : QueueState)
    (outcome : Outcome) (responseCode errorKind detail : String) (now : Timestamp)
    (next : Option Timestamp) :
    OthersUntouched eventId db { db.setQueueState eventId target with
      attempts := db.attempts.update a.id
        (closeAttempt outcome responseCode errorKind detail now next) } where
  rows e' other := rows_setQueueState target e' other
  attempts id other := by
    have changed := attemptsOf_update db a.id (closeAttempt outcome responseCode errorKind detail
      now next) (fun _ => rfl) id fun _ => rfl
    refine changed.trans ((List.map_congr_left fun b hb => if_neg ?_).trans (List.map_id' _))
    intro same
    obtain ⟨row, owner⟩ := mem_attemptsOf.mp hb
    rw [db.attempts.eq_of_key_eq row member same, mine] at owner
    exact other owner.symm

/-- A closing transaction that commits has recorded a recordable result and moved the event
to the state of its outcome. -/
theorem recordable_of_completeDeliveryAttempt {a : DeliveryAttempt} {now : Timestamp}
    {result : DeliverySenderResult} {answer : DeliveryAttemptCompletionResult} (h : Opened db e a)
    (ran : completeDeliveryAttempt utf8 e.id a.id result.outcome result.responseCode
      result.errorKind result.detail (some settings.retryInitialSeconds)
      (some settings.retryMaxSeconds) now db = .ok (answer, db')) :
    Recordable utf8 settings a.attemptNumber now result ∧ OthersUntouched e.id db db' ∧
      (∀ e' ∈ db'.events.rows, e'.id = e.id →
        outcomeToQueueState result.outcome = some e'.queueState) ∧
      answer.outcome = result.outcome ∧ ∃ next, db'.attempts = db.attempts.update a.id
        (closeAttempt result.outcome (keptText (some 64) result.responseCode)
          (keptText (some 128) result.errorKind) result.detail now next) := by
  simp only [completeDeliveryAttempt] at ran
  split at ran
  · cases ran
  · rename_i target hasTarget
    simp only [bind_eq_ok, guard_eq_ok, columnText_eq_ok, Except.ok.injEq, Prod.mk.injEq,
      h.getAttempt] at ran
    obtain ⟨_, -, _, -, -, _, rfl, -, _, -, next, scheduled, _, ⟨responseCode, rfl⟩, _,
      ⟨errorKind, rfl⟩, _, ⟨detail, rfl⟩, rfl, rfl⟩ := ran
    refine ⟨⟨by simp [hasTarget], responseCode, errorKind, detail,
      (nextRetryAt_isOk h.positive).mp ⟨next, scheduled⟩⟩, ?_, ?_, rfl, next, rfl⟩
    · exact othersUntouched_closeAttempt h.attempt h.mine target _ _ _ _ _ _
    · intro e' he' same
      rcases (mem_setQueueState db e.id target e').mp he' with ⟨-, other⟩ | ⟨_, -, -, rfl⟩
      · exact absurd same other
      · exact hasTarget

end

section
variable {sha : Sha256} {times : CycleTimes} {db db' db'' : Database} {settings : DeliverySettings}
  {reply : Candidate → Except PyException DeliverySenderResult}

/-- The rows and the attempts of one event are as they were. -/
structure Untouched (eventId : Nat) (db db' : Database) : Prop where
  rows : ∀ e, e.id = eventId → (e ∈ db'.events.rows ↔ e ∈ db.events.rows)
  attempts : db'.attemptsOf eventId = db.attemptsOf eventId

theorem Untouched.refl {eventId : Nat} : Untouched eventId db db := ⟨fun _ _ => Iff.rfl, rfl⟩

theorem Untouched.trans {eventId : Nat} (first : Untouched eventId db db')
    (second : Untouched eventId db' db'') : Untouched eventId db db'' where
  rows e named := (second.rows e named).trans (first.rows e named)
  attempts := second.attempts.trans first.attempts

theorem OthersUntouched.refl {eventId : Nat} : OthersUntouched eventId db db :=
  ⟨fun _ _ => Iff.rfl, fun _ _ => rfl⟩

theorem OthersUntouched.untouched {eventId other : Nat} (h : OthersUntouched eventId db db')
    (apart : other ≠ eventId) : Untouched other db db' where
  rows e named := h.rows e (named ▸ apart)
  attempts := h.attempts other apart

theorem Untouched.startable {e : RawRFIDEvent} (h : Untouched e.id db db') :
    Startable settings db' e ↔ Startable settings db e := by
  constructor
  · intro startable
    refine ⟨⟨(h.rows e rfl).mp startable.member, startable.waiting, ?_⟩, ?_⟩
    · exact h.attempts ▸ startable.within
    · exact h.attempts ▸ startable.column
  · intro startable
    refine ⟨⟨(h.rows e rfl).mpr startable.member, startable.waiting, ?_⟩, ?_⟩
    · exact h.attempts.symm ▸ startable.within
    · exact h.attempts.symm ▸ startable.column

theorem Untouched.stranded {eventId : Nat} (h : Untouched eventId db db') :
    Stranded db' eventId ↔ Stranded db eventId := by
  unfold Stranded
  rw [h.attempts]
  constructor
  · rintro ⟨e, he, named, rest⟩
    exact ⟨e, (h.rows e named).mp he, named, rest⟩
  · rintro ⟨e, he, named, rest⟩
    exact ⟨e, (h.rows e named).mpr he, named, rest⟩

/-- The sender was cut off, which a cycle does not survive. -/
def SendCutOff (answer : Except PyException DeliverySenderResult) : Prop :=
  ∃ exc, answer = .error exc ∧ exc.isException = false

/-- The attempt on a candidate is opened, and closed with this answer. -/
structure Settles (sha : Sha256) (settings : DeliverySettings) (times : CycleTimes)
    (db : Database) (c : Candidate) (answer : Except PyException DeliverySenderResult) :
    Prop where
  startable : Startable settings db c.event
  recordable : Recordable sha.toUtf8 settings ((db.attemptsOf c.event.id).length + 1)
    (times.completed c.event.id) (recordedResult answer)

/-- What a cycle leaves of one of its candidates. -/
structure Treated (sha : Sha256) (settings : DeliverySettings) (times : CycleTimes) (c : Candidate)
    (answer : Except PyException DeliverySenderResult) (db db' : Database) : Prop where
  stranded_iff : Startable settings db c.event → (Stranded db' c.event.id ↔
    ¬ Recordable sha.toUtf8 settings ((db.attemptsOf c.event.id).length + 1)
      (times.completed c.event.id) (recordedResult answer))
  attempted : Settles sha settings times db c answer → ∃ a,
    db'.attemptsOf c.event.id = db.attemptsOf c.event.id ++ [a] ∧
    a.outcome = (recordedResult answer).outcome ∧ a.completedAt.isSome
  moved : Settles sha settings times db c answer → ∀ e ∈ db'.events.rows, e.id = c.event.id →
    outcomeToQueueState (recordedResult answer).outcome = some e.queueState

/-- How a cycle counts one of its candidates. -/
structure Counted (sha : Sha256) (settings : DeliverySettings) (times : CycleTimes)
    (db : Database) (c : Candidate) (answer : Except PyException DeliverySenderResult)
    (outcome : Option Outcome) : Prop where
  uncut : Startable settings db c.event → ¬ SendCutOff answer
  settled : Settles sha settings times db c answer → outcome = some (recordedResult answer).outcome
  failed : ¬ Settles sha settings times db c answer → outcome = none

theorem Untouched.settles {c : Candidate} {answer : Except PyException DeliverySenderResult}
    (h : Untouched c.event.id db db') :
    Settles sha settings times db' c answer ↔ Settles sha settings times db c answer := by
  constructor
  · rintro ⟨startable, recordable⟩
    exact ⟨h.startable.mp startable, h.attempts ▸ recordable⟩
  · rintro ⟨startable, recordable⟩
    exact ⟨h.startable.mpr startable, h.attempts.symm ▸ recordable⟩

theorem Untouched.counted {c : Candidate} {answer : Except PyException DeliverySenderResult}
    {outcome : Option Outcome} (h : Untouched c.event.id db db')
    (counted : Counted sha settings times db' c answer outcome) :
    Counted sha settings times db c answer outcome where
  uncut startable := counted.uncut (h.startable.mpr startable)
  settled settles := counted.settled (h.settles.mpr settles)
  failed refused := counted.failed fun settles => refused (h.settles.mp settles)

theorem Treated.later {c : Candidate} {answer : Except PyException DeliverySenderResult}
    (h : Treated sha settings times c answer db' db'') (before : Untouched c.event.id db db') :
    Treated sha settings times c answer db db'' where
  stranded_iff startable := by
    rw [← before.attempts]
    exact h.stranded_iff (before.startable.mpr startable)
  attempted settles := by
    rw [← before.attempts]
    exact h.attempted (before.settles.mpr settles)
  moved settles := h.moved (before.settles.mpr settles)

theorem Treated.kept {c : Candidate} {answer : Except PyException DeliverySenderResult}
    (h : Treated sha settings times c answer db db') (after : Untouched c.event.id db' db'') :
    Treated sha settings times c answer db db'' where
  stranded_iff startable := after.stranded.trans (h.stranded_iff startable)
  attempted settles := after.attempts.symm ▸ h.attempted settles
  moved settles e he named := h.moved settles e ((after.rows e named).mp he) named

/-- The transactions of one candidate touch no other event. -/
structure Delivered (sha : Sha256) (settings : DeliverySettings) (times : CycleTimes)
    (c : Candidate) (answer : Except PyException DeliverySenderResult) (db db' : Database) : Prop
    extends Treated sha settings times c answer db db' where
  ledger : StoreLedger db'
  others : OthersUntouched c.event.id db db'

theorem isException_of_getEvent {eventId : Nat} {exc : PyException}
    (h : db.getEvent eventId = .error exc) : exc.isException = true := by
  unfold getEvent at h
  split at h <;> cases h
  rfl

theorem isException_of_validate {current target : QueueState} {exc : PyException}
    (h : validateQueueTransition current target = .error exc) : exc.isException = true := by
  simp only [validateQueueTransition, raised, guard_eq_error] at h
  obtain ⟨-, rfl⟩ | ⟨-, ⟨-, rfl⟩ | ⟨-, h⟩⟩ := h
  · rfl
  · rfl
  · cases h

theorem isException_of_startDeliveryAttempt {eventId : Nat} {expectedState : QueueState}
    {limit : Int} {now : Timestamp} {exc : PyException}
    (h : startDeliveryAttempt eventId expectedState limit now db = .error exc) :
    exc.isException = true := by
  simp only [startDeliveryAttempt, bind_eq_error, guard_eq_error, raised] at h
  obtain ⟨-, rfl⟩ | ⟨-, missing | ⟨event, -, ⟨-, rfl⟩ | ⟨-, ⟨-, rfl⟩ | ⟨-, ⟨-, rfl⟩ | ⟨-,
    illegal | ⟨-, -, ⟨-, rfl⟩ | ⟨-, h⟩⟩⟩⟩⟩⟩⟩ := h
  · rfl
  · exact isException_of_getEvent missing
  · rfl
  · rfl
  · rfl
  · exact isException_of_validate illegal
  · rfl
  · cases h

theorem isException_of_completeDeliveryAttempt {utf8 : Utf8} {eventId attemptId : Nat}
    {outcome : Outcome} {responseCode errorKind detail : String} {initial maximum : Option Int}
    {now : Timestamp} {exc : PyException}
    (h : completeDeliveryAttempt utf8 eventId attemptId outcome responseCode errorKind detail
      initial maximum now db = .error exc) : exc.isException = true := by
  have ofSettings : ∀ {exc}, requireRetrySettings outcome initial maximum = .error exc →
      exc.isException = true := by
    intro exc h
    simp only [requireRetrySettings, raised, guard_eq_error] at h
    obtain ⟨-, rfl⟩ | ⟨-, ⟨-, rfl⟩ | ⟨-, h⟩⟩ := h
    · rfl
    · rfl
    · cases h
  have ofAttempt : ∀ {exc}, db.getAttempt attemptId eventId = .error exc →
      exc.isException = true := by
    intro exc h
    unfold getAttempt at h
    split at h <;> cases h
    rfl
  have ofSchedule : ∀ {number exc}, nextRetryAt outcome number now initial maximum = .error exc →
      exc.isException = true := by
    intro number exc h
    unfold nextRetryAt at h
    split at h
    · simp only [calculateRetryDelaySeconds, addSeconds, bind_eq_error, guard_eq_error, raised] at h
      obtain (⟨-, rfl⟩ | ⟨-, ⟨-, rfl⟩ | ⟨-, ⟨-, rfl⟩ | ⟨-, h⟩⟩⟩) |
        ⟨_, -, (⟨-, rfl⟩ | ⟨-, ⟨-, rfl⟩ | ⟨-, h⟩⟩) | ⟨_, -, h⟩⟩ := h
      all_goals first | rfl | cases h
    · cases h
  unfold completeDeliveryAttempt at h
  split at h
  · cases h
    rfl
  simp only [bind_eq_error, guard_eq_error, raised] at h
  obtain h | ⟨_, -, h | ⟨event, -, ⟨-, rfl⟩ | ⟨-, h | ⟨attempt, -, ⟨-, rfl⟩ | ⟨-, h | ⟨_, -, h |
    ⟨next, -, h | ⟨_, -, h | ⟨_, -, h | ⟨_, -, h⟩⟩⟩⟩⟩⟩⟩⟩⟩⟩ := h
  · exact ofSettings h
  · exact isException_of_getEvent h
  · rfl
  · exact ofAttempt h
  · rfl
  · exact isException_of_validate h
  · exact ofSchedule h
  · exact isException_of_columnText h
  · exact isException_of_columnText h
  · exact isException_of_columnText h
  · cases h

/-- The attempts of an event whose open attempt has been closed. -/
theorem attemptsOf_closed {e : RawRFIDEvent} {now : Timestamp}
    {change : DeliveryAttempt → DeliveryAttempt} {keeps : ∀ a, Keyed.key (change a) = Keyed.key a}
    (closed : db'.attempts =
      (db.openAttempt e.id now).attempts.update db.attempts.nextKey change keeps)
    (mine : ∀ a, (change a).eventId = a.eventId) :
    db'.attemptsOf e.id = db.attemptsOf e.id ++ [change (openedAttempt db e.id now)] := by
  have updated := attemptsOf_update (db.openAttempt e.id now) db.attempts.nextKey change keeps e.id
    mine
  have opened : (db.openAttempt e.id now).attemptsOf e.id =
      db.attemptsOf e.id ++ [openedAttempt db e.id now] := by
    rw [openAttempt, attemptsOf_insertAttempt, if_pos rfl]
    rfl
  have mineKey : (openedAttempt db e.id now).id = db.attempts.nextKey := rfl
  have older : ∀ a ∈ db.attemptsOf e.id, a.id ≠ db.attempts.nextKey := by
    intro a ha same
    have below := db.attempts.below a (mem_attemptsOf.mp ha).1
    simp only [key_attempt] at below
    omega
  simp only [attemptsOf, closed] at updated ⊢
  rw [updated]
  change List.map _ ((db.openAttempt e.id now).attemptsOf e.id) = _
  rw [opened, List.map_append, List.map_congr_left fun a ha => if_neg (older a ha), List.map_id',
    List.map_singleton, if_pos mineKey]
  rfl

theorem delivered_of_complete {c : Candidate} {answer : Except PyException DeliverySenderResult}
    (startable : Startable settings db c.event) (ledger : StoreLedger db) :
    let run := (StoreOp.completeDeliveryAttempt c.event.id db.attempts.nextKey
      (recordedResult answer).outcome (recordedResult answer).responseCode
      (recordedResult answer).errorKind (recordedResult answer).detail
      (some settings.retryInitialSeconds) (some settings.retryMaxSeconds)).perform sha times
        (db.openAttempt c.event.id (times.started c.event.id))
    Delivered sha settings times c answer db run.2 ∧
      match run.1 with
      | .ok completed => Settles sha settings times db c answer ∧
          completed.outcome = (recordedResult answer).outcome
      | .error exc => ¬ Settles sha settings times db c answer ∧ exc.isException = true := by
  have opened := opened_openAttempt ledger startable.member (times.started c.event.id)
  have number : (openedAttempt db c.event.id (times.started c.event.id)).attemptNumber =
      (db.attemptsOf c.event.id).length + 1 := nextAttemptNumber_eq ledger startable.member
  have ledger₁ : StoreLedger (db.openAttempt c.event.id (times.started c.event.id)) :=
    ledger.opened startable.member startable.waiting
  have others : OthersUntouched c.event.id db
      (db.openAttempt c.event.id (times.started c.event.id)) :=
    othersUntouched_openAttempt c.event.id (times.started c.event.id)
  cases ran : completeDeliveryAttempt sha.toUtf8 c.event.id db.attempts.nextKey
      (recordedResult answer).outcome (recordedResult answer).responseCode
      (recordedResult answer).errorKind (recordedResult answer).detail
      (some settings.retryInitialSeconds) (some settings.retryMaxSeconds)
      (times.completed c.event.id) (db.openAttempt c.event.id (times.started c.event.id)) with
  | ok closed =>
      obtain ⟨completed, db'⟩ := closed
      obtain ⟨recordable, others', moved, outcome, next, attempts⟩ :=
        recordable_of_completeDeliveryAttempt opened ran
      let complete := StoreOp.completeDeliveryAttempt c.event.id db.attempts.nextKey
        (recordedResult answer).outcome (recordedResult answer).responseCode
        (recordedResult answer).errorKind (recordedResult answer).detail
        (some settings.retryInitialSeconds) (some settings.retryMaxSeconds)
      have committed : complete.run sha (times.completed c.event.id)
          (db.openAttempt c.event.id (times.started c.event.id)) = .ok (completed, db') := ran
      have issued : complete.Issued := trivial
      have ledger₂ : StoreLedger db' := StoreLedger.run issued committed ledger₁
      have extended := attemptsOf_closed attempts fun _ => rfl
      rw [number] at recordable
      simp only [StoreOp.perform, StoreOp.run, CycleTimes.of, ran]
      refine ⟨⟨⟨fun _ => ⟨?_, fun refused => absurd recordable refused⟩, fun _ =>
        ⟨_, extended, rfl, rfl⟩, fun _ => moved⟩, ledger₂, others.trans others'⟩,
        ⟨startable, recordable⟩, outcome⟩
      rintro ⟨e, he, same, inflight, -⟩
      exact absurd inflight (target_of_outcome (moved e he same)).2.2
  | error exc =>
      have refused : ¬ Recordable sha.toUtf8 settings ((db.attemptsOf c.event.id).length + 1)
          (times.completed c.event.id) (recordedResult answer) := by
        intro recordable
        rw [← number] at recordable
        obtain ⟨_, committed⟩ := completeDeliveryAttempt_of_recordable opened recordable
        have both := ran.symm.trans committed
        cases both
      have unsettled : ¬ Settles sha settings times db c answer := fun settles =>
        refused settles.recordable
      simp only [StoreOp.perform, StoreOp.run, CycleTimes.of, ran]
      refine ⟨⟨⟨fun _ => ⟨fun _ => refused, fun _ => ?_⟩, fun settles => absurd settles unsettled,
        fun settles => absurd settles unsettled⟩, ledger₁, others⟩, unsettled,
        isException_of_completeDeliveryAttempt ran⟩
      exact ⟨_, opened.event, rfl, rfl, _, mem_attemptsOf.mpr ⟨opened.attempt, rfl⟩, rfl⟩

/-- A refused start leaves its candidate alone. -/
theorem delivered_of_refused {c : Candidate} {answer : Except PyException DeliverySenderResult}
    (refused : ¬ Startable settings db c.event) (ledger : StoreLedger db) :
    Delivered sha settings times c answer db db :=
  ⟨⟨fun startable => absurd startable refused, fun settles => absurd settles.startable refused,
    fun settles => absurd settles.startable refused⟩, ledger, .refl⟩

theorem perform_refused_start {e : RawRFIDEvent} (member : e ∈ db.events.rows)
    (waiting : e.queueState = .queued ∨ e.queueState = .retry) (ledger : StoreLedger db)
    (refused : ¬ Startable settings db e) :
    ∃ exc, exc.isException = true ∧
      (StoreOp.startDeliveryAttempt e.id e.queueState settings.maxDeliveryAttempts).perform sha
        times db = (.error exc, db) := by
  cases ran : startDeliveryAttempt e.id e.queueState settings.maxDeliveryAttempts
      (times.started e.id) db with
  | error exc =>
      refine ⟨exc, isException_of_startDeliveryAttempt ran, ?_⟩
      simp only [StoreOp.perform, StoreOp.run, CycleTimes.of, ran]
  | ok started =>
      have startable := (startDeliveryAttempt_isOk_iff member waiting ledger _).mp ⟨started, ran⟩
      exact absurd startable refused

/-- A cycle was cut off while it sent this candidate. -/
structure CutOff (settings : DeliverySettings) (times : CycleTimes) (c : Candidate)
    (answer : Except PyException DeliverySenderResult) (db db' : Database) : Prop where
  startable : Startable settings db c.event
  cut : SendCutOff answer
  opened : db' = db.openAttempt c.event.id (times.started c.event.id)

/-- How a cycle ends with one of its candidates. -/
abbrev DeliveryEnds (sha : Sha256) (settings : DeliverySettings) (times : CycleTimes)
    (db : Database) (c : Candidate) (answer : Except PyException DeliverySenderResult) :
    Except PyException (Option Outcome) → Database → Prop :=
  Actor.ends
    (fun outcome db' =>
      Delivered sha settings times c answer db db' ∧ Counted sha settings times db c answer outcome)
    fun _ db' => CutOff settings times c answer db db'

theorem sat_sendToOdoo (answer : Except PyException DeliverySenderResult) :
    (cycleAlone sha times).Sat
      (Prog.tryExcept (Prog.ofExcept answer : StoreProgram DeliverySenderResult) fun exc =>
        if exc.isException then
          pure { outcome := .retry, errorKind := exc.cls.name, detail := exc.message }
        else .raise exc)
      (Actor.ends
        (fun result db' => result = recordedResult answer ∧ ¬ SendCutOff answer ∧ db' = db)
        (fun exc db' => answer = .error exc ∧ exc.isException = false ∧ db' = db)) db := by
  apply Actor.Sat.handle
  cases answer with
  | ok result =>
      apply Actor.Sat.ret
      rintro _ rfl
      apply Actor.Sat.ret
      rintro _ rfl
      exact ⟨rfl, nofun, rfl⟩
  | error exc =>
      apply Actor.Sat.raise
      rintro _ rfl
      dsimp only
      split
      · rename_i caught
        apply Actor.Sat.ret
        rintro _ rfl
        refine ⟨rfl, ?_, rfl⟩
        rintro ⟨_, same, cut⟩
        cases same
        rw [caught] at cut
        cases cut
      · rename_i cut
        apply Actor.Sat.raise
        rintro _ rfl
        exact ⟨rfl, Bool.eq_false_iff.mpr cut, rfl⟩

theorem sat_processDeliveryCandidate {c : Candidate} (member : c.event ∈ db.events.rows)
    (waiting : c.event.queueState = .queued ∨ c.event.queueState = .retry)
    (ledger : StoreLedger db) :
    (cycleAlone sha times).Sat
      (processDeliveryCandidate Prog.perform (fun _ candidate => Prog.ofExcept (reply candidate))
        settings c)
      (Actor.ends
        (fun result db' => Delivered sha settings times c (reply c) db db' ∧
          Settles sha settings times db c (reply c) ∧ ¬ SendCutOff (reply c) ∧
          result.outcome = (recordedResult (reply c)).outcome)
        fun exc db' =>
          Delivered sha settings times c (reply c) db db' ∧
            ¬ Settles sha settings times db c (reply c) ∧
            (Startable settings db c.event → ¬ SendCutOff (reply c)) ∧ exc.isException = true ∨
          CutOff settings times c (reply c) db db' ∧ exc.isException = false) db := by
  apply Actor.Sat.handle
  apply sat_perform
  by_cases startable : Startable settings db c.event
  · rw [perform_startDeliveryAttempt startable ledger]
    apply Actor.Sat.handle
    apply (sat_sendToOdoo (reply c)).mono
    intro outcome db₁ sent
    cases outcome with
    | error exc =>
        obtain ⟨raises, escapes, rfl⟩ := sent
        apply Actor.Sat.raise
        rintro _ rfl
        exact .inr ⟨⟨startable, ⟨exc, raises, escapes⟩, rfl⟩, escapes⟩
    | ok result =>
        obtain ⟨rfl, uncut, rfl⟩ := sent
        apply Actor.Sat.handle
        apply sat_perform
        have completed := @delivered_of_complete sha times db settings c (reply c) startable ledger
        revert completed
        dsimp only
        generalize StoreOp.perform sha times _ (openAttempt ..) = run
        obtain ⟨answer, db'⟩ := run
        intro completed
        cases answer with
        | ok closed =>
            apply Actor.Sat.ret
            rintro _ rfl
            exact ⟨completed.1, completed.2.1, uncut, completed.2.2⟩
        | error exc =>
            apply Actor.Sat.raise
            rintro _ rfl
            exact .inl ⟨completed.1, completed.2.1, fun _ => uncut, completed.2.2⟩
  · obtain ⟨exc, caught, refused⟩ :=
      @perform_refused_start sha times db settings c.event member waiting ledger startable
    rw [refused]
    apply Actor.Sat.raise
    rintro _ rfl
    exact .inl ⟨delivered_of_refused startable ledger, fun settles => startable settles.startable,
      fun h => absurd h startable, caught⟩

theorem sat_deliverCandidate {c : Candidate} (member : c.event ∈ db.events.rows)
    (waiting : c.event.queueState = .queued ∨ c.event.queueState = .retry)
    (ledger : StoreLedger db) :
    (cycleAlone sha times).Sat
      (deliverCandidate Prog.perform (fun _ candidate => Prog.ofExcept (reply candidate))
        settings c)
      (DeliveryEnds sha settings times db c (reply c)) db := by
  apply Actor.Sat.handle
  apply Actor.Sat.handle
  apply (sat_processDeliveryCandidate member waiting ledger).mono
  intro outcome db' post
  cases outcome with
  | ok result =>
      obtain ⟨delivered, settles, uncut, recorded⟩ := post
      apply Actor.Sat.ret
      rintro _ rfl
      apply sat_returned
      exact ⟨delivered, fun _ => uncut, fun _ => congrArg some recorded, fun h => absurd settles h⟩
  | error exc =>
      apply Actor.Sat.raise
      rintro _ rfl
      dsimp only
      obtain ⟨delivered, unsettled, uncut, caught⟩ | ⟨cutOff, escaped⟩ := post
      · rw [if_pos caught]
        apply sat_returned
        exact ⟨delivered, uncut, fun h => absurd h unsettled, fun _ => rfl⟩
      · rw [if_neg (Bool.eq_false_iff.mp escaped)]
        apply Actor.Sat.raise
        rintro _ rfl
        exact cutOff

/-- What a loop leaves of the candidates that it is done with, and of all other events. -/
structure Handled (sha : Sha256) (settings : DeliverySettings) (times : CycleTimes)
    (reply : Candidate → Except PyException DeliverySenderResult) (candidates : List Candidate)
    (db db' : Database) : Prop where
  ledger : StoreLedger db'
  uncut : ∀ c ∈ candidates, Startable settings db c.event → ¬ SendCutOff (reply c)
  treated : ∀ c ∈ candidates, Treated sha settings times c (reply c) db db'
  others : ∀ id, (∀ c ∈ candidates, id ≠ c.event.id) → Untouched id db db'

/-- A loop over candidates was cut off at one of them. -/
def LoopCutOff (sha : Sha256) (settings : DeliverySettings) (times : CycleTimes)
    (reply : Candidate → Except PyException DeliverySenderResult) (candidates : List Candidate)
    (db db' : Database) : Prop :=
  ∃ before c after db₁, candidates = before ++ c :: after ∧
    Handled sha settings times reply before db db₁ ∧ CutOff settings times c (reply c) db₁ db'

theorem Handled.nil (ledger : StoreLedger db) : Handled sha settings times reply [] db db where
  ledger := ledger
  uncut _ none := absurd none List.not_mem_nil
  treated _ none := absurd none List.not_mem_nil
  others _ _ := .refl

theorem Handled.cons {c : Candidate} {candidates : List Candidate}
    (distinct : ∀ c' ∈ candidates, c'.event.id ≠ c.event.id)
    (first : Delivered sha settings times c (reply c) db db')
    (uncut : Startable settings db c.event → ¬ SendCutOff (reply c))
    (rest : Handled sha settings times reply candidates db' db'') :
    Handled sha settings times reply (c :: candidates) db db'' := by
  have before : ∀ c' ∈ candidates, Untouched c'.event.id db db' :=
    fun c' hc' => first.others.untouched (distinct c' hc')
  refine ⟨rest.ledger, ?_, ?_, ?_⟩
  · intro c' hc'
    cases hc' with
    | head => exact uncut
    | tail _ later => exact fun h => rest.uncut c' later ((before c' later).startable.mpr h)
  · intro c' hc'
    cases hc' with
    | head => exact first.toTreated.kept (rest.others _ fun c' hc' => (distinct c' hc').symm)
    | tail _ later => exact (rest.treated c' later).later (before c' later)
  · intro id other
    exact (first.others.untouched (other c (List.mem_cons_self ..))).trans
      (rest.others id fun c' hc' => other c' (List.mem_cons_of_mem c hc'))

/-- The candidate that cuts a loop off was startable in front of it. -/
theorem LoopCutOff.exists_cut {candidates : List Candidate}
    (h : LoopCutOff sha settings times reply candidates db db')
    (distinct : (candidates.map (·.event.id)).Nodup) :
    ∃ c ∈ candidates, Startable settings db c.event ∧ SendCutOff (reply c) := by
  obtain ⟨before, c, after, db₁, rfl, handled, cutOff⟩ := h
  rw [List.map_append, List.map_cons] at distinct
  have apart : ∀ c' ∈ before, c.event.id ≠ c'.event.id := fun c' hc' same =>
    (List.nodup_append.mp distinct).2.2 _ (List.mem_map_of_mem hc') _ (List.mem_cons_self ..)
      same.symm
  exact ⟨c, List.mem_append_right _ (List.mem_cons_self ..),
    (handled.others _ apart).startable.mp cutOff.startable, cutOff.cut⟩

/-- A loop whose body delivers one candidate treats each candidate by itself and touches no
other event. -/
theorem sat_forEachCandidate {body : Candidate → StoreProgram (Option Outcome)}
    (delivers : ∀ {db c}, c.event ∈ db.events.rows →
      c.event.queueState = .queued ∨ c.event.queueState = .retry → StoreLedger db →
      (cycleAlone sha times).Sat (body c) (DeliveryEnds sha settings times db c (reply c)) db)
    {candidates : List Candidate} (distinct : (candidates.map (·.event.id)).Nodup)
    (rows : ∀ c ∈ candidates, c.event ∈ db.events.rows)
    (waiting : ∀ c ∈ candidates, c.event.queueState = .queued ∨ c.event.queueState = .retry)
    (ledger : StoreLedger db) :
    (cycleAlone sha times).Sat (Prog.forEach candidates body)
      (Actor.ends
        (fun outcomes db' =>
          List.Forall₂ (fun c => Counted sha settings times db c (reply c)) candidates outcomes ∧
          Handled sha settings times reply candidates db db')
        fun _ db' => LoopCutOff sha settings times reply candidates db db') db := by
  induction candidates generalizing db with
  | nil =>
      apply sat_returned
      exact ⟨.nil, .nil ledger⟩
  | cons c candidates ih =>
      rw [List.map_cons, List.nodup_cons] at distinct
      have apart : ∀ c' ∈ candidates, c'.event.id ≠ c.event.id :=
        fun c' hc' same => distinct.1 (same ▸ List.mem_map_of_mem hc')
      rw [Prog.forEach]
      apply Actor.Sat.handle
      apply (delivers (rows c (List.mem_cons_self ..)) (waiting c (List.mem_cons_self ..))
        ledger).mono
      intro outcome db₁ post
      cases outcome with
      | error exc =>
          apply Actor.Sat.raise
          rintro _ rfl
          exact ⟨[], c, candidates, db, rfl, .nil ledger, post⟩
      | ok outcome =>
      obtain ⟨delivered, counted⟩ := post
      have before : ∀ c' ∈ candidates, Untouched c'.event.id db db₁ :=
        fun c' hc' => delivered.others.untouched (apart c' hc')
      have rest := ih distinct.2
        (fun c' hc' => ((before c' hc').rows c'.event rfl).mpr
          (rows c' (List.mem_cons_of_mem c hc')))
        (fun c' hc' => waiting c' (List.mem_cons_of_mem c hc')) delivered.ledger
      apply Actor.Sat.handle
      apply rest.mono
      intro outcomes db₂ post
      cases outcomes with
      | error exc =>
          obtain ⟨handled, c', after, db₃, rfl, done, cutOff⟩ := post
          apply Actor.Sat.raise
          rintro _ rfl
          refine ⟨c :: handled, c', after, db₃, rfl, ?_, cutOff⟩
          exact .cons (fun x hx => apart x (List.mem_append_left _ hx)) delivered counted.uncut done
      | ok outcomes =>
          obtain ⟨counts, handled⟩ := post
          apply sat_returned
          refine ⟨.cons counted ?_, .cons apart delivered counted.uncut handled⟩
          exact ((List.forall₂_and_left _ _).mpr ⟨before, counts⟩).imp fun _ _ h => h.1.counted h.2

end

end RfidBridge
