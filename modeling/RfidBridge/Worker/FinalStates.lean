import RfidBridge.Store.DeadLetters
import RfidBridge.Worker.AttemptRuns

/-!
Why an event has left the queue. SENT and REJECTED are what Odoo has answered about the event,
and DEAD is for the events of a cancelled session and for those whose attempts are used up;
no thread can give an event up for anything else.
-/

namespace RfidBridge
open Database FinalOdooEventSender

/-- An answer that refuses the event: an ok object whose results name the event's UUID once,
with an outcome other than accepted and duplicate. -/
def Rejects (py : Builtins) (eventUuid : String) (answer : Json) : Prop :=
  ∃ result results item, answer = .dict result ∧
    (Json.lookup result "ok").any Json.truthy = true ∧
    Json.lookup result "results" = some (.list results) ∧
    matching py eventUuid results = [item] ∧ outcomeText py item ∉ acceptedOutcomes

/-- The one request of the attempt has told Odoo of its event, and was answered so. -/
def AnsweredWith (env : BridgeEnv) (w : World) (a : DeliveryAttempt) (answer : Json → Prop) :
    Prop :=
  ∃ t sessionKey readerCode payload result,
    requestsOf a.id w.trace = [⟨t, .events a.id sessionKey readerCode payload, .ok result⟩] ∧
    Tells env w.db a.eventId sessionKey readerCode payload ∧ answer (.dict result)

/-- Why an event may be dead-lettered: its session is cancelled, or a query with this limit has
found its attempts used up. -/
def Cause (w : World) (eventId : Nat) : Prop :=
  (∃ e ∈ w.db.events.rows, e.id = eventId ∧
    ∃ s, w.db.sessionOf e = some s ∧ s.status = .cancelled) ∨
  ∃ t readerCode limit ids,
    (⟨t, .store (.selectExhausted readerCode limit), .ok ids⟩ : Entry) ∈ w.trace ∧
    eventId ∈ ids ∧ limit ≤ (w.db.attemptsOf eventId).length

section
variable {py : Builtins} {eventUuid : String} {answer : Json}

theorem rejects_of_rejected (h : (resultOfAnswer py eventUuid answer).outcome = .rejected) :
    Rejects py eventUuid answer := by
  unfold resultOfAnswer at h
  split at h
  · rename_i result
    split at h
    · cases h
    · rename_i ok
      split at h
      · rename_i results found
        split at h
        · rename_i item only
          unfold resultOfItem at h
          dsimp only at h
          split at h
          · cases h
          · rename_i refused
            exact ⟨result, results, item, rfl, by simpa using ok, found, only, refused⟩
        · cases h
      · cases h
  · cases h

/-- The sender gives no event up. -/
theorem outcome_resultOfAnswer (py : Builtins) (eventUuid : String) (answer : Json) :
    (resultOfAnswer py eventUuid answer).outcome = .sent ∨
    (resultOfAnswer py eventUuid answer).outcome = .retry ∨
    (resultOfAnswer py eventUuid answer).outcome = .rejected := by
  unfold resultOfAnswer
  split
  · split
    · simp
    · split
      · split
        · unfold resultOfItem
          dsimp only
          split <;> simp
        · simp
      · simp
  · simp

end

section
variable {env : BridgeEnv} {db : Database} {trace : List Entry} {attemptId eventId : Nat}
  {reply : Except PyException DeliverySenderResult} {w w' : World}

theorem Exchange.not_dead (h : Exchange env db trace attemptId eventId reply) :
    (recordedResult reply).outcome ≠ .dead := by
  cases h with
  | refused => simp [recordedResult]
  | @asked t sessionKey readerCode payload answer _ _ =>
      cases answer with
      | error exc => simp [replyOf, Except.map, recordedResult]
      | ok result =>
          simp only [replyOf, Except.map, recordedResult]
          rcases outcome_resultOfAnswer env.py (env.texts.uuid eventId) (.dict result) with
            h | h | h <;> simp [h]

/-- An outcome that is not RETRY was an answer. -/
theorem AnsweredWith.of_exchange {a : DeliveryAttempt} {P : Json → Prop}
    (h : Exchange env w.db w.trace a.id a.eventId reply)
    (decided : (recordedResult reply).outcome ≠ .retry)
    (means : ∀ answer, (resultOfAnswer env.py (env.texts.uuid a.eventId) answer).outcome =
      (recordedResult reply).outcome → P answer) : AnsweredWith env w a P := by
  cases h with
  | refused => exact absurd rfl decided
  | @asked t sessionKey readerCode payload answer once tells =>
      cases answer with
      | error exc => exact absurd rfl decided
      | ok result => exact ⟨t, sessionKey, readerCode, payload, result, once, tells, means _ rfl⟩

end

/-- What a step leaves of the causes: cancelled sessions, the sessions of events, attempts and
the history. -/
structure CausesStay (w w' : World) : Prop where
  rows : RowsStay w.db w'.db
  finished : ∀ s ∈ w.db.sessions.rows, s.status ≠ .active → s ∈ w'.db.sessions.rows
  attempts : ∀ eventId, (w.db.attemptsOf eventId).length ≤ (w'.db.attemptsOf eventId).length
  grows : w.trace <:+ w'.trace

section
variable {db db' : Database} {w w' : World} {eventId : Nat}

theorem Edit.length_attemptsOf {scope : EditScope} (edit : Edit scope db db') (eventId : Nat) :
    (db'.attemptsOf eventId).length = (db.attemptsOf eventId).length := by
  cases edit with
  | completeAttempt event attempt outcome target responseCode errorKind detail now next =>
      have moved := attemptsOf_update db attempt.id
        (closeAttempt outcome responseCode errorKind detail now next) (fun _ => rfl) eventId
        fun _ => rfl
      exact (congrArg List.length moved).trans (List.length_map _)
  | _ => rfl

theorem length_attemptsOf_run {sha : Sha256} {now : Timestamp} {op : StoreOp} {answer : op.Answer}
    (issued : op.Issued) (ran : op.run sha now db = .ok (answer, db')) (eventId : Nat) :
    (db.attemptsOf eventId).length ≤ (db'.attemptsOf eventId).length := by
  refine StoreOp.run_relation (T := fun db db' =>
    (db.attemptsOf eventId).length ≤ (db'.attemptsOf eventId).length) (fun _ => le_refl _)
    (fun first second => first.trans second) ?_ ?_ issued ran
  · exact fun edit => (edit.length_attemptsOf eventId).ge
  · intro db event now _ _
    rw [openAttempt, attemptsOf_insertAttempt, List.length_append]
    exact Nat.le_add_right _ _

theorem finished_run {sha : Sha256} {now : Timestamp} {op : StoreOp} {answer : op.Answer}
    (issued : op.Issued) (ran : op.run sha now db = .ok (answer, db')) {s : RFIDSession}
    (finished : s.status ≠ .active) (member : s ∈ db.sessions.rows) : s ∈ db'.sessions.rows :=
  StoreOp.run_invariant (I := fun db => s ∈ db.sessions.rows)
    (fun edit member => edit.finished_stay member finished) (fun _ _ member => member) issued ran
    member

theorem CausesStay.of_step {env : BridgeEnv} {t : Thread} {op : BridgeOp}
    {answer : Except PyException op.Answer} (issued : ∀ o, op = .store o → o.Issued)
    (step : BridgeStep env t op w answer w') : CausesStay w w' := by
  have rows := RowsStay.of_step issued step
  have grows : w.trace <:+ w'.trace := step.frame.2 ▸ List.suffix_cons _ _
  cases op with
  | store o =>
      cases answer with
      | ok value =>
          obtain ⟨now, ran⟩ := step.committed
          exact ⟨rows, fun s hs finished => finished_run (issued o rfl) ran finished hs,
            length_attemptsOf_run (issued o rfl) ran, grows⟩
      | error exc =>
          have same := step.rolledBack.1
          exact ⟨rows, fun s hs _ => same ▸ hs, fun _ => by rw [same], grows⟩
  | _ =>
      have same : w'.db = w.db := step.frame.1.db (by rintro ⟨⟩)
      exact ⟨rows, fun s hs _ => same ▸ hs, fun _ => by rw [same], grows⟩

theorem Cause.mono (stay : CausesStay w w') (h : Cause w eventId) : Cause w' eventId := by
  rcases h with ⟨e, he, rfl, s, found, cancelled⟩ | ⟨t, readerCode, limit, ids, asked, listed, used⟩
  · obtain ⟨hs, assigned⟩ := sessionOf_eq_some.mp found
    obtain ⟨e', he', same⟩ := stay.rows.events e he (by simp [assigned])
    have there := stay.finished s hs (by simp [cancelled])
    rw [SameEvents.eq_of_unplaced same] at he'
    exact .inl ⟨_, he', rfl, s, sessionOf_eq_some.mpr ⟨there, assigned⟩, cancelled⟩
  · refine .inr ⟨t, readerCode, limit, ids, stay.grows.mem asked, listed, ?_⟩
    have more := stay.attempts eventId
    omega

end

/-- The steps that runs take, within the law of the attempts. -/
def answeredExec (env : BridgeEnv) : Pool.Exec Thread BridgeOp BridgeOp.Answer PyException World :=
  fun t op w answer w' => BridgeStep env t op w answer w' ∧ AnswerLaw env t op w

/-- An event may be given up for a cause only. -/
def CauseLaw (_ : Thread) : BridgeOp → World → Prop
  | .store (.transitionEventQueueState eventId ..), w => Cause w eventId
  | _, _ => True

/-- Whoever is DEAD was so before, or has a cause; and so have the selected events. -/
def DeadForCause (before : Table RawRFIDEvent) (selected : List (Nat × WaitingState))
    (w : World) : Prop :=
  (∀ e ∈ w.db.events.rows, e.queueState = .dead →
    (∃ e₀ ∈ before.rows, e₀.id = e.id ∧ e₀.queueState = .dead) ∨ Cause w e.id) ∧
  ∀ x ∈ selected, Cause w x.1

section
variable {env : BridgeEnv} {before : Table RawRFIDEvent} {t : Thread} {op : BridgeOp} {w w' : World}
  {answer : Except PyException op.Answer} {selected : List (Nat × WaitingState)}

/-- Where a DEAD row comes from. -/
theorem dead_origin (lawful : AnswerLaw env t op w) (law : CauseLaw t op w)
    (step : BridgeStep env t op w answer w') {e : RawRFIDEvent} (member : e ∈ w'.db.events.rows)
    (dead : e.queueState = .dead) :
    (∃ e₀ ∈ w.db.events.rows, e₀.id = e.id ∧ e₀.queueState = .dead) ∨ Cause w e.id := by
  cases op with
  | store o =>
      cases answer with
      | error exc => exact .inl ⟨e, step.rolledBack.1 ▸ member, rfl, dead⟩
      | ok value =>
          obtain ⟨now, ran⟩ := step.committed
          cases o with
          | transitionEventQueueState eventId expected target =>
              simp only [StoreOp.run, RfidBridge.transitionEventQueueState, bind_eq_ok, guard_eq_ok,
                Except.ok.injEq, Prod.mk.injEq] at ran
              obtain ⟨-, -, -, -, -, -, moved⟩ := ran
              rw [← moved] at member
              rcases (mem_setQueueState w.db eventId target e).mp member with
                ⟨old, -⟩ | ⟨e₀, -, rfl, rfl⟩
              · exact .inl ⟨e, old, rfl, dead⟩
              · exact .inr law
          | completeDeliveryAttempt =>
              obtain ⟨-, reply, exchange, result⟩ := lawful
              refine .inl (NoDeaths.of_run ?_ ?_ ran e member dead)
              · simp
              · rintro _ _ _ _ _ _ _ _ ⟨⟩ rfl
                exact exchange.not_dead (congrArg DeliverySenderResult.outcome result)
          | _ => exact .inl (NoDeaths.of_run (by simp) (by simp) ran e member dead)
  | _ => exact .inl ⟨e, step.frame.1.db (by rintro ⟨⟩) ▸ member, rfl, dead⟩

theorem deadForCause_of_step (law : CauseLaw t op w) (step : answeredExec env t op w answer w')
    (h : DeadForCause before selected w) : DeadForCause before selected w' := by
  obtain ⟨step, lawful⟩ := step
  have stay : CausesStay w w' := .of_step (Faithful.issued_of_law lawful) step
  refine ⟨?_, fun x hx => (h.2 x hx).mono stay⟩
  intro e member dead
  obtain ⟨e₀, member₀, same, dead₀⟩ | cause := dead_origin lawful law step member dead
  · rw [← same]
    exact (h.1 e₀ member₀ dead₀).imp_right (Cause.mono stay)
  · exact .inr (cause.mono stay)

theorem causeDiscipline (t : Thread) (selected : List (Nat × WaitingState)) :
    Actor.Discipline (answeredExec env) CauseLaw t (DeadForCause before selected)
      fun _ _ => True where
  keeps _ _ _ _ _ law step h := deadForCause_of_step law step h
  others _ _ _ _ _ _ _ _ _ := trivial

/-- A worker that gives events up for a cause. -/
abbrev giver (env : BridgeEnv) (t : Thread) : Actor BridgeOp BridgeOp.Answer PyException World :=
  Actor.member (answeredExec env) CauseLaw t

/-- An assertion beside the dead and the selected events. -/
abbrev Buries (before : Table RawRFIDEvent) (selected : List (Nat × WaitingState)) : World → Prop :=
  Actor.Under (DeadForCause before selected) fun _ => True

theorem stable_buries : (giver env t).Stable (Buries before selected) :=
  (causeDiscipline t selected).stable fun _ _ _ => id

theorem Buries.forget (h : Buries before selected w) : Buries before [] w :=
  ⟨⟨h.1.1, by simp⟩, trivial⟩

/-- Whether an operation is no dead-letter transition. -/
def BridgeOp.spares : BridgeOp → Prop
  | .store (.transitionEventQueueState ..) => False
  | _ => True

theorem keeps_spares {α : Type} {p : Bridge α} (calls : p.Calls BridgeOp.spares) :
    (giver env t).Keeps (Buries before selected) p := by
  refine (causeDiscipline t selected).keeps_of_calls Actor.lasts_true ?_
    (fun _ _ _ _ _ _ _ => trivial) calls
  intro op w spares _
  cases op with
  | store o => cases o <;> first | exact spares.elim | trivial
  | _ => trivial

theorem spares_store {o : StoreOp} (may : (BridgeOp.store o).spares) :
    (RfidBridge.store o).Calls BridgeOp.spares :=
  Prog.calls_perform may

/-- A query tells the cause of every event that it lists. -/
theorem triple_selects (o : StoreOp) (chosen : o.Answer → List (Nat × WaitingState))
    (spares : (BridgeOp.store o).spares)
    (causes : ∀ w value w', BridgeStep env t (.store o) w (.ok value) w' →
      ∀ x ∈ chosen value, Cause w' x.1) :
    (giver env t).Triple (Buries before []) (RfidBridge.store o)
      (fun value => Buries before (chosen value)) (fun _ => Buries before []) := by
  intro w h
  refine Actor.Sat.perform_stable (P := Buries before []) stable_buries ?_ ?_ h
  · intro answer
    cases answer <;> exact stable_buries
  · intro w answer w' h step
    have law : CauseLaw t (.store o) w := by
      cases o <;> first | exact spares.elim | trivial
    have after := deadForCause_of_step law step h.1
    refine ⟨⟨_, answer, step, law⟩, ?_⟩
    cases answer with
    | error exc => exact ⟨after, trivial⟩
    | ok value => exact ⟨⟨after.1, causes w value w' step.1⟩, trivial⟩

theorem causes_selectCancelled {readerCode : String} {value : List (Nat × WaitingState)}
    (step : BridgeStep env t (.store (.selectCancelled readerCode)) w (.ok value) w')
    (x : Nat × WaitingState) (hx : x ∈ value) : Cause w' x.1 := by
  obtain ⟨now, ran⟩ := step.committed
  simp only [StoreOp.run, Except.ok.injEq, Prod.mk.injEq] at ran
  obtain ⟨rfl, same⟩ := ran
  obtain ⟨e, member, chosen⟩ := List.mem_filterMap.mp hx
  split at chosen
  · split at chosen
    · rename_i waiting cancelled
      simp only [Bool.and_eq_true, Option.any_eq_true, beq_iff_eq] at cancelled
      cases chosen
      exact .inl ⟨e, same ▸ member, rfl, by rw [← same]; exact cancelled.2⟩
    · cases chosen
  · cases chosen

theorem causes_selectExhausted {readerCode : String} {limit : Int} {value : List Nat}
    (step : BridgeStep env t (.store (.selectExhausted readerCode limit)) w (.ok value) w')
    (eventId : Nat) (listed : eventId ∈ value) : Cause w' eventId := by
  refine .inr ⟨t, readerCode, limit, value, ?_, listed, ?_⟩
  · rw [step.frame.2]
    exact List.mem_cons_self ..
  · obtain ⟨now, ran⟩ := step.committed
    simp only [StoreOp.run, Except.ok.injEq, Prod.mk.injEq] at ran
    obtain ⟨rfl, same⟩ := ran
    obtain ⟨e, chosen, rfl⟩ := List.mem_map.mp listed
    obtain ⟨-, used⟩ := List.mem_filter.mp chosen
    simp only [Bool.and_eq_true, decide_eq_true_eq] at used
    rw [← same]
    exact used.2

theorem buries_selectCancelled (readerCode : String) :
    (giver env t).Triple (Buries before []) (RfidBridge.store (.selectCancelled readerCode))
      (Buries before) fun _ => Buries before [] :=
  triple_selects (.selectCancelled readerCode) id trivial
    fun _ _ _ step => causes_selectCancelled step

theorem buries_selectExhausted (readerCode : String) (limit : Int) :
    (giver env t).Triple (Buries before []) (RfidBridge.store (.selectExhausted readerCode limit))
      (fun eventIds => Buries before (inRetry eventIds)) fun _ => Buries before [] := by
  apply triple_selects (.selectExhausted readerCode limit) inRetry trivial
  intro w value w' step x hx
  obtain ⟨eventId, listed, rfl⟩ := List.mem_map.mp hx
  exact causes_selectExhausted step eventId listed

theorem buries_deadLetter (x : Nat × WaitingState) (member : x ∈ selected) :
    (giver env t).Keeps (Buries before selected)
      (RfidBridge.store (.transitionEventQueueState x.1 x.2.val .dead)) := by
  apply Actor.Triple.keeps
  refine (causeDiscipline t selected).triple_perform
    (.store (.transitionEventQueueState x.1 x.2.val .dead)) Actor.lasts_true
    (fun _ => Actor.lasts_true) (fun _ => stable_buries) ?_ (fun _ _ _ _ _ => trivial)
    fun _ _ _ _ _ after => ⟨after, trivial⟩
  exact fun w h => h.1.2 x member

theorem buries_selectCandidates (readerCode : String) (batchSize : Nat) :
    (giver env t).Triple (Buries before [])
      (RfidBridge.store (.selectCandidates readerCode batchSize)) (fun _ => Buries before [])
      fun _ => Buries before [] := by
  have spares : (BridgeOp.store (.selectCandidates readerCode batchSize)).spares := trivial
  exact (keeps_spares (spares_store spares)).triple

theorem buries_deliver (settings : DeliverySettings) (candidate : Candidate) :
    (giver env t).Keeps (Buries before [])
      (processDeliveryCandidate RfidBridge.store (sendsEvents env settings) settings candidate) :=
  keeps_spares (calls_processDeliveryCandidate (fun _ _ _ => spares_store trivial)
    (fun _ _ _ _ _ _ => spares_store trivial)
    (fun id c => calls_sendsEvents (fun _ _ _ _ => trivial) id c) candidate)

/-- A worker gives up what a dead-letter query has listed. -/
def burialContract (env : BridgeEnv) (before : Table RawRFIDEvent) (t : Thread)
    (settings : DeliverySettings) : DeliveryContract (giver env t) env settings where
  base := Buries before []
  doomed := Buries before
  chosen _ := Buries before []
  stable_base := stable_buries
  stable_doomed _ := stable_buries
  stable_chosen _ := stable_buries
  base_of_doomed _ _ := Buries.forget
  base_of_chosen _ _ := id
  selectCancelled := buries_selectCancelled _
  selectExhausted := buries_selectExhausted _ _
  deadLetter _ x member := buries_deadLetter x member
  selectCandidates := buries_selectCandidates _ _
  deliver _ candidate _ := buries_deliver settings candidate

/-- The other threads bury nobody. -/
theorem spares_of_within {op : BridgeOp} (within : op.within t) (other : ∀ n, t ≠ .delivery n) :
    op.spares := by
  have captures : op.captures → op.spares := by
    intro captures
    cases op with
    | store o => cases o <;> first | exact captures.elim | trivial
    | _ => trivial
  cases t with
  | control =>
      cases op with
      | store o => cases o <;> trivial
      | _ => trivial
  | capture n => exact captures (captures_of_polls within)
  | delivery n => exact absurd rfl (other n)
  | reader =>
      cases within
      trivial

theorem keeps_body_buries (p : Bridge Unit) (body : BridgeBody env t p) :
    (giver env t).Keeps (Buries before []) p := by
  have calls := within_of_body t p body
  cases body with
  | capture n =>
      exact keeps_spares (calls.mono fun op within => spares_of_within within (by rintro _ ⟨⟩))
  | delivery n settings => exact (burialContract env before (.delivery n) settings).deliveryCycle
  | reader =>
      exact keeps_spares (calls.mono fun op within => spares_of_within within (by rintro _ ⟨⟩))

end

/-- An attempt that is neither open nor retried has decided about its event. -/
theorem Ledger.state_of_decided {state : QueueState} {attempts : List DeliveryAttempt}
    {a : DeliveryAttempt} (h : Ledger state attempts) (member : a ∈ attempts)
    (closed : a.outcome ≠ .started) (decided : a.outcome ≠ .retry) :
    outcomeToQueueState a.outcome = some state := by
  obtain ⟨-, retried, last⟩ := h.shape
  rcases List.eq_nil_or_concat attempts with rfl | ⟨front, b, rfl⟩
  · cases member
  rw [List.concat_eq_append] at retried last member
  rw [List.dropLast_concat] at retried
  rw [List.getLast?_concat] at last
  rcases List.mem_append.mp member with early | final
  · exact absurd (retried a early).1 decided
  rw [List.mem_singleton.mp final] at closed decided ⊢
  cases last with
  | inflight started => exact absurd started closed
  | retry again | exhausted again => exact absurd again.1 decided
  | ended target => exact target

/-- How an event has come to its final state. -/
inductive FinalCause (env : BridgeEnv) (w : World) (e : RawRFIDEvent) : Prop
  | sent {a : DeliveryAttempt} : e.queueState = .sent →
      (w.db.attemptsOf e.id).getLast? = some a →
      AnsweredWith env w a (FinalOdooEventSender.Accepts env.py (env.texts.uuid e.id)) →
      FinalCause env w e
  | rejected {a : DeliveryAttempt} : e.queueState = .rejected →
      (w.db.attemptsOf e.id).getLast? = some a →
      AnsweredWith env w a (Rejects env.py (env.texts.uuid e.id)) → FinalCause env w e
  | dead : e.queueState = .dead → Cause w e.id → FinalCause env w e

section
variable {env : BridgeEnv} {settings : CommandSettings} {c₀ c : BridgePool}

/-- The steps of a run are within the law of the attempts. -/
theorem answered_of_run (started : Started env settings c₀) (run : BridgeSteps env c₀ c) :
    Pool.Steps (answeredExec env) (BridgeBody env) c₀ c := by
  induction run with
  | refl => exact .refl
  | tail before step ih =>
      refine .tail ih ?_
      cases step with
      | @call t op next answer w' code ex =>
          have law : AnswerLaw env t op _ := Ownership.law_of_step (fun _ _ _ _ _ => id)
            (code ▸ sound_answers_of_run started before t) ex
          exact .call code ⟨ex, law⟩
      | begin code chosen => exact .begin code chosen

theorem deadForCause_of_run (started : Started env settings c₀) (run : BridgeSteps env c₀ c) :
    DeadForCause c₀.state.db.events [] c.state := by
  have init : Buries c₀.state.db.events [] c₀.state :=
    ⟨⟨fun e member dead => .inl ⟨e, member, rfl, dead⟩, by simp⟩, trivial⟩
  have sound : c₀.Sound (giver env) fun _ _ => Buries c₀.state.db.events [] := by
    intro t
    by_cases main : t = .control
    · subst main
      rw [started.control]
      have calls : (Command.handle env.py settings (some env.device)).Calls
          (BridgeOp.within .control) := controls_command.handle _ _
      refine keeps_spares (calls.mono fun op within => spares_of_within within ?_) _ init
      rintro _ ⟨⟩
    · rw [started.idle t main]
      exact Actor.keeps_ret stable_buries () _ init
  refine Pool.invariant_steps Actor.compatible_member
    (fun t p w body buries => keeps_body_buries p body w buries) ?_ (answered_of_run started run)
    sound init.1
  rintro t _ w _ w' - ⟨op, answer, step, law⟩ buries
  exact deadForCause_of_step law step buries

theorem storeLedger_of_run (started : Started env settings c₀) (run : BridgeSteps env c₀ c)
    (ledger : StoreLedger c₀.state.db) : StoreLedger c.state.db := by
  have steps := answered_of_run started run
  clear run
  induction steps with
  | refl => exact ledger
  | tail _ step ih =>
      cases step with
      | begin => exact ih
      | @call t op next answer w' code ex =>
          obtain ⟨step, lawful⟩ := ex
          cases op with
          | store o =>
              cases answer with
              | ok value =>
                  obtain ⟨now, ran⟩ := step.committed
                  exact ih.run (Faithful.issued_of_law lawful o rfl) ran
              | error exc => exact step.rolledBack.1 ▸ ih
          | _ => exact step.frame.1.db (by rintro ⟨⟩) ▸ ih

/-- The attempt that has decided about an event is of an earlier process, which has left the
event in its state, or Odoo has answered it so. -/
theorem decided_attempt {e : RawRFIDEvent} {a : DeliveryAttempt} {P : Json → Prop}
    (started : Started env settings c₀) (ledger : StoreLedger c₀.state.db)
    (run : BridgeSteps env c₀ c) (last : (c.state.db.attemptsOf e.id).getLast? = some a)
    (closed : a.outcome ≠ .started) (decided : a.outcome ≠ .retry)
    (state : outcomeToQueueState a.outcome = some e.queueState)
    (means : ∀ answer, (FinalOdooEventSender.resultOfAnswer env.py (env.texts.uuid e.id)
      answer).outcome = a.outcome → P answer) :
    (∃ e₀ ∈ c₀.state.db.events.rows, e₀.id = e.id ∧ e₀.queueState = e.queueState) ∨
      AnsweredWith env c.state a P := by
  have faithful := faithful_of_run started run
  obtain ⟨row, mine⟩ := mem_attemptsOf.mp (List.mem_of_getLast? last)
  by_cases earlier : a.id < c₀.state.db.attempts.nextKey
  · left
    have old := (faithful.earlier a earlier).mp row
    obtain ⟨e₀, member₀, owner⟩ := ledger.owned a old
    have listed : a ∈ c₀.state.db.attemptsOf e₀.id := mem_attemptsOf.mpr ⟨old, owner.symm⟩
    have before := (ledger.ledger e₀ member₀).state_of_decided listed closed decided
    exact ⟨e₀, member₀, owner.trans mine, Option.some.inj (before.symm.trans state)⟩
  · right
    obtain ⟨reply, exchange, open_ | result⟩ := faithful.recorded a row (Nat.not_lt.mp earlier)
    · exact absurd open_ closed
    · have outcome : (recordedResult reply).outcome = a.outcome :=
        (congrArg DeliverySenderResult.outcome result).symm
      refine .of_exchange exchange (outcome ▸ decided) ?_
      rw [mine, outcome]
      exact means

/-- In every run of the bridge, an event in a final state was in it before the start, or its
last attempt asked Odoo once, which has accepted or refused it, or it is DEAD because its
session is cancelled or a worker's limit has found its attempts used up. -/
theorem final_states_have_causes (started : Started env settings c₀)
    (ledger : StoreLedger c₀.state.db) (run : BridgeSteps env c₀ c) {e : RawRFIDEvent}
    (member : e ∈ c.state.db.events.rows) (final : e.queueState.Terminal) :
    (∃ e₀ ∈ c₀.state.db.events.rows, e₀.id = e.id ∧ e₀.queueState = e.queueState) ∨
      FinalCause env c.state e := by
  have now := eventLedger_of_ledger ((storeLedger_of_run started run ledger).ledger e member)
  rcases (QueueState.terminal_iff _).mp final with sent | rejected | dead
  · obtain ⟨a, last, outcome⟩ := now.sent sent
    have state : outcomeToQueueState a.outcome = some e.queueState := by rw [outcome, sent]; rfl
    refine (decided_attempt started ledger run last (by simp [outcome]) (by simp [outcome]) state
      ?_).imp_right (FinalCause.sent sent last)
    rw [outcome]
    exact fun answer => FinalOdooEventSender.accepts_of_sent
  · obtain ⟨a, last, outcome⟩ := now.rejected rejected
    have state : outcomeToQueueState a.outcome = some e.queueState := by rw [outcome, rejected]; rfl
    refine (decided_attempt started ledger run last (by simp [outcome]) (by simp [outcome]) state
      ?_).imp_right (FinalCause.rejected rejected last)
    rw [outcome]
    exact fun answer => rejects_of_rejected
  · rw [dead]
    exact ((deadForCause_of_run started run).1 e member dead).imp_right (FinalCause.dead dead)

end

open Installation in
/-- A tag is stored and handed to Odoo, and its event is SENT. -/
theorem final_states_have_causes_sent : ∃ c, BridgeSteps env pool c ∧
    ∃ e ∈ c.state.db.events.rows, e.queueState = .sent ∧
      ((∃ e₀ ∈ pool.state.db.events.rows, e₀.id = e.id ∧ e₀.queueState = e.queueState) ∨
        FinalCause env c.state e) := by
  have seen : (runSchedule env deliverySettings session
      [(.control, 3), (.reader, 2), (.control, 20), (.reader, 2), (.control, 20), (.capture 0, 16),
        (.delivery 0, 7)] pool).map
        (fun c => c.state.db.events.rows.map RawRFIDEvent.queueState) = some [.sent] := by
    decide +kernel
  obtain ⟨c, ran, same⟩ := Option.map_eq_some_iff.mp seen
  have run : BridgeSteps env pool c := bridgeSteps_of_runSchedule ran
  have listed : QueueState.sent ∈ c.state.db.events.rows.map RawRFIDEvent.queueState := by
    simp [same]
  obtain ⟨e, member, sent⟩ := List.mem_map.mp listed
  have ledger : StoreLedger pool.state.db := .of_fresh rfl (by simp [pool, world])
  refine ⟨c, run, e, member, sent, final_states_have_causes started_pool ledger run member ?_⟩
  rw [sent]
  decide

end RfidBridge
