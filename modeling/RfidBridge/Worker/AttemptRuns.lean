import RfidBridge.Worker.AttemptAnswers
import RfidBridge.Worker.DeliveryContract
import RfidBridge.Worker.Ownership

/-!
The delivery workers keep to the law of the attempts, and so does everybody else. In every run
of the bridge the rows of the attempts agree with the requests that Odoo was sent and with
what it answered.
-/

namespace RfidBridge
open Database

/-- The account of the attempts, beside candidates that a worker has selected. -/
def Informed (env : BridgeEnv) (before : Table DeliveryAttempt) (candidates : List Candidate)
    (w : World) : Prop :=
  Faithful env before w ∧ ∀ c ∈ candidates, Held c w.db

section
variable {env : BridgeEnv} {before : Table DeliveryAttempt} {t : Thread}
  {candidates : List Candidate} {c : Candidate} {attemptId : Nat} {w w' : World}

/-- A worker under the law of the attempts. -/
abbrev answerer (env : BridgeEnv) (t : Thread) : Actor BridgeOp BridgeOp.Answer PyException World :=
  Actor.member (bridgeExec env) (AnswerLaw env) t

theorem informed_of_step {op : BridgeOp} {answer : Except PyException op.Answer}
    (law : AnswerLaw env t op w) (step : BridgeStep env t op w answer w')
    (h : Informed env before candidates w) : Informed env before candidates w' :=
  ⟨h.1.of_step law step,
    fun c hc => (h.2 c hc).mono (.of_step (Faithful.issued_of_law law) step)⟩

theorem informedDiscipline (t : Thread) (candidates : List Candidate) :
    Actor.Discipline (bridgeExec env) (AnswerLaw env) t (Informed env before candidates)
      (Beside t) where
  keeps _ _ _ _ _ law step h := informed_of_step law step h
  others _ _ _ _ _ other law step h := h.1.beside_of_others other law step

/-- An assertion of a worker that has selected these candidates. -/
abbrev Knows (env : BridgeEnv) (before : Table DeliveryAttempt) (candidates : List Candidate)
    (P : World → Prop) : World → Prop :=
  Actor.Under (Informed env before candidates) P

theorem stable_knows {P : World → Prop} (lasts : Actor.Lasts (Beside t) P) :
    (answerer env t).Stable (Knows env before candidates P) :=
  (informedDiscipline t candidates).stable lasts

/-- An attempt that has not asked asks once. -/
theorem answered_of_request {eventId : Nat} {sessionKey readerCode : String}
    {payload : EventPayload} {answer : Except PyException ApiResult}
    (awaiting : Awaiting t attemptId eventId w)
    (tells : Tells env w.db eventId sessionKey readerCode payload)
    (step : BridgeStep env t (.events attemptId sessionKey readerCode payload) w answer w') :
    Answered env t attemptId eventId (replyOf env eventId answer) w' := by
  obtain ⟨mine, unasked, -⟩ := awaiting
  have trace := step.frame.2
  have once : requestsOf attemptId w'.trace =
      [⟨t, .events attemptId sessionKey readerCode payload, answer⟩] := by
    rw [trace, ← unasked]
    exact List.filter_cons_of_pos (by simp [BridgeOp.serves])
  have db : w'.db = w.db := step.frame.1.db (by rintro ⟨⟩)
  exact ⟨mine.mono (trace ▸ List.suffix_cons _ _), _, .asked once (db ▸ tells), rfl⟩

/-- What send_event asks is what the tables say. -/
theorem tells_of_held {device : ReaderDevice} {session : RFIDSession} {db : Database}
    (held : Held c db) (found : c.device = some device) (loaded : c.session = some session)
    (final : isFinalEvent c.event = true) (mine : session.deviceId = c.event.deviceId)
    (named : strip session.externalSessionKey ≠ "")
    (visible : env.py.upper (strip c.event.epc) ≠ "") :
    Tells env db c.event.id (strip session.externalSessionKey) device.code {
      eventUuid := env.texts.uuid c.event.id
      epc := env.py.upper (strip c.event.epc)
      seenAt := env.texts.isoformat c.event.receivedAt } := by
  obtain ⟨e, he, same⟩ := held.event
  obtain ⟨assigned, s, hs, id, owner, key⟩ := held.session session loaded
  rw [SameEvents.eq_of_unplaced same] at he
  refine ⟨_, he, s, hs, device, rfl, final, ?_, ?_, ?_, ?_, named, rfl, visible, rfl⟩
  · exact assigned.trans (congrArg some id.symm)
  · exact owner.trans mine
  · exact held.device.symm.trans found
  · rw [key]

section
variable (known : c ∈ candidates)
include known

theorem triple_eventsCall {sessionKey readerCode : String} {payload : EventPayload}
    (tells : ∀ db, Held c db → Tells env db c.event.id sessionKey readerCode payload) :
    (answerer env t).Triple (Knows env before candidates (Awaiting t attemptId c.event.id))
      (eventsCall attemptId sessionKey readerCode payload)
      (fun answer => Knows env before candidates (Answered env t attemptId c.event.id
        (.ok (FinalOdooEventSender.resultOfAnswer env.py (env.texts.uuid c.event.id) answer))))
      (fun exc => Knows env before candidates
        (Answered env t attemptId c.event.id (.error exc))) := by
  have fails : ∀ exc, (answerer env t).Stable (Knows env before candidates
      (Answered env t attemptId c.event.id (.error exc))) := fun exc =>
    stable_knows (lasts_answered _)
  apply Actor.Triple.seq fails (Q := fun result => Knows env before candidates
    (Answered env t attemptId c.event.id (replyOf env c.event.id (.ok result))))
  · apply (informedDiscipline t candidates).triple_perform
      (.events attemptId sessionKey readerCode payload) lasts_awaiting
      (fun _ => lasts_answered _) fails
    · rintro w ⟨informed, awaiting⟩
      exact ⟨_, awaiting.1, awaiting.2.1, awaiting.2.2, tells _ (informed.2 c known)⟩
    · rintro w result w' ⟨informed, awaiting⟩ step
      exact answered_of_request awaiting (tells _ (informed.2 c known)) step
    · rintro w exc w' ⟨informed, awaiting⟩ step after
      exact ⟨after, answered_of_request awaiting (tells _ (informed.2 c known)) step⟩
  · exact fun result => Actor.triple_ret (stable_knows (lasts_answered _)) fun _ => id

/-- However the sender ends, it has asked at most once, and it ends as it was answered. -/
theorem triple_sendEvent (readerCode : String) :
    (answerer env t).Triple (Knows env before candidates (Awaiting t attemptId c.event.id))
      (FinalOdooEventSender.sendEvent env.py env.texts (eventsCall attemptId) readerCode c)
      (fun result => Knows env before candidates
        (Answered env t attemptId c.event.id (.ok result)))
      (fun exc => Knows env before candidates
        (Answered env t attemptId c.event.id (.error exc))) := by
  have refuses : ∀ exc : PyException, (answerer env t).Triple
      (Knows env before candidates (Awaiting t attemptId c.event.id))
      (.raise exc : Bridge DeliverySenderResult)
      (fun result => Knows env before candidates
        (Answered env t attemptId c.event.id (.ok result)))
      (fun exc => Knows env before candidates
        (Answered env t attemptId c.event.id (.error exc))) :=
    fun exc => Actor.triple_raise (stable_knows lasts_awaiting)
      fun _ h => ⟨h.1, answered_of_refusal h.2⟩
  have stable : ∀ outcome, (answerer env t).Stable (Knows env before candidates
      (Answered env t attemptId c.event.id outcome)) :=
    fun outcome => stable_knows (lasts_answered outcome)
  unfold FinalOdooEventSender.sendEvent
  split
  · exact refuses _
  rename_i device found
  split
  · exact refuses _
  rename_i mine
  split
  · exact refuses _
  rename_i final
  split
  · exact refuses _
  split
  · exact refuses _
  rename_i session loaded
  split
  · exact refuses _
  rename_i owner
  split
  · exact refuses _
  rename_i named
  split
  · exact refuses _
  rename_i visible
  have tells : ∀ db, Held c db → Tells env db c.event.id (strip session.externalSessionKey)
      readerCode {
        eventUuid := env.texts.uuid c.event.id
        epc := env.py.upper (strip c.event.epc)
        seenAt := env.texts.isoformat c.event.receivedAt } := by
    intro db held
    rw [← not_not.mp mine]
    exact tells_of_held held found loaded (by simpa using final) (not_not.mp owner) named visible
  apply triple_tryElse (triple_eventsCall known tells)
  · intro exc _
    split
    · exact Actor.triple_ret (stable _) fun _ h => ⟨h.1, h.2.caught⟩
    · exact Actor.triple_raise (stable _) fun _ => id
  · exact fun exc _ => Actor.triple_raise (stable _) fun _ => id
  · exact fun answer => Actor.triple_ret (stable _) fun _ => id

/-- One attempt from its start to its completion. -/
theorem triple_processDeliveryCandidate (settings : DeliverySettings) (readerCode : String) :
    (answerer env t).Triple (Knows env before candidates fun _ => True)
      (processDeliveryCandidate RfidBridge.store (fun attemptId candidate =>
        FinalOdooEventSender.sendEvent env.py env.texts (eventsCall attemptId) readerCode
          candidate) settings c)
      (fun _ => Knows env before candidates fun _ => True)
      (fun _ => Knows env before candidates fun _ => True) := by
  have quiet : (answerer env t).Stable (Knows env before candidates fun _ => True) :=
    stable_knows Actor.lasts_true
  have stable : ∀ attemptId outcome, (answerer env t).Stable (Knows env before candidates
      (Answered env t attemptId c.event.id outcome)) :=
    fun _ outcome => stable_knows (lasts_answered outcome)
  apply Actor.Triple.seq (fun _ => quiet) (Q := fun (started : DeliveryAttemptStartResult) =>
    Knows env before candidates (Awaiting t started.attemptId c.event.id))
  · apply (informedDiscipline t candidates).triple_perform
      (.store (.startDeliveryAttempt c.event.id c.event.queueState settings.maxDeliveryAttempts))
      Actor.lasts_true (fun _ => lasts_awaiting) (fun _ => quiet)
    · exact fun _ _ => trivial
    · rintro w started w' ⟨informed, -⟩ step
      have trace := step.frame.2
      obtain ⟨now, ran⟩ := step.committed
      obtain ⟨-, -, number, -, opened⟩ := startDeliveryAttempt_eq_ok ran
      refine ⟨?_, ?_, openedAttempt w.db c.event.id now, ?_, number.symm, rfl⟩
      · rw [trace]
        exact opened_cons.mpr (.inl ⟨rfl, rfl⟩)
      · rw [trace, requestsOf_cons_of_not rfl, number]
        exact informed.1.fresh
      · rw [opened]
        exact (mem_insertAttempt _ _ _ _ _).mpr (.inr rfl)
    · exact fun _ _ _ _ _ after => ⟨after, trivial⟩
  intro started
  apply Actor.Triple.seq (fun _ => quiet) (Q := fun (sent : DeliverySenderResult) =>
    Knows env before candidates (Answered env t started.attemptId c.event.id (.ok sent)))
  · apply Actor.Triple.handle (triple_sendEvent known readerCode)
    · exact fun sent => Actor.triple_ret (stable _ _) fun _ => id
    · intro exc
      dsimp only
      split
      · exact Actor.triple_ret (stable _ _) fun _ h => ⟨h.1, h.2.caught⟩
      · exact Actor.triple_raise (stable _ _) fun _ h => h.weaken
  intro sent
  apply Actor.Triple.seq (fun _ => quiet) (Q := fun _ => Knows env before candidates fun _ => True)
  · apply (informedDiscipline t candidates).triple_perform
      (.store (.completeDeliveryAttempt c.event.id started.attemptId sent.outcome
        sent.responseCode sent.errorKind sent.detail (some settings.retryInitialSeconds)
        (some settings.retryMaxSeconds)))
      (lasts_answered _) (fun _ => Actor.lasts_true) (fun _ => quiet)
    · exact fun w h => h.2
    · exact fun _ _ _ _ _ => trivial
    · exact fun _ _ _ _ _ after => ⟨after, trivial⟩
  · exact fun completed => Actor.triple_ret quiet fun _ => id

end

/-- A step of a dead-letter pass. -/
theorem keeps_pass_informed (o : StoreOp) (issued : o.Issued) (routine : o.isRoutine = true) :
    (answerer env t).Keeps (Knows env before [] fun _ => True) (RfidBridge.store o) := by
  have law : ∀ w, AnswerLaw env t (.store o) w := by
    intro w
    cases o <;> first | exact issued | cases routine
  have calls : (RfidBridge.store o).Calls fun op => op = .store o := Prog.calls_perform rfl
  refine (informedDiscipline t []).keeps_of_calls Actor.lasts_true ?_
    (fun _ _ _ _ _ _ _ => trivial) calls
  rintro _ w rfl _
  exact law w

/-- The candidates are known from their selection on. -/
theorem triple_selectCandidates (readerCode : String) (batchSize : Nat) :
    (answerer env t).Triple (Knows env before [] fun _ => True)
      (RfidBridge.store (.selectCandidates readerCode batchSize))
      (fun selected => Knows env before selected fun _ => True)
      (fun _ => Knows env before [] fun _ => True) := by
  have quiet : ∀ candidates,
      (answerer env t).Stable (Knows env before candidates fun _ => True) :=
    fun _ => stable_knows Actor.lasts_true
  intro w h
  refine Actor.Sat.perform_stable (P := Knows env before [] fun _ => True) (quiet []) ?_ ?_ h
  · intro answer
    cases answer <;> exact quiet _
  · intro w answer w' h step
    have law : AnswerLaw env t (.store (.selectCandidates readerCode batchSize)) w := trivial
    have after := informed_of_step law step h.1
    refine ⟨⟨_, answer, step, law⟩, ?_⟩
    cases answer with
    | error exc => exact ⟨after, trivial⟩
    | ok selected =>
        obtain ⟨now, ran⟩ := step.committed
        obtain ⟨rfl, same⟩ := run_selectCandidates ran
        refine ⟨⟨after.1, fun c hc => ?_⟩, trivial⟩
        rw [same]
        exact held_of_selected hc

/-- A delivery worker keeps to the law, whoever else is at work. -/
def answersContract (env : BridgeEnv) (before : Table DeliveryAttempt) (t : Thread)
    (settings : DeliverySettings) : DeliveryContract (answerer env t) env settings where
  base := Knows env before [] fun _ => True
  doomed _ := Knows env before [] fun _ => True
  chosen candidates := Knows env before candidates fun _ => True
  stable_base := stable_knows Actor.lasts_true
  stable_doomed _ := stable_knows Actor.lasts_true
  stable_chosen _ := stable_knows Actor.lasts_true
  base_of_doomed _ _ := id
  base_of_chosen _ _ h := ⟨⟨h.1.1, by simp⟩, trivial⟩
  selectCancelled := (keeps_pass_informed (.selectCancelled _) trivial rfl).triple
  selectExhausted := (keeps_pass_informed (.selectExhausted _ _) trivial rfl).triple
  deadLetter _ x _ := keeps_pass_informed _ ⟨x.2.property, rfl⟩ rfl
  selectCandidates := triple_selectCandidates _ _
  deliver _ _ known := (triple_processDeliveryCandidate known settings _).keeps

end

section
variable {env : BridgeEnv} {settings : CommandSettings} {c₀ c : BridgePool}
  {before : Table DeliveryAttempt} {t : Thread}

/-- The other threads are within the law at any time. -/
theorem law_of_within {op : BridgeOp} (within : op.within t) (other : ∀ n, t ≠ .delivery n)
    (w : World) : AnswerLaw env t op w := by
  have captures : ∀ {t}, op.captures → AnswerLaw env t op w := by
    intro t captures
    cases op with
    | events _ _ _ _ => exact captures.elim
    | store o => cases o <;> first | exact captures.elim | trivial
    | _ => trivial
  cases t with
  | control =>
      cases op with
      | events _ _ _ _ => exact within.elim
      | store o => cases o <;> trivial
      | _ => trivial
  | capture n => exact captures (captures_of_polls within)
  | delivery n => exact absurd rfl (other n)
  | reader =>
      cases within
      trivial

/-- Every thread keeps to the law, from an account that is right. -/
theorem keeps_of_within {p : Bridge Unit} (calls : p.Calls (BridgeOp.within t))
    (other : ∀ n, t ≠ .delivery n) :
    (answerer env t).Keeps (Knows env before [] fun _ => True) p :=
  (informedDiscipline t []).keeps_of_calls Actor.lasts_true
    (fun _ w within _ => law_of_within within other w) (fun _ _ _ _ _ _ _ => trivial) calls

theorem keeps_body (p : Bridge Unit) (body : BridgeBody env t p) :
    (answerer env t).Keeps (Knows env before [] fun _ => True) p := by
  have calls := within_of_body t p body
  cases body with
  | capture n => exact keeps_of_within calls (by rintro _ ⟨⟩)
  | delivery n settings => exact (answersContract env before _ settings).deliveryCycle
  | reader => exact keeps_of_within calls (by rintro _ ⟨⟩)

theorem faithful_of_started (started : Started env settings c₀) :
    Faithful env c₀.state.db.attempts c₀.state := by
  have none : ∀ t attemptId eventId, ¬ OpenedBy t attemptId eventId c₀.state.trace := by
    rw [started.history]
    rintro t attemptId eventId ⟨entry, member, -⟩
    cases member
  constructor
  · exact Nat.le_refl _
  · exact fun _ _ => Iff.rfl
  · exact fun t attemptId eventId opened => absurd opened (none t attemptId eventId)
  · exact fun t _ attemptId eventId _ opened => absurd opened (none t attemptId eventId)
  · intro attemptId asked
    rw [started.history] at asked
    exact absurd rfl asked
  · intro a member later
    exact absurd (c₀.state.db.attempts.below a member) (Nat.not_lt.mpr later)

theorem sound_answers_of_started (started : Started env settings c₀) :
    c₀.Sound (answerer env) fun _ _ => Knows env c₀.state.db.attempts [] fun _ => True := by
  have informed : Knows env c₀.state.db.attempts [] (fun _ => True) c₀.state :=
    ⟨⟨faithful_of_started started, by simp⟩, trivial⟩
  intro t
  by_cases main : t = .control
  · subst main
    rw [started.control]
    have calls : (Command.handle env.py settings (some env.device)).Calls
        (BridgeOp.within .control) := controls_command.handle _ _
    exact keeps_of_within calls (by rintro _ ⟨⟩) _ informed
  · rw [started.idle t main]
    exact Actor.keeps_ret (stable_knows Actor.lasts_true) () _ informed

theorem sound_answers_of_run (started : Started env settings c₀) (run : BridgeSteps env c₀ c) :
    c.Sound (answerer env) fun _ _ => Knows env c₀.state.db.attempts [] fun _ => True :=
  Pool.sound_steps Actor.compatible_member
    (fun _ p w body informed => keeps_body p body w informed) run (sound_answers_of_started started)

theorem faithful_of_run (started : Started env settings c₀) (run : BridgeSteps env c₀ c) :
    Faithful env c₀.state.db.attempts c.state := by
  refine Pool.invariant_steps Actor.compatible_member
    (fun t p w body informed => keeps_body p body w informed) ?_ run
    (sound_answers_of_started started) (faithful_of_started started)
  rintro t _ w _ w' - ⟨op, answer, step, law⟩ faithful
  exact faithful.of_step law step

/-- In every run of the bridge, the attempts of earlier processes stay as they were; each
later attempt has sent Odoo at most one request, which tells of the event as it is stored, and
once it is closed its row holds what the columns keep of what the sender makes of Odoo's
answer; and every request belongs to such an attempt. -/
theorem attempts_record_exchanges (started : Started env settings c₀)
    (run : BridgeSteps env c₀ c) :
    (∀ a : DeliveryAttempt, a.id < c₀.state.db.attempts.nextKey →
      (a ∈ c.state.db.attempts.rows ↔ a ∈ c₀.state.db.attempts.rows)) ∧
    (∀ a ∈ c.state.db.attempts.rows, c₀.state.db.attempts.nextKey ≤ a.id →
      ∃ reply, Exchange env c.state.db c.state.trace a.id a.eventId reply ∧
        (a.outcome = .started ∨ a.result = (recordedResult reply).kept)) ∧
    ∀ attemptId, requestsOf attemptId c.state.trace ≠ [] →
      c₀.state.db.attempts.nextKey ≤ attemptId ∧
        ∃ a ∈ c.state.db.attempts.rows, a.id = attemptId := by
  have faithful := faithful_of_run started run
  refine ⟨faithful.earlier, faithful.recorded, ?_⟩
  intro attemptId asked
  obtain ⟨t, eventId, opened⟩ := faithful.asked attemptId asked
  obtain ⟨later, a, member, same, -⟩ := faithful.opened t attemptId eventId opened
  exact ⟨later, a, member, same⟩

end

open Installation in
/-- A tag is stored and handed to Odoo: its only attempt is SENT, as Odoo answered. -/
theorem attempts_record_exchanges_sent : ∃ c, BridgeSteps env pool c ∧
    (c.state.db.attempts.rows.map fun a => (a.id, a.result)) =
      [(1, ⟨.sent, "accepted", "", "RFID event accepted by Odoo."⟩)] ∧
    ∀ a ∈ c.state.db.attempts.rows, ∃ reply,
      Exchange env c.state.db c.state.trace a.id a.eventId reply ∧
        (a.outcome = .started ∨ a.result = (recordedResult reply).kept) := by
  have seen : (runSchedule env deliverySettings session
      [(.control, 3), (.reader, 2), (.control, 20), (.reader, 2), (.control, 20), (.capture 0, 16),
        (.delivery 0, 7)] pool).map
        (fun c => c.state.db.attempts.rows.map fun a => (a.id, a.result)) =
      some [(1, ⟨.sent, "accepted", "", "RFID event accepted by Odoo."⟩)] := by
    decide +kernel
  obtain ⟨c, ran, same⟩ := Option.map_eq_some_iff.mp seen
  have run : BridgeSteps env pool c := bridgeSteps_of_runSchedule ran
  refine ⟨c, run, same, fun a member => ?_⟩
  have listed : (a.id, a.result) ∈ c.state.db.attempts.rows.map fun a => (a.id, a.result) :=
    List.mem_map_of_mem member
  rw [same, List.mem_singleton, Prod.mk.injEq] at listed
  exact (attempts_record_exchanges started_pool run).2.1 a member (Nat.le_of_eq listed.1.symm)

end RfidBridge
