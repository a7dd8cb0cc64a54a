import RfidBridge.Worker.ThreadCalls

/-!
What has to be shown of the queries, the dead-letter transitions and the single deliveries of
a worker so that a whole cycle leads from one assertion back to it. The worker knows something
of the events that a query has listed; the cycle is gone through here, once.
-/

namespace RfidBridge

/-- The send_event of a worker. -/
abbrev sendsEvents (env : BridgeEnv) (settings : DeliverySettings) (attemptId : Nat)
    (candidate : Candidate) : Bridge DeliverySenderResult :=
  FinalOdooEventSender.sendEvent env.py env.texts (eventsCall attemptId)
    (strip settings.readerCode) candidate

/-- Its only operation is the request. -/
theorem calls_sendsEvents {allowed : BridgeOp → Prop} {env : BridgeEnv}
    {settings : DeliverySettings}
    (asks : ∀ attemptId sessionKey readerCode payload,
      allowed (.events attemptId sessionKey readerCode payload))
    (attemptId : Nat) (candidate : Candidate) :
    (sendsEvents env settings attemptId candidate).Calls allowed := by
  have refuses : ∀ exc, (.raise exc : Bridge DeliverySenderResult).Calls allowed :=
    fun exc => Prog.calls_raise _ exc
  unfold sendsEvents FinalOdooEventSender.sendEvent
  split
  · exact refuses _
  split
  · exact refuses _
  split
  · exact refuses _
  split
  · exact refuses _
  split
  · exact refuses _
  split
  · exact refuses _
  split
  · exact refuses _
  split
  · exact refuses _
  apply calls_tryElse
  · exact Prog.calls_bind (Prog.calls_perform (asks _ _ _ _)) fun _ => Prog.calls_pure _ _
  · intro exc
    split
    · exact Prog.calls_pure _ _
    · exact refuses _
  · exact fun _ => Prog.calls_pure _ _

theorem retry_waits : QueueState.retry = .queued ∨ QueueState.retry = .retry := Or.inr rfl

/-- Exhausted events, with the state that they are given up from. -/
abbrev inRetry (eventIds : List Nat) : List (Nat × WaitingState) :=
  eventIds.map fun eventId => (eventId, ⟨.retry, retry_waits⟩)

structure DeliveryContract (a : Actor BridgeOp BridgeOp.Answer PyException World) (env : BridgeEnv)
    (settings : DeliverySettings) where
  /-- Between the parts of the cycle. -/
  base : World → Prop
  /-- A dead-letter query has listed these events. -/
  doomed : List (Nat × WaitingState) → World → Prop
  /-- These candidates are selected. -/
  chosen : List Candidate → World → Prop
  stable_base : a.Stable base
  stable_doomed : ∀ listed, a.Stable (doomed listed)
  stable_chosen : ∀ candidates, a.Stable (chosen candidates)
  base_of_doomed : ∀ listed w, doomed listed w → base w
  base_of_chosen : ∀ candidates w, chosen candidates w → base w
  selectCancelled : a.Triple base (store (.selectCancelled (strip settings.readerCode))) doomed
    fun _ => base
  selectExhausted : a.Triple base
    (store (.selectExhausted (strip settings.readerCode) settings.maxDeliveryAttempts))
    (fun eventIds => doomed (inRetry eventIds)) fun _ => base
  deadLetter : ∀ listed, ∀ x ∈ listed,
    a.Keeps (doomed listed) (store (.transitionEventQueueState x.1 x.2.val .dead))
  selectCandidates : a.Triple base
    (store (.selectCandidates (strip settings.readerCode) settings.batchSize.toNat)) chosen
    fun _ => base
  deliver : ∀ candidates, ∀ candidate ∈ candidates, a.Keeps (chosen candidates)
    (processDeliveryCandidate store (sendsEvents env settings) settings candidate)

namespace DeliveryContract
variable {a : Actor BridgeOp BridgeOp.Answer PyException World} {env : BridgeEnv}
  {settings : DeliverySettings} {α : Type} (C : DeliveryContract a env settings)

/-- A part that calls nothing. -/
theorem keeps_silent {p : Bridge α} (calls : p.Calls fun _ => False) : a.Keeps C.base p :=
  Actor.keeps_of_calls C.stable_base (fun _ _ _ _ none => none.elim) calls

/-- What follows the check of the reader code runs with the stripped code. -/
theorem keeps_withReaderCode {f : String → Bridge α}
    (h : a.Keeps C.base (f (strip settings.readerCode))) :
    a.Keeps C.base ((RfidBridge.requireReaderCode settings.readerCode).bind f) := by
  unfold RfidBridge.requireReaderCode
  split
  · exact Actor.keeps_raise C.stable_base _
  · exact h

theorem deadLetterEach (listed : List (Nat × WaitingState)) :
    a.Keeps (C.doomed listed) (RfidBridge.deadLetterEach store listed) := by
  have stable := C.stable_doomed listed
  apply Actor.keeps_bind stable
  · apply Actor.keeps_forEach stable
    intro x member
    apply Actor.keeps_handle
    · apply Actor.keeps_bind stable (C.deadLetter listed x member)
      exact fun _ => Actor.keeps_ret stable _
    · intro outcome
      cases outcome with
      | ok _ => exact Actor.keeps_ret stable _
      | error exc =>
          dsimp only
          split
          · exact Actor.keeps_ret stable _
          · exact Actor.keeps_raise stable _
  · exact fun _ => Actor.keeps_ret stable _

/-- A dead-letter pass: a query, then a transition for each event that it lists. -/
theorem keeps_pass {select : Bridge α} (listed : α → List (Nat × WaitingState))
    (selects : a.Triple C.base select (fun value => C.doomed (listed value)) fun _ => C.base) :
    a.Keeps C.base (select.bind fun value => RfidBridge.deadLetterEach store (listed value)) := by
  apply Actor.Triple.keeps
  apply Actor.Triple.seq (fun _ => C.stable_base) selects
  exact fun value => (C.deadLetterEach (listed value)).triple.conseq (fun _ => id)
    (fun _ => C.base_of_doomed _) fun _ => C.base_of_doomed _

theorem deliverCandidate {candidates : List Candidate} {candidate : Candidate}
    (member : candidate ∈ candidates) : a.Keeps (C.chosen candidates)
      (RfidBridge.deliverCandidate store (sendsEvents env settings) settings candidate) := by
  have stable := C.stable_chosen candidates
  apply Actor.keeps_handle
  · apply Actor.keeps_bind stable (C.deliver candidates candidate member)
    exact fun _ => Actor.keeps_ret stable _
  · intro outcome
    cases outcome with
    | ok _ => exact Actor.keeps_ret stable _
    | error exc =>
        dsimp only
        split
        · exact Actor.keeps_ret stable _
        · exact Actor.keeps_raise stable _

theorem selectFinalDeliveryCandidates : a.Triple C.base
    (RfidBridge.selectFinalDeliveryCandidates store settings.readerCode settings.batchSize)
    C.chosen fun _ => C.base := by
  have stable : ∀ {Q : List Candidate → World → Prop} (exc : PyException),
      a.Triple C.base (.raise exc) Q fun _ => C.base :=
    fun exc => Actor.triple_raise C.stable_base fun _ => id
  unfold RfidBridge.selectFinalDeliveryCandidates RfidBridge.requireReaderCode
  split
  · exact stable _
  · split
    · exact stable _
    · exact C.selectCandidates

/-- One cycle of the worker. -/
theorem deliveryCycle : a.Keeps C.base (RfidBridge.deliveryCycle env settings) := by
  have limit : a.Keeps C.base
      (requireMaxDeliveryAttempts settings.maxDeliveryAttempts : Bridge Unit) :=
    C.keeps_silent (calls_requireMaxDeliveryAttempts _)
  refine Actor.keeps_handle ?_ fun _ => Actor.keeps_ret C.stable_base _
  apply Actor.keeps_bind C.stable_base limit
  intro _
  apply Actor.keeps_bind C.stable_base
  · exact C.keeps_withReaderCode (C.keeps_pass id C.selectCancelled)
  intro _
  apply Actor.keeps_bind C.stable_base
  · apply Actor.keeps_bind C.stable_base limit
    exact fun _ => C.keeps_withReaderCode (C.keeps_pass _ C.selectExhausted)
  intro exhausted
  apply Actor.Triple.keeps
  apply Actor.Triple.seq (fun _ => C.stable_base) C.selectFinalDeliveryCandidates
  intro candidates
  have stable := C.stable_chosen candidates
  have loop : a.Keeps (C.chosen candidates) (Prog.forEach candidates
      (RfidBridge.deliverCandidate store (sendsEvents env settings) settings)) :=
    Actor.keeps_forEach stable fun candidate member => C.deliverCandidate member
  refine (Actor.keeps_bind stable loop fun outcomes => Actor.keeps_ret stable _).triple.conseq
    (fun _ => id) (fun _ => C.base_of_chosen _) fun _ => C.base_of_chosen _

end DeliveryContract
end RfidBridge
