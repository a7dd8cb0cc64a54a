import RfidBridge.Delivery.DeliveryCycle
import RfidBridge.Python.Json
import RfidBridge.Python.Statements

/-!
final_odoo_event_sender.py: one event is sent to Odoo, and Odoo's answer decides
the outcome of the attempt. Only an answer that names the event's own UUID once,
and accepts it, makes the attempt SENT.
-/

namespace RfidBridge

/-- One entry of the events request. -/
structure EventPayload where
  eventUuid : String
  epc : String
  seenAt : String
  rawReadCount : Nat := 1
  deriving DecidableEq, Repr

/-- How rows are printed into a request: a UUID and a time in ISO format. -/
structure RowTexts where
  uuid : Nat → String
  isoformat : Timestamp → String

namespace FinalOdooEventSender

def acceptedOutcomes : List String := ["accepted", "duplicate"]

/-- The entries of the results list that name the event. -/
def matching (py : Builtins) (eventUuid : String) (results : List Json) :
    List (List (String × Json)) :=
  results.filterMap fun
    | .dict item =>
        if Json.textOrEmpty py (Json.lookup item "event_uuid") == eventUuid then some item
        else none
    | _ => none

def outcomeText (py : Builtins) (item : List (String × Json)) : String :=
  py.lower (strip (Json.textOrEmpty py (Json.lookup item "outcome")))

/-- `item.get("error") or item.get("message") or f"Odoo event outcome: ..."`. -/
def rejectionDetail (py : Builtins) (item : List (String × Json)) (outcome : String) : String :=
  let fallback := "Odoo event outcome: " ++ if outcome = "" then "unknown" else outcome
  Json.textOr py (Json.textOr py fallback (Json.lookup item "message"))
    (Json.lookup item "error")

def resultOfItem (py : Builtins) (item : List (String × Json)) : DeliverySenderResult :=
  let outcome := outcomeText py item
  if outcome ∈ acceptedOutcomes then
    { outcome := .sent
      responseCode := outcome
      detail := if outcome = "accepted" then "RFID event accepted by Odoo."
        else "RFID event already existed in Odoo." }
  else
    { outcome := .rejected
      responseCode := outcome
      errorKind := "OdooEventRejected"
      detail := rejectionDetail py item outcome }

/-- What send_event makes of an answer that the API client returned. -/
def resultOfAnswer (py : Builtins) (eventUuid : String) : Json → DeliverySenderResult
  | .dict result =>
      if !(Json.lookup result "ok").any Json.truthy then
        { outcome := .retry
          errorKind := "OdooRejectedRequest"
          detail := Json.textOr py "Odoo rejected RFID event request."
            (Json.lookup result "error") }
      else
        match Json.lookup result "results" with
        | some (.list results) =>
            match matching py eventUuid results with
            | [item] => resultOfItem py item
            | _ =>
                { outcome := .retry
                  errorKind := "EventCorrelationError"
                  detail := "Odoo event response did not contain exactly " ++
                    "one matching event UUID." }
        | _ =>
            { outcome := .retry
              errorKind := "InvalidResponse"
              detail := "Odoo event response has no valid results list." }
  | _ =>
      { outcome := .retry
        errorKind := "InvalidResponse"
        detail := "Odoo event response is not an object." }

section
variable {ι : Type} {ρ : ι → Type} (py : Builtins) (texts : RowTexts)
  (events : String → String → EventPayload → Program ι ρ Json)

/-- send_event on an event with its device and session rows. A missing device row
cannot be loaded, and a missing session row neither. -/
def sendEvent (readerCode : String) (candidate : Candidate) : Program ι ρ DeliverySenderResult :=
  match candidate.device with
  | none => raising .readerDoesNotExist "ReaderDevice matching query does not exist."
  | some device =>
      if device.code ≠ readerCode then
        raising .finalOdooEventSenderError "RFID event belongs to a different reader."
      else if !Database.isFinalEvent candidate.event then
        raising .finalOdooEventSenderError "Non-final RFID event cannot use final delivery."
      else if candidate.event.rfidSessionId = none then
        raising .finalOdooEventSenderError "Final RFID event has no assigned session."
      else match candidate.session with
        | none => raising .sessionDoesNotExist "RFIDSession matching query does not exist."
        | some session =>
            if session.deviceId ≠ candidate.event.deviceId then
              raising .finalOdooEventSenderError "RFID event/session reader mismatch."
            else if strip session.externalSessionKey = "" then
              raising .finalOdooEventSenderError "RFID event session key is empty."
            else if py.upper (strip candidate.event.epc) = "" then
              raising .finalOdooEventSenderError "RFID event EPC is empty."
            else
              let eventUuid := texts.uuid candidate.event.id
              tryElse
                (events (strip session.externalSessionKey) readerCode {
                  eventUuid
                  epc := py.upper (strip candidate.event.epc)
                  seenAt := texts.isoformat candidate.event.receivedAt })
                (fun exc =>
                  if exc.isOdooRFIDApiError then
                    pure { outcome := .retry, errorKind := exc.cls.name, detail := exc.message }
                  else .raise exc)
                fun answer => pure (resultOfAnswer py eventUuid answer)

end

/-- An answer that accepts the event: an ok object whose results name the event's UUID
once, with an outcome of accepted or duplicate. -/
structure Accepts (py : Builtins) (eventUuid : String) (answer : Json) : Prop where
  correlated : ∃ result results item, answer = .dict result ∧
    (Json.lookup result "ok").any Json.truthy = true ∧
    Json.lookup result "results" = some (.list results) ∧
    matching py eventUuid results = [item] ∧
    (outcomeText py item = "accepted" ∨ outcomeText py item = "duplicate")

theorem accepts_of_sent {py : Builtins} {eventUuid : String} {answer : Json}
    (h : (resultOfAnswer py eventUuid answer).outcome = .sent) :
    Accepts py eventUuid answer := by
  unfold resultOfAnswer at h
  split at h
  · rename_i result
    split at h
    · cases h
    · rename_i ok
      split at h
      · rename_i results found
        split at h
        · rename_i item only
          unfold resultOfItem at h
          dsimp only at h
          split at h
          · rename_i accepted
            refine ⟨result, results, item, rfl, by simpa using ok, found, only, ?_⟩
            simpa [acceptedOutcomes] using accepted
          · cases h
        · cases h
      · cases h
  · cases h

end FinalOdooEventSender
end RfidBridge
