import AuditTrail.Json.Basic
import AuditTrail.Time.Rfc3339
import AuditTrail.Text.Quoted
import AuditTrail.Uuid

/-!
# Audit events

An event says what is being audited: its category, the activity, and the type or operation that
performs it. It has an identifier and a time of its own, and events that belong together, such as a
request and its response, may share a correlation identifier.
-/

namespace AuditTrail

/-- The category of an event. -/
inductive EventCategory where
  | apiRestRequest
  | apiRestResponse
  | requestResponse
  | serviceAudit
  | cachedServiceResponse
  | partnerRestRequest
  | partnerRestResponse
  | partnerSoapRequest
  | partnerSoapResponse
  | partnerSoapFault
  deriving DecidableEq, Repr, Inhabited

namespace EventCategory

/-- All categories. -/
def all : List EventCategory :=
  [apiRestRequest, apiRestResponse, requestResponse, serviceAudit, cachedServiceResponse,
    partnerRestRequest, partnerRestResponse, partnerSoapRequest, partnerSoapResponse,
    partnerSoapFault]

/-- The name of a category. -/
def name : EventCategory → String
  | apiRestRequest => "API_REST_REQUEST"
  | apiRestResponse => "API_REST_RESPONSE"
  | requestResponse => "REQUEST_RESPONSE"
  | serviceAudit => "SERVICE_AUDIT"
  | cachedServiceResponse => "CACHED_SERVICE_RESPONSE"
  | partnerRestRequest => "PARTNER_REST_REQUEST"
  | partnerRestResponse => "PARTNER_REST_RESPONSE"
  | partnerSoapRequest => "PARTNER_SOAP_REQUEST"
  | partnerSoapResponse => "PARTNER_SOAP_RESPONSE"
  | partnerSoapFault => "PARTNER_SOAP_FAULT"

/-- The name of a category in diagnostics. -/
def label : EventCategory → String
  | apiRestRequest => "ApiRestRequest"
  | apiRestResponse => "ApiRestResponse"
  | requestResponse => "RequestResponse"
  | serviceAudit => "ServiceAudit"
  | cachedServiceResponse => "CachedServiceResponse"
  | partnerRestRequest => "PartnerRestRequest"
  | partnerRestResponse => "PartnerRestResponse"
  | partnerSoapRequest => "PartnerSoapRequest"
  | partnerSoapResponse => "PartnerSoapResponse"
  | partnerSoapFault => "PartnerSoapFault"

/-- The category with exactly that name. -/
def ofName? (s : String) : Option EventCategory :=
  all.find? fun category ↦ category.name = s

/-- What is said about a text that names no category. -/
def unknownMessage : String :=
  "Matching variant not found"

/-- The event is about traffic with a partner system. -/
def isPartner : EventCategory → Bool
  | partnerRestRequest | partnerRestResponse | partnerSoapRequest | partnerSoapResponse
  | partnerSoapFault => true
  | _ => false

theorem ofName?_name (category : EventCategory) : ofName? category.name = some category := by
  cases category <;> rfl

end EventCategory

/-- What is being audited. -/
structure AuditEvent where
  id : Uuid
  occurredAt : Instant
  category : EventCategory
  activity : String
  audited : String
  correlationId : Option String
  deriving DecidableEq, Repr

namespace AuditEvent

/-- The event under a correlation identifier, in place of the one it may have. -/
def correlated (event : AuditEvent) (correlationId : String) : AuditEvent :=
  { event with correlationId := some correlationId }

/-- The identifier of an event as text. -/
def idText (event : AuditEvent) : String :=
  "aud_" ++ event.id.text

/-- The identifier of an event in diagnostics. -/
def idDebugText (event : AuditEvent) : String :=
  "AuditEventId(" ++ event.idText ++ ")"

/-- An event as text. -/
def text (event : AuditEvent) : String :=
  "AuditEvent\x7bevent=" ++ event.category.name ++ ", activity=" ++ event.activity ++
    ", audited=" ++ event.audited ++ "\x7d"

/-- How an event is shown in diagnostics. -/
def debugText (event : AuditEvent) : String :=
  "AuditEvent \x7b id: " ++ event.idDebugText ++
    ", occurred_at: " ++ event.occurredAt.utc.rfc3339Utc ++ ", event: " ++ event.category.label ++
    ", activity: " ++ Text.quote event.activity ++
    ", audited: " ++ Text.quote event.audited ++ ", correlation_id: " ++
    (match event.correlationId with
      | none => "None"
      | some s => "Some(" ++ Text.quote s ++ ")") ++ " \x7d"

/-- The document of an event. The correlation identifier is a member only if there is one. -/
def toJson (event : AuditEvent) : Json :=
  .obj <|
    [("id", .str event.id.text),
      ("occurred_at", .str event.occurredAt.utc.rfc3339Utc),
      ("event", .str event.category.name),
      ("activity", .str event.activity),
      ("audited", .str event.audited)] ++
      event.correlationId.toList.map fun s ↦ ("correlation_id", .str s)

/-- The text of a document that may be null. -/
def optionalText? : Json → Option (Option String)
  | .null => some none
  | .str s => some (some s)
  | _ => none

/-- The event of its parts. -/
def ofParts? (id occurredAt category activity audited : Json) (correlationId : Option Json) :
    Option AuditEvent := do
  return {
    id := ← id.text?.bind Uuid.parse?
    occurredAt := (← occurredAt.text?.bind Timestamp.parse?).instant
    category := ← category.variant?.bind EventCategory.ofName?
    activity := ← activity.text?
    audited := ← audited.text?
    correlationId := ← optionalText? (correlationId.getD .null) }

/-- The event of a document: an object with the members of an event and any others, or an array of
the parts in order. -/
def ofJson? : Json → Option AuditEvent
  | .arr [id, occurredAt, category, activity, audited] =>
    ofParts? id occurredAt category activity audited none
  | .arr [id, occurredAt, category, activity, audited, correlationId] =>
    ofParts? id occurredAt category activity audited (some correlationId)
  | .obj members => do
    let get? name := (Json.obj members).get? name
    ofParts? (← get? "id") (← get? "occurred_at") (← get? "event") (← get? "activity")
      (← get? "audited") (get? "correlation_id")
  | _ => none

end AuditEvent

end AuditTrail
