import AuditTrail.Capture.Auditor

/-!
# Partner messages and cached responses

Messages that are exchanged with partner systems are audited as texts with a header line. Responses
from a cache are audited without waiting, and a response that cannot be queued is a failure of
auditing.
-/

namespace AuditTrail

/-- The point of an exchange at which a message was captured. -/
inductive ExchangeStage where
  | before
  | after
  deriving DecidableEq, Repr

/-- How a stage is called in header lines. -/
def ExchangeStage.title : ExchangeStage → String
  | before => "Raw XML"
  | after => "Wire Log"

/-- The kind of a message of an exchange. -/
inductive ExchangeKind where
  | request
  | response
  | fault
  deriving DecidableEq, Repr

namespace ExchangeKind

/-- The category of the event. -/
def category : ExchangeKind → EventCategory
  | request => .partnerSoapRequest
  | response => .partnerSoapResponse
  | fault => .partnerSoapFault

/-- The activity of the event. -/
def activity : ExchangeKind → String
  | request => "webserviceRequest"
  | response => "webserviceResponse"
  | fault => "webserviceResponse_SOAP-FAULT"

/-- Faults are errors. -/
def severity : ExchangeKind → Severity
  | request | response => .info
  | fault => .error

/-- The header line of a message. -/
def header (stage : ExchangeStage) (kind : ExchangeKind) : String :=
  kind.activity ++ " -> " ++ stage.title ++ " : \n"

end ExchangeKind

namespace Auditor

/-- What a new event gets from outside. -/
structure Stamp where
  id : Uuid
  time : Instant

/-- A new event. -/
def Stamp.event (stamp : Stamp) (category : EventCategory) (activity audited : String) :
    AuditEvent :=
  ⟨stamp.id, stamp.time, category, activity, audited, none⟩

/-- Audits a message of an exchange with a partner. -/
def writeExchange (thread : Nat) (stamp : Stamp) (stage : ExchangeStage) (kind : ExchangeKind)
    (xml : String) : Auditor → Auditor × List Log.Event :=
  writeMessage thread (kind.header stage ++ xml)
    (stamp.event kind.category kind.activity "WebServiceTemplate") kind.severity none

/-- What a failure to audit a cached response is called, and what was attempted. -/
def cacheAdvice : String :=
  "CacheInterceptorInvoke"

/-- Audits a response from a cache. -/
def writeCached (thread : Nat) (stamp : Stamp) (audited : String) (value : Option Value)
    (auditor : Auditor) : Except AuditError Unit × Auditor × List Log.Event :=
  let event := stamp.event .cachedServiceResponse "cacheGet" audited
  let submission : Submission := ⟨event, .data (.response value), .info, none⟩
  match auditor.dispatcher.offer (keyOf thread submission) submission with
  | .ok dispatcher => (.ok (), { auditor with dispatcher }, [])
  | .error error =>
    let (failure, auditor, logs) :=
      auditor.recordFailure cacheAdvice cacheAdvice event .interceptorException
        (.root error.message)
    (.error failure, auditor, logs)

end Auditor

end AuditTrail
