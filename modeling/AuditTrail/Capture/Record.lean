import AuditTrail.Event
import AuditTrail.Fault
import AuditTrail.Log

/-!
# Audit records

One entry of the audit trail. Records off the error channel never carry the cause of a failure:
the only constructor that takes a cause and a channel drops the one where the other records none.
-/

namespace AuditTrail

/-- What a record carries. -/
inductive RecordKind where
  /-- Rendered data or a message. -/
  | payload
  /-- The report of a rendering tier that failed. -/
  | diagnostic
  deriving DecidableEq, Repr, Inhabited

/-- The name of a kind. -/
def RecordKind.name : RecordKind → String
  | payload => "payload"
  | diagnostic => "diagnostic"

/-- An entry of the audit trail. -/
structure AuditRecord where
  channel : Channel
  kind : RecordKind
  event : AuditEvent
  details : String
  cause : Option Cause
  deriving DecidableEq, Repr

namespace AuditRecord

/-- The record of rendered data or of a message. -/
def payload (channel : Channel) (event : AuditEvent) (details : String) (cause : Option Cause) :
    AuditRecord where
  channel
  kind := .payload
  event
  details
  cause := if channel.recordsCause then cause else none

/-- The record of a rendering tier that failed. -/
def diagnostic (event : AuditEvent) (details : String) (cause : Cause) : AuditRecord where
  channel := .error
  kind := .diagnostic
  event
  details
  cause := some cause

@[simp] theorem cause_payload (channel : Channel) (event : AuditEvent) (details : String)
    (cause : Option Cause) :
    (payload channel event details cause).cause =
      if channel.recordsCause then cause else none := rfl

@[simp] theorem cause_diagnostic (event : AuditEvent) (details : String) (cause : Cause) :
    (diagnostic event details cause).cause = some cause := rfl

/-- The level at which records of a channel are logged. -/
def level : Channel → Log.Level
  | .info => .info
  | .warn => .warn
  | .error => .error

/-- The cause that a log event shows, which only the error channel has. -/
def shownCause (record : AuditRecord) : Option Cause :=
  if record.channel.recordsCause then record.cause else none

/-- A record as a log event. -/
def logEvent (record : AuditRecord) : Log.Event where
  level := level record.channel
  target := Log.auditTarget
  message := record.details
  fields :=
    [("event", .shown record.event.category.name),
      ("activity", .quoted record.event.activity),
      ("audited", .quoted record.event.audited),
      ("event_id", .shown record.event.idText),
      ("kind", .shown record.kind.name)] ++
      record.shownCause.toList.map fun cause ↦ ("error", .shown cause.text)

end AuditRecord

end AuditTrail
