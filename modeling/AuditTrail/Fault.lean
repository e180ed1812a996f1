import AuditTrail.Message
import AuditTrail.Severity
import AuditTrail.Text.Quoted

/-!
# Causes and faults

The cause of a failure is an error with the errors behind it, of which the audit trail keeps the
messages. A fault is the standard error of the library: a message key with its parameters, a
severity, a status and possibly a cause.
-/

namespace AuditTrail

/-- The message of an error and the messages of the errors behind it, nearest first. -/
structure Cause where
  message : String
  sources : List String
  deriving DecidableEq, Repr, Inhabited

namespace Cause

/-- The messages from the outermost error to its root. -/
def chain (cause : Cause) : List String :=
  cause.message :: cause.sources

/-- The chain as one text. -/
def text (cause : Cause) : String :=
  ": ".intercalate cause.chain

/-- An error without a source. -/
def root (message : String) : Cause :=
  ⟨message, []⟩

/-- An error in front of another one. -/
def prepend (message : String) (source : Cause) : Cause :=
  ⟨message, source.chain⟩

@[simp] theorem chain_root (message : String) : (root message).chain = [message] := rfl

@[simp] theorem chain_prepend (message : String) (source : Cause) :
    (prepend message source).chain = message :: source.chain := rfl

end Cause

/-- The status that a fault is answered with. -/
inductive FaultStatus where
  | ok
  | badRequest
  | forbidden
  | notFound
  | internalServerError
  | serviceUnavailable
  deriving DecidableEq, Repr, Inhabited

namespace FaultStatus

/-- All statuses. -/
def all : List FaultStatus :=
  [ok, badRequest, forbidden, notFound, internalServerError, serviceUnavailable]

/-- The number of a status. -/
def code : FaultStatus → Nat
  | ok => 200
  | badRequest => 400
  | forbidden => 403
  | notFound => 404
  | internalServerError => 500
  | serviceUnavailable => 503

/-- The words for a status. -/
def reason : FaultStatus → String
  | ok => "OK"
  | badRequest => "Bad Request"
  | forbidden => "Forbidden"
  | notFound => "Not Found"
  | internalServerError => "Internal Server Error"
  | serviceUnavailable => "Service Unavailable"

/-- Number and words. -/
def text (status : FaultStatus) : String :=
  toString status.code ++ " " ++ status.reason

/-- The status with that number. -/
def ofCode? (n : Nat) : Option FaultStatus :=
  all.find? fun status ↦ status.code = n

end FaultStatus

/-- A standard error. -/
structure Fault where
  key : MessageKey
  params : List String
  severity : Severity
  status : FaultStatus
  cause : Option Cause
  deriving DecidableEq, Repr, Inhabited

namespace Fault

/-- The message of a fault. -/
def message (fault : Fault) : String :=
  fault.key.message fault.params

/-- A fault as the cause of something else. -/
def toCause (fault : Fault) : Cause :=
  ⟨fault.message, (fault.cause.map Cause.chain).getD []⟩

/-- How a fault is shown in diagnostics. -/
def debugText (fault : Fault) : String :=
  "RuntimeFault \x7b key: " ++ Text.quote fault.key.id ++
    ", message: " ++ Text.quote fault.message ++ ", severity: " ++ fault.severity.label ++
    ", status: " ++ toString fault.status.code ++
    ", cause: " ++ (match fault.cause with
      | none => "None"
      | some cause => "Some(" ++ Text.quote cause.message ++ ")") ++ " \x7d"

@[simp] theorem chain_toCause (fault : Fault) :
    fault.toCause.chain = fault.message :: (fault.cause.map Cause.chain).getD [] := rfl

end Fault

end AuditTrail
