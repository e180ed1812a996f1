import AuditTrail.Capture.Sink
import AuditTrail.Render.Settings

/-!
# Errors of auditing

What callers of the audit trail are told. An internal failure that could be recorded comes back as
its fault; one that could not even be recorded comes back with the refusal of the sink.
-/

namespace AuditTrail

/-- What callers are told. -/
inductive AuditError where
  /-- An internal failure that was recorded. -/
  | recorded (fault : Fault)
  /-- An internal failure that could not be recorded. -/
  | unauditable (advice : String) (fault : Fault) (refusal : SinkError)
  /-- The settings of rendering are invalid. -/
  | render (error : RenderError)
  /-- There is nothing that could run workers. -/
  | noRuntime
  deriving DecidableEq, Repr

namespace AuditError

/-- The message for callers. -/
def message : AuditError → String
  | recorded fault => fault.message
  | unauditable advice _ _ =>
    advice ++ " - failure occurred while attempting to write the audit error record"
  | render error => "invalid audit configuration: " ++ error.message
  | noRuntime => "no Tokio runtime to run audit workers on"

/-- The error as a cause, with everything behind it. -/
def toCause : AuditError → Cause
  | recorded fault => fault.toCause
  | unauditable advice fault refusal =>
    .prepend (unauditable advice fault refusal).message refusal.toCause
  | render error => .prepend (render error).message error.toCause
  | noRuntime => .root noRuntime.message

/-- The fault of an internal failure. -/
def fault? : AuditError → Option Fault
  | recorded fault => some fault
  | unauditable _ fault _ => some fault
  | _ => none

@[simp] theorem message_toCause (error : AuditError) : error.toCause.message = error.message := by
  cases error <;> rfl

end AuditError

end AuditTrail
