import AuditTrail.Capture.AuditError
import AuditTrail.Capture.Dispatcher
import AuditTrail.Config.Basic
import AuditTrail.Preview

/-!
# The auditor

The entry point for callers. Whatever is audited goes to the dispatcher, and workers render and
write it later. Only a failure of auditing itself is written at once, to the error channel.
-/

namespace AuditTrail

/-- A running audit trail. -/
structure Auditor where
  dispatcher : Dispatcher Submission
  previewLimit : Nat

namespace Auditor

/-- The audit trail of a configuration. -/
def start (config : Config) (objects : ObjectTable) (hash : QueueKey → Nat) (hasRuntime : Bool)
    (sink : Sink) : Except AuditError Auditor := do
  let settings ← (RenderSettings.ofConfig config.audit).mapError .render
  if !hasRuntime then throw .noRuntime
  return {
    dispatcher := .start (Submission.process? settings objects) hash config.dispatcher.workers
      config.dispatcher.queueCapacity sink
    previewLimit := config.audit.previewLimit }

/-- The key of a submission of a thread. -/
def keyOf (thread : Nat) (submission : Submission) : QueueKey :=
  submission.event.queueKey thread

/-- Audits a submission of a thread without waiting. -/
def submit (thread : Nat) (submission : Submission) (auditor : Auditor) :
    Auditor × List Log.Event :=
  let (dispatcher, logs) := auditor.dispatcher.submit (keyOf thread submission) submission
  ({ auditor with dispatcher }, logs)

/-- Audits a request. -/
def writeRequest (thread : Nat) (request : Request) (event : AuditEvent) (severity : Severity)
    (cause : Option Cause) : Auditor → Auditor × List Log.Event :=
  submit thread ⟨event, .data (.request request), severity, cause⟩

/-- Audits a response object, as information unless a severity is given. -/
def writeResponse (thread : Nat) (value : Value) (event : AuditEvent) (severity : Option Severity)
    (cause : Option Cause) : Auditor → Auditor × List Log.Event :=
  submit thread ⟨event, .data (.response (some value)), severity.getD .info, cause⟩

/-- Audits any data. -/
def writeData (thread : Nat) (data : AuditData) (event : AuditEvent) (severity : Severity)
    (cause : Option Cause) : Auditor → Auditor × List Log.Event :=
  submit thread ⟨event, .data data, severity, cause⟩

/-- Audits a text that is already rendered. -/
def writeMessage (thread : Nat) (text : String) (event : AuditEvent) (severity : Severity)
    (cause : Option Cause) : Auditor → Auditor × List Log.Event :=
  submit thread ⟨event, .text text, severity, cause⟩

/-- The preview of what a reader delivers. -/
def preview (portion : Nat → Nat) (reader : Reader) (auditor : Auditor) : Preview :=
  .read portion auditor.previewLimit reader

/-- The preview of what a reader delivers, without blocking. -/
def previewPolled (portion : Nat → Nat) (reader : Reader) (auditor : Auditor) : Preview :=
  .readPolled portion auditor.previewLimit reader

/-! ## Failures of auditing -/

/-- The fault of a failure of auditing. -/
def failureFault (advice attempt : String) (key : MessageKey) (error : Cause) : Fault where
  key
  params := [advice, attempt]
  severity := .fatal
  status := .internalServerError
  cause := some error

/-- The record of a failure of auditing. -/
def failureRecord (event : AuditEvent) (fault : Fault) : AuditRecord :=
  .payload .error event ("Error ServiceMessage: " ++ fault.message) (some fault.toCause)

/-- The diagnostic of a failure of auditing. -/
def failureLog (advice attempt : String) (event : AuditEvent) (error : Cause) : Log.Event where
  level := .error
  target := Log.diagnosticTarget
  message := advice ++ " - Exception occurred while attempting to " ++ attempt
  fields := [("event", .shown event.category.name), ("activity", .quoted event.activity),
    ("error", .shown error.message)]

/-- The diagnostic of a failure that the sink does not take. -/
def unauditableLog (error : SinkError) : Log.Event where
  level := .error
  target := Log.diagnosticTarget
  message := "Failed to write audit error record"
  fields := [("error", .shown error.message)]

/-- Records a failure of auditing and answers with the error for the caller. -/
def recordFailure (advice attempt : String) (event : AuditEvent) (key : MessageKey) (error : Cause)
    (auditor : Auditor) : AuditError × Auditor × List Log.Event :=
  let fault := failureFault advice attempt key error
  let log := failureLog advice attempt event error
  let (refusal, dispatcher) := auditor.dispatcher.write (failureRecord event fault)
  let auditor := { auditor with dispatcher }
  match refusal with
  | none => (.recorded fault, auditor, [log])
  | some refusal => (.unauditable advice fault refusal, auditor, [log, unauditableLog refusal])

end Auditor

end AuditTrail
