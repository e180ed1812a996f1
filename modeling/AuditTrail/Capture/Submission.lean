import AuditTrail.Capture.Record
import AuditTrail.Render.Serialized

/-!
# Submissions

What callers hand in and workers turn into records: data that are rendered, or a text that is
written as it is. Every failed tier gives a record of its own in front of the payload record.
-/

namespace AuditTrail

/-- What a submission is about. -/
inductive Payload where
  | data (data : AuditData)
  /-- A text that is already rendered. -/
  | text (text : String)
  deriving Repr, Inhabited

/-- What callers hand in. -/
structure Submission where
  event : AuditEvent
  payload : Payload
  severity : Severity
  cause : Option Cause

/-- What a worker does for a submission: diagnostics, and the records to be written in order. -/
structure Processing where
  logs : List Log.Event
  records : List AuditRecord

namespace Submission

/-- The record of a failed tier. -/
def diagnostic (submission : Submission) (failure : TierFailure) : AuditRecord :=
  .diagnostic submission.event failure.message failure.error.toCause

/-- The record of the details. -/
def payloadRecord (submission : Submission) (details : String) : AuditRecord :=
  .payload (.ofSeverity submission.severity) submission.event details submission.cause

/-- What a worker does for a submission. Without an answer the task breaks off, because the date
format has no text for a timestamp that is met. -/
def process? (settings : RenderSettings) (objects : ObjectTable) (submission : Submission) :
    Option Processing :=
  match submission.payload with
  | .text text => some ⟨[], [submission.payloadRecord text]⟩
  | .data data =>
    (settings.serialize? objects data).map fun serialized ↦
      ⟨settings.serializeLogs data,
        serialized.failures.map submission.diagnostic ++
          [submission.payloadRecord serialized.text]⟩

end Submission

end AuditTrail
