import AuditTrail.Capture.Sink
import AuditTrail.Logging.Logger

/-!
# Records in the log

The sink that writes records as log events of the audit target. It refuses no record, whatever
becomes of the event. What a process logs is a sequence of events of its own and of records.
-/

namespace AuditTrail

/-- Writes a record as a log event. -/
def Logging.writeRecord (time : Instant) (record : AuditRecord) (logging : Logging) :
    Option SinkError × Logging :=
  (none, logging.emit time record.logEvent)

/-- What a process logs at a time: an event of its own or a record. -/
inductive LogStep where
  | event (time : Instant) (event : Log.Event)
  | record (time : Instant) (record : AuditRecord)
  deriving DecidableEq, Repr

namespace LogStep

/-- What refuses the step, if anything does, and the logging after it. -/
def run : LogStep → Logging → Option SinkError × Logging
  | .event time logged, logging => (none, logging.emit time logged)
  | .record time written, logging => logging.writeRecord time written

/-- The logging after some steps. -/
def runAll (steps : List LogStep) (logging : Logging) : Logging :=
  steps.foldl (fun logging step ↦ (step.run logging).2) logging

end LogStep

end AuditTrail
