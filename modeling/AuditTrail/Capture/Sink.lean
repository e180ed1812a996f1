import AuditTrail.Capture.MemorySink

/-!
# Sinks

A sink is offered one record after the other. It stores a record or refuses it; what it answers may
depend on everything that it was offered before. A refusal loses the refused record only.
-/

namespace AuditTrail

/-- Why a sink refuses a record. -/
inductive SinkError where
  | unavailable (reason : String)
  | rejected (channel : Channel) (reason : String)
  | failed (reason : String)
  deriving DecidableEq, Repr

namespace SinkError

/-- The message of a refusal. -/
def message : SinkError → String
  | unavailable reason => "audit sink unavailable: " ++ reason
  | rejected channel reason =>
    "audit sink rejected record on " ++ channel.name ++ " channel: " ++ reason
  | failed reason => "audit sink I/O failed: " ++ reason

/-- A refusal as the cause of something else; what failed below the sink stands behind it. -/
def toCause (error : SinkError) : Cause where
  message := error.message
  sources := match error with
    | failed reason => [reason]
    | _ => []

end SinkError

/-- A destination of records. -/
structure Sink where
  /-- The answer to a record after the records that were offered before it. -/
  answer : (offered : List AuditRecord) → AuditRecord → Option SinkError
  /-- All records that have been offered, in order. -/
  offered : List AuditRecord := []
  memory : MemorySink := .empty

namespace Sink

/-- Offers a record. -/
def write (record : AuditRecord) (sink : Sink) : Option SinkError × Sink :=
  let error := sink.answer sink.offered record
  (error,
    { sink with
      offered := sink.offered ++ [record]
      memory := if error.isNone then sink.memory.write record else sink.memory })

@[simp] theorem offered_write (record : AuditRecord) (sink : Sink) :
    (sink.write record).2.offered = sink.offered ++ [record] := rfl

@[simp] theorem answer_write (record : AuditRecord) (sink : Sink) :
    (sink.write record).2.answer = sink.answer := rfl

/-- The sink that stores every record. -/
def accepting : Sink where
  answer _ _ := none

end Sink

end AuditTrail
