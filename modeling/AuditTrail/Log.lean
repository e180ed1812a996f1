/-!
# Log events

Diagnostics that the library reports about itself. Every operation that can report one answers with
the events in the order in which they are emitted.
-/

namespace AuditTrail.Log

/-- Levels, the most severe first. -/
inductive Level where
  | error
  | warn
  | info
  | debug
  | trace
  deriving DecidableEq, Repr, Inhabited

namespace Level

/-- The name of a level in log lines. -/
def name : Level → String
  | error => "ERROR"
  | warn => "WARN"
  | info => "INFO"
  | debug => "DEBUG"
  | trace => "TRACE"

/-- The name of a level in configuration. -/
def directive : Level → String
  | error => "error"
  | warn => "warn"
  | info => "info"
  | debug => "debug"
  | trace => "trace"

/-- How much a level lets through: the more the greater. -/
def verbosity : Level → Nat
  | error => 1
  | warn => 2
  | info => 3
  | debug => 4
  | trace => 5

end Level

/-- The value of a field of an event. -/
inductive FieldValue where
  /-- A text that log lines quote. -/
  | quoted (s : String)
  /-- A text that log lines show as it is. -/
  | shown (s : String)
  | number (n : Nat)
  deriving DecidableEq, Repr

/-- The text of a field. -/
def FieldValue.text : FieldValue → String
  | quoted s => s
  | shown s => s
  | number n => toString n

/-- A diagnostic. -/
structure Event where
  level : Level
  target : String
  message : String
  fields : List (String × FieldValue)
  deriving DecidableEq, Repr

/-- The target of audit records. -/
def auditTarget : String :=
  "bulwark::audit"

/-- The target of what the library reports about itself. -/
def diagnosticTarget : String :=
  "bulwark"

end AuditTrail.Log
