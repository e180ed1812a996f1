import AuditTrail.Text.Lowercase

/-!
# Severities and channels

Every record has a severity, and the severity chooses the channel it is written to. Channels are
independent streams; only the error channel records the cause of a failure.
-/

namespace AuditTrail

/-- How serious a message, a record or a fault is. -/
inductive Severity where
  | info
  | warn
  | error
  | fatal
  | debug
  | trace
  deriving DecidableEq, Repr, Inhabited

namespace Severity

/-- All severities. -/
def all : List Severity :=
  [info, warn, error, fatal, debug, trace]

/-- The name of a severity in configuration and records. -/
def name : Severity → String
  | info => "INFO"
  | warn => "WARN"
  | error => "ERROR"
  | fatal => "FATAL"
  | debug => "DEBUG"
  | trace => "TRACE"

/-- The name of a severity in diagnostics. -/
def label : Severity → String
  | info => "Info"
  | warn => "Warn"
  | error => "Error"
  | fatal => "Fatal"
  | debug => "Debug"
  | trace => "Trace"

/-- The severity with exactly that name. -/
def ofName? (s : String) : Option Severity :=
  all.find? fun severity ↦ severity.name = s

/-- The severity with that name, in ASCII letters of either case. -/
def parse? (s : String) : Option Severity :=
  all.find? fun severity ↦ Text.asciiLowercase severity.name = Text.asciiLowercase s

/-- Errors and fatal errors are failures. -/
def isFailure : Severity → Bool
  | error | fatal => true
  | _ => false

theorem ofName?_name (severity : Severity) : ofName? severity.name = some severity := by
  cases severity <;> rfl

end Severity

/-- A stream of records. -/
inductive Channel where
  | info
  | warn
  | error
  deriving DecidableEq, Repr, Inhabited

namespace Channel

/-- All channels. -/
def all : List Channel :=
  [info, warn, error]

/-- The name of a channel. -/
def name : Channel → String
  | info => "info"
  | warn => "warn"
  | error => "error"

/-- The name of a channel in diagnostics. -/
def label : Channel → String
  | info => "Info"
  | warn => "Warn"
  | error => "Error"

/-- The channel with exactly that name. -/
def ofName? (s : String) : Option Channel :=
  all.find? fun channel ↦ channel.name = s

/-- The channel that records of a severity are written to. -/
def ofSeverity : Severity → Channel
  | .error | .fatal => error
  | .warn => warn
  | .info | .debug | .trace => info

/-- Records of the channel carry the cause of a failure. -/
def recordsCause : Channel → Bool
  | error => true
  | _ => false

@[simp] theorem recordsCause_ofSeverity (severity : Severity) :
    (ofSeverity severity).recordsCause = severity.isFailure := by
  cases severity <;> rfl

theorem ofName?_name (channel : Channel) : ofName? channel.name = some channel := by
  cases channel <;> rfl

end Channel

end AuditTrail
