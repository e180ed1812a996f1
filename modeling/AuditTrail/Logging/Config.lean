import AuditTrail.Log
import AuditTrail.Text.Lowercase
import AuditTrail.Entries

/-!
# Logging setup

Which log events are kept, how they are written and where to. The setup comes from the variables of
a process or from a configuration.
-/

namespace AuditTrail

/-- The variables of a process. -/
abbrev Environment := Entries String

namespace Log

/-- The level that a text names, in letters of either case. -/
def Level.parse? (s : String) : Option Level :=
  match Text.lowercase s with
  | "trace" => some .trace
  | "debug" => some .debug
  | "info" => some .info
  | "warn" => some .warn
  | "warning" => some .warn
  | "error" => some .error
  | _ => none

/-- How log events are written. -/
inductive Format where
  /-- For people, on several lines. -/
  | pretty
  /-- On a single line. -/
  | compact
  /-- As JSON lines. -/
  | json
  deriving DecidableEq, Repr, Inhabited

namespace Format

/-- The name of a format in diagnostics. -/
def label : Format → String
  | pretty => "Pretty"
  | compact => "Compact"
  | json => "Json"

/-- The format that a text names, in letters of either case. -/
def parse? (s : String) : Option Format :=
  match Text.lowercase s with
  | "pretty" => some pretty
  | "compact" => some compact
  | "json" => some json
  | _ => none

end Format

end Log

/-- A logging setup. -/
structure LogConfig where
  level : Log.Level := .info
  format : Log.Format := .pretty
  /-- The file that repeats all output. -/
  file : Option String := none
  /-- The file that takes audit records and nothing else. -/
  auditFile : Option String := none
  sourceLocation : Bool := false
  spanEvents : Bool := false
  deriving DecidableEq, Repr, Inhabited

namespace LogConfig

/-- The text means yes. -/
def isTruthy (s : String) : Bool :=
  Text.asciiLowercase s = "true" || s = "1"

/-- The general variable of log filters. -/
def filterKey : String :=
  "RUST_LOG"

/-- The level of some variables: that of the library's own variable if it is set, and that of the
general one otherwise. A text that names no level leaves the standard one. -/
def levelOf (environment : Environment) : Log.Level :=
  ((environment.get? "BULWARK_LOG_LEVEL" <|> environment.get? filterKey).bind
    Log.Level.parse?).getD .info

/-- The setup that the variables of a process describe. -/
def ofEnvironment (environment : Environment) : LogConfig where
  level := levelOf environment
  format := ((environment.get? "BULWARK_LOG_FORMAT").bind Log.Format.parse?).getD .pretty
  file := environment.get? "BULWARK_LOG_FILE"
  auditFile := environment.get? "BULWARK_AUDIT_LOG_FILE"
  sourceLocation := (environment.get? "BULWARK_LOG_SOURCE").any isTruthy
  spanEvents := (environment.get? "BULWARK_LOG_SPANS").any isTruthy

end LogConfig

end AuditTrail
