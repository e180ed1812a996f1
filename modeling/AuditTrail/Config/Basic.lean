import AuditTrail.Render.DateFormat
import AuditTrail.Render.FieldFilter
import AuditTrail.Render.Settings
import AuditTrail.Logging.Config

/-!
# Configuration

The settings of an application: what records are rendered with, how many workers write them, and
where log events go. A configuration is valid when the library can run with it.
-/

namespace AuditTrail

/-- Settings of rendering. -/
structure AuditConfig where
  payloadLimit : Nat := defaultPayloadLimit
  previewLimit : Nat := defaultPayloadLimit
  excludedFields : List String := ["logger"]
  dateFormat : String := DateFormat.standardText
  underLimitPolicy : UnderLimitPolicy := .passThrough
  maxDepth : Nat := defaultMaxDepth
  deriving DecidableEq, Repr, Inhabited

/-- Settings of the workers. -/
structure DispatcherConfig where
  workers : Nat := 2
  /-- How many records the queue of a worker holds. -/
  queueCapacity : Nat := 10000
  deriving DecidableEq, Repr, Inhabited

/-- Settings of logging. -/
structure LoggingConfig where
  level : String := "info"
  format : String := "pretty"
  file : Option String := none
  auditFile : Option String := none
  deriving DecidableEq, Repr, Inhabited

/-- A configuration. -/
structure Config where
  audit : AuditConfig := {}
  dispatcher : DispatcherConfig := {}
  logging : LoggingConfig := {}
  deriving DecidableEq, Repr, Inhabited

/-- The numbers that a setting can hold lie below this one. -/
def Config.numberBound : Nat :=
  Nat.pow 2 64

/-- The logging setup of some settings. What names no level or format leaves the standard one. -/
def LoggingConfig.toLogConfig (logging : LoggingConfig) : LogConfig where
  level := (Log.Level.parse? logging.level).getD .info
  format := (Log.Format.parse? logging.format).getD .pretty
  file := logging.file
  auditFile := logging.auditFile

/-- What records are rendered with under some settings. -/
def RenderSettings.ofConfig (audit : AuditConfig) : Except RenderError RenderSettings :=
  match DateFormat.parse? audit.dateFormat with
  | some dateFormat =>
    .ok {
      filter := .ofNames audit.excludedFields
      limit := ⟨audit.payloadLimit, audit.underLimitPolicy, .counting⟩
      dateFormat
      maxDepth := audit.maxDepth }
  | none => .error (.dateFormat audit.dateFormat)

/-! ## Validity -/

/-- What is wrong with the values of a configuration. -/
inductive ConfigFlaw where
  /-- A setting is zero. -/
  | zero (name : String)
  | emptyDateFormat
  | badDateFormat (format : String)
  | badLevel (level : String)
  | badFormat (format : String)
  deriving DecidableEq, Repr

namespace ConfigFlaw

/-- The message of a flaw. -/
def message : ConfigFlaw → String
  | zero name => name ++ " must be greater than 0"
  | emptyDateFormat => "audit.date_format must not be empty"
  | badDateFormat format => "audit.date_format '" ++ format ++ "' is not a valid strftime format"
  | badLevel level =>
    "logging.level '" ++ level ++ "' is not one of trace, debug, info, warn, error"
  | badFormat format => "logging.format '" ++ format ++ "' is not one of pretty, compact, json"

/-- The flaw of a number that has to be positive. -/
def ofNumber (name : String) (n : Nat) : Option ConfigFlaw :=
  if n = 0 then some (zero name) else none

/-- The flaw of a date format. -/
def ofDateFormat (format : String) : Option ConfigFlaw :=
  if format.toList.all Text.isBlank then some emptyDateFormat
  else if (Time.Pattern.parse? format).isNone then some (badDateFormat format)
  else none

/-- The flaw of a log level. -/
def ofLevel (level : String) : Option ConfigFlaw :=
  if (Log.Level.parse? level).isNone then some (badLevel level) else none

/-- The flaw of a log format. -/
def ofFormat (format : String) : Option ConfigFlaw :=
  if (Log.Format.parse? format).isNone then some (badFormat format) else none

end ConfigFlaw

namespace Config

open ConfigFlaw

/-- The first flaw of a configuration. -/
def flaw? (config : Config) : Option ConfigFlaw :=
  ofNumber "audit.payload_limit_bytes" config.audit.payloadLimit <|>
  ofNumber "audit.preview_limit_bytes" config.audit.previewLimit <|>
  ofNumber "audit.max_depth" config.audit.maxDepth <|>
  ofDateFormat config.audit.dateFormat <|>
  ofNumber "dispatcher.workers" config.dispatcher.workers <|>
  ofNumber "dispatcher.queue_capacity" config.dispatcher.queueCapacity <|>
  ofLevel config.logging.level <|>
  ofFormat config.logging.format

/-- The library can run with the configuration. -/
def IsValid (config : Config) : Prop :=
  config.flaw? = none

instance (config : Config) : Decidable config.IsValid :=
  inferInstanceAs (Decidable (config.flaw? = none))

end Config

end AuditTrail
