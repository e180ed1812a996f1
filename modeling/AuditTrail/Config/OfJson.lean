import AuditTrail.Config.Basic
import AuditTrail.Json.Basic

/-!
# Configurations as JSON documents

A configuration and each of its sections may be an object, of which everything may be missing and
unknown members are passed over, or an array of the leading fields in their order.
-/

namespace AuditTrail

namespace Json

/-- What a document of named fields makes of `a`, where `field` reads the value of a known name. An
array gives the leading fields in the order of `names`. -/
def struct {α : Type} (names : List String) (field : String → Json → α → Option α) (a : α) :
    Json → Option α
  | obj members => members.foldlM (fun a member ↦ field member.1 member.2 a) a
  | arr items =>
    if items.length ≤ names.length then
      (names.zip items).foldlM (fun a member ↦ field member.1 member.2 a) a
    else none
  | _ => none

/-- A text or null. -/
def textOrNull? : Json → Option (Option String)
  | null => some none
  | str s => some (some s)
  | _ => none

/-- A number that a setting can hold. -/
def setting? (j : Json) : Option Nat :=
  j.natBelow? Config.numberBound

/-- The document of a text that may be missing. -/
def ofText? : Option String → Json
  | some s => str s
  | none => null

end Json

namespace AuditConfig

/-- The names of the settings of rendering. -/
def fieldNames : List String :=
  ["payload_limit_bytes", "preview_limit_bytes", "excluded_fields", "date_format",
    "under_limit_policy", "max_depth"]

/-- The settings with one of them read from a document. -/
def setField (name : String) (j : Json) (config : AuditConfig) : Option AuditConfig :=
  match name with
  | "payload_limit_bytes" => j.setting?.map fun n ↦ { config with payloadLimit := n }
  | "preview_limit_bytes" => j.setting?.map fun n ↦ { config with previewLimit := n }
  | "excluded_fields" =>
    (j.list? Json.text?).map fun names ↦ { config with excludedFields := names }
  | "date_format" => j.text?.map fun s ↦ { config with dateFormat := s }
  | "under_limit_policy" =>
    (j.variant?.bind UnderLimitPolicy.ofName?).map fun policy ↦
      { config with underLimitPolicy := policy }
  | "max_depth" => j.setting?.map fun n ↦ { config with maxDepth := n }
  | _ => some config

/-- The settings of a document. -/
def ofJson? : Json → Option AuditConfig :=
  Json.struct fieldNames setField {}

/-- The document of some settings. -/
def toJson (config : AuditConfig) : Json :=
  .obj [("payload_limit_bytes", .int config.payloadLimit),
    ("preview_limit_bytes", .int config.previewLimit),
    ("excluded_fields", .arr (config.excludedFields.map .str)),
    ("date_format", .str config.dateFormat),
    ("under_limit_policy", .str config.underLimitPolicy.name),
    ("max_depth", .int config.maxDepth)]

end AuditConfig

namespace DispatcherConfig

/-- The names of the settings of the workers. -/
def fieldNames : List String :=
  ["workers", "queue_capacity"]

/-- The settings with one of them read from a document. -/
def setField (name : String) (j : Json) (config : DispatcherConfig) : Option DispatcherConfig :=
  match name with
  | "workers" => j.setting?.map fun n ↦ { config with workers := n }
  | "queue_capacity" => j.setting?.map fun n ↦ { config with queueCapacity := n }
  | _ => some config

/-- The settings of a document. -/
def ofJson? : Json → Option DispatcherConfig :=
  Json.struct fieldNames setField {}

/-- The document of some settings. -/
def toJson (config : DispatcherConfig) : Json :=
  .obj [("workers", .int config.workers), ("queue_capacity", .int config.queueCapacity)]

end DispatcherConfig

namespace LoggingConfig

/-- The names of the settings of logging. -/
def fieldNames : List String :=
  ["level", "format", "file", "audit_file"]

/-- The settings with one of them read from a document. -/
def setField (name : String) (j : Json) (config : LoggingConfig) : Option LoggingConfig :=
  match name with
  | "level" => j.text?.map fun s ↦ { config with level := s }
  | "format" => j.text?.map fun s ↦ { config with format := s }
  | "file" => j.textOrNull?.map fun s ↦ { config with file := s }
  | "audit_file" => j.textOrNull?.map fun s ↦ { config with auditFile := s }
  | _ => some config

/-- The settings of a document. -/
def ofJson? : Json → Option LoggingConfig :=
  Json.struct fieldNames setField {}

/-- The document of some settings. -/
def toJson (config : LoggingConfig) : Json :=
  .obj [("level", .str config.level), ("format", .str config.format),
    ("file", .ofText? config.file), ("audit_file", .ofText? config.auditFile)]

end LoggingConfig

namespace Config

/-- The names of the sections of a configuration. -/
def fieldNames : List String :=
  ["audit", "dispatcher", "logging"]

/-- The configuration with one of its sections read from a document. -/
def setField (name : String) (j : Json) (config : Config) : Option Config :=
  match name with
  | "audit" => (AuditConfig.ofJson? j).map fun audit ↦ { config with audit }
  | "dispatcher" => (DispatcherConfig.ofJson? j).map fun dispatcher ↦ { config with dispatcher }
  | "logging" => (LoggingConfig.ofJson? j).map fun logging ↦ { config with logging }
  | _ => some config

/-- The configuration of a document. -/
def ofJson? : Json → Option Config :=
  Json.struct fieldNames setField {}

/-- The document of a configuration. -/
def toJson (config : Config) : Json :=
  .obj [("audit", config.audit.toJson), ("dispatcher", config.dispatcher.toJson),
    ("logging", config.logging.toJson)]

end Config

end AuditTrail
