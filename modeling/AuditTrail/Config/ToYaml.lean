import AuditTrail.Config.Basic
import AuditTrail.Yaml.ScalarText

/-!
# Writing configurations in YAML

The saved form of a configuration: a block mapping with all settings in a fixed order.
-/

namespace AuditTrail

namespace Yaml

/-- The indentation of what continues a setting. -/
def continuation : Nat :=
  4

/-- A line of some characters, which may end with a line break of their own. -/
def line (cs : List Char) : List Char :=
  if cs.getLast?.any isBreak then cs else cs ++ ['\n']

/-- A setting with the written form of its value. -/
def setting (name : String) (value : List Char) : List Char :=
  line ("  ".toList ++ name.toList ++ ": ".toList ++ value)

/-- A setting that is a text. -/
def textSetting (name value : String) : List Char :=
  setting name (scalarChars continuation value)

/-- A setting that is a number. -/
def numberSetting (name : String) (value : Nat) : List Char :=
  setting name (Numeral.ofNat value)

/-- A setting that is a text or missing. -/
def textSetting? (name : String) : Option String → List Char
  | some value => textSetting name value
  | none => setting name "null".toList

/-- A setting that is a list of texts. -/
def listSetting (name : String) : List String → List Char
  | [] => setting name "[]".toList
  | items =>
    line ("  ".toList ++ name.toList ++ [':']) ++
      items.flatMap fun item ↦ line ("  - ".toList ++ scalarChars continuation item)

end Yaml

open Yaml

/-- The settings of rendering. -/
def AuditConfig.toYaml (config : AuditConfig) : List Char :=
  line "audit:".toList ++
    numberSetting "payload_limit_bytes" config.payloadLimit ++
    numberSetting "preview_limit_bytes" config.previewLimit ++
    listSetting "excluded_fields" config.excludedFields ++
    textSetting "date_format" config.dateFormat ++
    textSetting "under_limit_policy" config.underLimitPolicy.name ++
    numberSetting "max_depth" config.maxDepth

/-- The settings of the workers. -/
def DispatcherConfig.toYaml (config : DispatcherConfig) : List Char :=
  line "dispatcher:".toList ++
    numberSetting "workers" config.workers ++
    numberSetting "queue_capacity" config.queueCapacity

/-- The settings of logging. -/
def LoggingConfig.toYaml (config : LoggingConfig) : List Char :=
  line "logging:".toList ++
    textSetting "level" config.level ++
    textSetting "format" config.format ++
    textSetting? "file" config.file ++
    textSetting? "audit_file" config.auditFile

/-- The saved form of a configuration. -/
def Config.toYaml (config : Config) : String :=
  String.ofList (config.audit.toYaml ++ config.dispatcher.toYaml ++ config.logging.toYaml)

end AuditTrail
