import AuditTrail.Config.Directory
import AuditTrail.Config.EnvFile
import AuditTrail.Config.OfYaml
import AuditTrail.Config.Placeholder
import AuditTrail.Config.ToYaml

/-!
# Loading configurations

A project directory has a configuration file and files of variables, and the variables of the
process take precedence over both. Loading reads the files of variables, then the configuration
file with its placeholders replaced, lets variables override settings and checks the result.
-/

namespace AuditTrail

/-- Why a configuration file gives no configuration. -/
inductive ConfigError where
  | notFound (path : String)
  | unreadable
  /-- The text is no configuration, in some line if that can be told. -/
  | notYaml (line : Option Nat)
  | invalid (flaw : ConfigFlaw)
  /-- A placeholder names a variable that is not set. -/
  | variableNotFound (name : String)
  deriving DecidableEq, Repr

namespace ConfigError

/-- The message of an error, without what it says about the files or texts themselves. -/
def message : ConfigError → String
  | notFound path => "config file not found: " ++ path
  | unreadable => "failed to read config"
  | notYaml line =>
    "invalid YAML at line " ++
      match line with
      | some n => toString n
      | none => "unknown"
  | invalid flaw => "validation error: " ++ flaw.message
  | variableNotFound name => "environment variable not found: " ++ name

end ConfigError

/-- Why variables cannot be used. -/
inductive EnvironmentError where
  | notSet (name : String)
  | notInteger (name value : String)
  | unreadable (file : String)
  deriving DecidableEq, Repr

namespace EnvironmentError

/-- The message of an error, without what it says about the files themselves. -/
def message : EnvironmentError → String
  | notSet name => "required environment variable not set: " ++ name
  | notInteger name value =>
    "invalid value for " ++ name ++ ": expected integer, got '" ++ value ++ "'"
  | unreadable file => "failed to read " ++ file

end EnvironmentError

/-- Why a project directory gives no configuration. -/
inductive LoadError where
  | config (error : ConfigError)
  | environment (error : EnvironmentError)
  deriving DecidableEq, Repr

/-! ## Variables -/

namespace Environment

/-- The value of a variable that has to be set. -/
def require (environment : Environment) (name : String) : Except EnvironmentError String :=
  match environment.get? name with
  | some value => .ok value
  | none => .error (.notSet name)

/-- The number that a variable holds between blanks, if the variable is set. -/
def number? {α : Type} (parse? : String → Option α) (environment : Environment) (name : String) :
    Except EnvironmentError (Option α) :=
  match environment.get? name with
  | none => .ok none
  | some value =>
    match parse? (Text.trim value) with
    | some n => .ok (some n)
    | none => .error (.notInteger name value)

/-- A number that a setting can hold. -/
def setting? (environment : Environment) (name : String) :
    Except EnvironmentError (Option Nat) :=
  environment.number? (Numeral.natBelow? Config.numberBound) name

/-- The variables after a file of variables of a directory. A missing file changes nothing. -/
def loadFile (directory : Directory) (file : String) (environment : Environment) :
    Environment × Option EnvironmentError :=
  match directory.find (.ofString file) with
  | .missing => (environment, none)
  | .file bytes =>
    let (environment, complete) := EnvFile.load environment bytes
    (environment, if complete then none else some (.unreadable file))
  | _ => (environment, some (.unreadable file))

/-- The variables after some files of variables, each of which `name` may find from the variables
before it, up to the first one that cannot be read. -/
def loadFiles (directory : Directory) :
    List (Environment → Option String) → Environment → Environment × Option EnvironmentError
  | [], environment => (environment, none)
  | name :: rest, environment =>
    match name environment with
    | none => loadFiles directory rest environment
    | some file =>
      match loadFile directory file environment with
      | (environment, none) => loadFiles directory rest environment
      | failed => failed

/-- The variable that names the surroundings of the process. -/
def surroundings : String :=
  "BULWARK_ENV"

/-- The files of variables, the most particular first. -/
def fileNames : List (Environment → Option String) :=
  [fun _ ↦ some ".env.local",
    fun environment ↦ (environment.get? surroundings).map (".env." ++ ·),
    fun _ ↦ some ".env"]

/-- The variables after the files of variables of a directory. -/
def init (directory : Directory) (environment : Environment) :
    Environment × Option EnvironmentError :=
  loadFiles directory fileNames environment

end Environment

/-! ## Overrides -/

namespace Config

/-- A setting that a variable of the process overrides. -/
structure Override where
  key : String
  apply : Environment → String → Config → Except EnvironmentError Config

/-- The override of a number. -/
def numberOverride (key : String) (set : Nat → Config → Config) : Override where
  key
  apply environment name config := do
    match ← environment.setting? name with
    | some n => return set n config
    | none => return config

/-- The override of a text. -/
def textOverride (key : String) (set : String → Config → Config) : Override where
  key
  apply environment name config :=
    match environment.get? name with
    | some s => .ok (set s config)
    | none => .ok config

/-- All overrides, in the order in which they are applied. -/
def overrides : List Override :=
  [numberOverride "BULWARK_AUDIT_PAYLOAD_LIMIT"
      fun n config ↦ { config with audit := { config.audit with payloadLimit := n } },
    numberOverride "BULWARK_AUDIT_PREVIEW_LIMIT"
      fun n config ↦ { config with audit := { config.audit with previewLimit := n } },
    numberOverride "BULWARK_DISPATCH_WORKERS"
      fun n config ↦ { config with dispatcher := { config.dispatcher with workers := n } },
    numberOverride "BULWARK_DISPATCH_QUEUE"
      fun n config ↦ { config with dispatcher := { config.dispatcher with queueCapacity := n } },
    textOverride "BULWARK_LOG_LEVEL"
      fun s config ↦ { config with logging := { config.logging with level := s } },
    textOverride "BULWARK_LOG_FORMAT"
      fun s config ↦ { config with logging := { config.logging with format := s } },
    textOverride "BULWARK_LOG_FILE"
      fun s config ↦ { config with logging := { config.logging with file := some s } },
    textOverride "BULWARK_AUDIT_LOG_FILE"
      fun s config ↦ { config with logging := { config.logging with auditFile := some s } }]

/-- The configuration after some overrides, up to the first one that fails. -/
def overrideWith (environment : Environment) :
    List Override → Config → Config × Option EnvironmentError
  | [], config => (config, none)
  | setting :: rest, config =>
    match setting.apply environment setting.key config with
    | .ok config => overrideWith environment rest config
    | .error error => (config, some error)

/-- The configuration under the variables of a process, and the failure that ends overriding. -/
def override (environment : Environment) (config : Config) : Config × Option EnvironmentError :=
  overrideWith environment overrides config

/-! ## Files -/

/-- A valid configuration, or the flaw of one that is not. -/
def checked (config : Config) : Except ConfigError Config :=
  match config.flaw? with
  | none => .ok config
  | some flaw => .error (.invalid flaw)

/-- The configuration of a text with placeholders. -/
def ofText (environment : Environment) (s : String) : Except ConfigError Config := do
  let expanded ← (Placeholder.expand environment s).mapError .variableNotFound
  let config ← (Config.ofYaml expanded).mapError .notYaml
  config.checked

/-- The configuration of a file that has to exist. -/
def ofFile (directory : Directory) (environment : Environment) (path : String) :
    Except ConfigError Config :=
  match directory.find (.ofString path) with
  | .missing | .blocked => .error (.notFound path)
  | .directory => .error .unreadable
  | .file bytes =>
    match Text.Utf8.toString? bytes with
    | some s => ofText environment s
    | none => .error .unreadable

/-- The configuration file of a project directory. -/
def fileName : String :=
  ".bulwark/audit.yaml"

/-- The configuration file's configuration, or the standard one if there is no file. -/
def loadFile (directory : Directory) (environment : Environment) : Except ConfigError Config :=
  match directory.find (.ofString fileName) with
  | .missing | .blocked => .ok {}
  | _ => ofFile directory environment fileName

/-- The directory with a configuration saved in its configuration file, which is made along with its
directory or replaced. -/
def save (directory : Directory) (config : Config) : Except ConfigError Directory :=
  match directory.find (.ofString fileName) with
  | .missing | .file _ =>
    .ok (directory.insert (.ofString fileName) (.file (Text.Utf8.ofString config.toYaml)))
  | .blocked | .directory => .error .unreadable

/-- The configuration of a project directory and the variables of a process. -/
def load (directory : Directory) (environment : Environment) : Except LoadError Config := do
  let (environment, error) := environment.init directory
  if let some error := error then .error (.environment error)
  let config ← (loadFile directory environment).mapError .config
  let (config, error) := config.override environment
  if let some error := error then .error (.environment error)
  config.checked.mapError .config

end Config

end AuditTrail
