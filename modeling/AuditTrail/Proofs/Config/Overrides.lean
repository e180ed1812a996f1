import AuditTrail.Config.Load
import AuditTrail.Proofs.Projection.Obstacle

/-!
# Settings and variables

Eight settings of a configuration can be overridden by variables.  A number that a variable holds is
read between its blanks, a text is taken as it is, and a variable that is not set leaves the setting
alone.  Overriding fails if and only if one of four variables is set and holds no number, and it
does so at the first of them, whatever the configuration is.
-/

namespace AuditTrail

namespace Environment

variable {environment : Environment} {name : String}

/-- A number is the one that a variable holds between blanks, or another one if the variable is not
set. -/
def Sets (environment : Environment) (name : String) (otherwise n : Nat) : Prop :=
  match environment.get? name with
  | some text => Numeral.natBelow? Config.numberBound (Text.trim text) = some n
  | none => n = otherwise

/-- What is wrong with a variable for a number: it is set and holds none. -/
def fault? (environment : Environment) (name : String) : Option EnvironmentError :=
  match environment.get? name with
  | some text =>
    if (Numeral.natBelow? Config.numberBound (Text.trim text)).isNone then
      some (.notInteger name text)
    else none
  | none => none

end Environment

namespace Config

/-- A configuration is another one under some variables: eight of its settings are overridden, and
four are not. -/
structure IsOverridden (environment : Environment) (config base : Config) : Prop where
  payloadLimit : environment.Sets "BULWARK_AUDIT_PAYLOAD_LIMIT" base.audit.payloadLimit
    config.audit.payloadLimit
  previewLimit : environment.Sets "BULWARK_AUDIT_PREVIEW_LIMIT" base.audit.previewLimit
    config.audit.previewLimit
  workers : environment.Sets "BULWARK_DISPATCH_WORKERS" base.dispatcher.workers
    config.dispatcher.workers
  queueCapacity : environment.Sets "BULWARK_DISPATCH_QUEUE" base.dispatcher.queueCapacity
    config.dispatcher.queueCapacity
  level : config.logging.level =
    (environment.get? "BULWARK_LOG_LEVEL").getD base.logging.level
  format : config.logging.format =
    (environment.get? "BULWARK_LOG_FORMAT").getD base.logging.format
  file : config.logging.file =
    (environment.get? "BULWARK_LOG_FILE").or base.logging.file
  auditFile : config.logging.auditFile =
    (environment.get? "BULWARK_AUDIT_LOG_FILE").or base.logging.auditFile
  excludedFields : config.audit.excludedFields = base.audit.excludedFields
  dateFormat : config.audit.dateFormat = base.audit.dateFormat
  underLimitPolicy : config.audit.underLimitPolicy = base.audit.underLimitPolicy
  maxDepth : config.audit.maxDepth = base.audit.maxDepth

/-- The variables that override numbers, in the order in which they are looked at. -/
def numberKeys : List String :=
  ["BULWARK_AUDIT_PAYLOAD_LIMIT", "BULWARK_AUDIT_PREVIEW_LIMIT", "BULWARK_DISPATCH_WORKERS",
    "BULWARK_DISPATCH_QUEUE"]

variable {environment : Environment} {config after : Config} {key : String} {rest : List Override}

/-! ## One override -/

section Number

variable {set : Nat → Config → Config}

/-- A number is overridden if the variable holds one or is not set. -/
theorem numberOverride_eq_ok (get : Config → Nat)
    (set_get : ∀ config, set (get config) config = config) :
    (numberOverride key set).apply environment key config = .ok after ↔
      ∃ n, environment.Sets key (get config) n ∧ set n config = after := by
  simp only [numberOverride, Environment.setting?, Environment.number?, Environment.Sets]
  cases environment.get? key with
  | none =>
    constructor
    · rintro ⟨⟩
      exact ⟨get config, rfl, set_get config⟩
    · rintro ⟨_, rfl, rfl⟩
      exact congrArg Except.ok (set_get config).symm
  | some text =>
    dsimp only
    cases Numeral.natBelow? numberBound (Text.trim text) with
    | none => exact ⟨nofun, nofun⟩
    | some n =>
      constructor
      · rintro ⟨⟩
        exact ⟨n, rfl, rfl⟩
      · rintro ⟨_, ⟨⟩, rfl⟩
        rfl

/-- Overriding a number fails if the variable has a fault. -/
theorem numberOverride_eq_error {error : EnvironmentError} :
    (numberOverride key set).apply environment key config = .error error ↔
      environment.fault? key = some error := by
  simp only [numberOverride, Environment.setting?, Environment.number?, Environment.fault?]
  cases environment.get? key with
  | none => exact ⟨nofun, nofun⟩
  | some text =>
    dsimp only
    cases Numeral.natBelow? numberBound (Text.trim text) with
    | none =>
      constructor
      · rintro ⟨⟩
        rfl
      · rintro ⟨⟩
        rfl
    | some n => exact ⟨nofun, nofun⟩

theorem overrideWith_number_iff (get : Config → Nat)
    (set_get : ∀ config, set (get config) config = config) :
    overrideWith environment (numberOverride key set :: rest) config = (after, none) ↔
      ∃ n, environment.Sets key (get config) n ∧
        overrideWith environment rest (set n config) = (after, none) := by
  have key_eq : (numberOverride key set).key = key := rfl
  rw [overrideWith, key_eq]
  constructor
  · intro eq
    split at eq
    next apply_eq =>
      obtain ⟨n, sets, rfl⟩ := (numberOverride_eq_ok get set_get).mp apply_eq
      exact ⟨n, sets, eq⟩
    next => cases (Prod.mk.inj eq).2
  · rintro ⟨n, sets, eq⟩
    rw [(numberOverride_eq_ok get set_get).mpr ⟨n, sets, rfl⟩]
    exact eq

/-- A fault of the variable comes before all that follows. -/
theorem snd_overrideWith_number {keys : List String}
    (rest_eq : ∀ config,
      (overrideWith environment rest config).2 = keys.findSome? environment.fault?)
    (config : Config) :
    (overrideWith environment (numberOverride key set :: rest) config).2 =
      (key :: keys).findSome? environment.fault? := by
  have key_eq : (numberOverride key set).key = key := rfl
  rw [overrideWith, key_eq, List.findSome?_cons]
  cases fault_eq : environment.fault? key with
  | none =>
    split
    next between _ => exact rest_eq between
    next apply_eq => cases fault_eq.symm.trans (numberOverride_eq_error.mp apply_eq)
  | some error =>
    rw [numberOverride_eq_error.mpr fault_eq]

end Number

section Text

variable {set : String → Config → Config}

/-- A text is overridden if the variable is set, and this does not fail. -/
theorem overrideWith_text {result : Config}
    (result_eq : ((environment.get? key).elim config fun s ↦ set s config) = result) :
    overrideWith environment (textOverride key set :: rest) config =
      overrideWith environment rest result := by
  have apply_eq : (textOverride key set).apply environment key config = .ok result := by
    rw [← result_eq]
    simp only [textOverride]
    cases environment.get? key <;> rfl
  have key_eq : (textOverride key set).key = key := rfl
  rw [overrideWith, key_eq, apply_eq]

theorem snd_overrideWith_text {faults : Option EnvironmentError}
    (rest_eq : ∀ config, (overrideWith environment rest config).2 = faults) (config : Config) :
    (overrideWith environment (textOverride key set :: rest) config).2 = faults := by
  rw [overrideWith_text rfl]
  exact rest_eq _

end Text

/-! ## All overrides -/

/-- Overriding fails at the first of the variables for numbers that has a fault. -/
theorem snd_override (environment : Environment) (config : Config) :
    (config.override environment).2 = numberKeys.findSome? environment.fault? := by
  have texts_eq (config : Config) : (overrideWith environment (overrides.drop 4) config).2 = none :=
    snd_overrideWith_text (snd_overrideWith_text (snd_overrideWith_text
      (snd_overrideWith_text fun _ ↦ rfl))) config
  exact snd_overrideWith_number (snd_overrideWith_number (snd_overrideWith_number
    (snd_overrideWith_number texts_eq))) config

/-- The texts that variables override are those of the variables that are set. -/
theorem overrideWith_texts (environment : Environment) (config : Config) :
    overrideWith environment (overrides.drop 4) config =
      ({ config with logging := {
          level := (environment.get? "BULWARK_LOG_LEVEL").getD config.logging.level
          format := (environment.get? "BULWARK_LOG_FORMAT").getD config.logging.format
          file := (environment.get? "BULWARK_LOG_FILE").or config.logging.file
          auditFile := (environment.get? "BULWARK_AUDIT_LOG_FILE").or config.logging.auditFile } },
        none) := by
  simp only [overrides, List.drop_succ_cons, List.drop_zero]
  rw [overrideWith_text rfl, overrideWith_text rfl, overrideWith_text rfl, overrideWith_text rfl]
  cases environment.get? "BULWARK_LOG_LEVEL" <;> cases environment.get? "BULWARK_LOG_FORMAT" <;>
    cases environment.get? "BULWARK_LOG_FILE" <;>
    cases environment.get? "BULWARK_AUDIT_LOG_FILE" <;> rfl

/-- A configuration is overridden without a failure to exactly what the variables make of it. -/
theorem override_eq_iff :
    config.override environment = (after, none) ↔ after.IsOverridden environment config := by
  constructor
  · intro eq
    obtain ⟨payload, payload_sets, eq⟩ :=
      (overrideWith_number_iff (·.audit.payloadLimit) fun _ ↦ rfl).mp eq
    obtain ⟨preview, preview_sets, eq⟩ :=
      (overrideWith_number_iff (·.audit.previewLimit) fun _ ↦ rfl).mp eq
    obtain ⟨workers, workers_sets, eq⟩ :=
      (overrideWith_number_iff (·.dispatcher.workers) fun _ ↦ rfl).mp eq
    obtain ⟨capacity, capacity_sets, eq⟩ :=
      (overrideWith_number_iff (·.dispatcher.queueCapacity) fun _ ↦ rfl).mp eq
    cases (overrideWith_texts environment _).symm.trans eq
    exact ⟨payload_sets, preview_sets, workers_sets, capacity_sets, rfl, rfl, rfl, rfl, rfl, rfl,
      rfl, rfl⟩
  · intro overridden
    refine (overrideWith_number_iff (·.audit.payloadLimit) fun _ ↦ rfl).mpr
      ⟨_, overridden.payloadLimit, ?_⟩
    refine (overrideWith_number_iff (·.audit.previewLimit) fun _ ↦ rfl).mpr
      ⟨_, overridden.previewLimit, ?_⟩
    refine (overrideWith_number_iff (·.dispatcher.workers) fun _ ↦ rfl).mpr
      ⟨_, overridden.workers, ?_⟩
    refine (overrideWith_number_iff (·.dispatcher.queueCapacity) fun _ ↦ rfl).mpr
      ⟨_, overridden.queueCapacity, ?_⟩
    refine (overrideWith_texts environment _).trans ?_
    obtain ⟨-, -, -, -, level, format, file, auditFile, excluded, date, policy, depth⟩ := overridden
    dsimp only
    rw [← level, ← format, ← file, ← auditFile, ← excluded, ← date, ← policy, ← depth]

end Config

end AuditTrail
