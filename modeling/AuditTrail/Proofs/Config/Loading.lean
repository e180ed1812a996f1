import AuditTrail.Proofs.Config.Described
import AuditTrail.Proofs.Config.Overrides
import AuditTrail.Proofs.Config.Reload

/-!
# Loading in stages

Loading goes through four stages: the files of variables, the configuration file, the overrides and
a last check.  The variables after the first stage are those that the placeholders of the file are
replaced by and that override its settings.

What is loaded is described by the layers that it is made of, and nothing that uses it later on has
to make up for anything: its date format is one and its level and its format have names.  If nothing
is loaded, then the error is that of a stage before which no stage fails.
-/

namespace AuditTrail

open Yaml (Document)

namespace Config

variable {directory : Directory} {environment : Environment} {config : Config}

/-! ## The configuration file -/

/-- There is no configuration file. -/
def FileIsAbsent (directory : Directory) : Prop :=
  directory.find (.ofString fileName) = .missing ∨ directory.find (.ofString fileName) = .blocked

/-- What stands in place of the configuration file holds no text. -/
def FileIsUnreadable (directory : Directory) : Prop :=
  directory.find (.ofString fileName) = .directory ∨
    ∃ bytes, directory.find (.ofString fileName) = .file bytes ∧ Text.Utf8.toString? bytes = none

/-- The configuration file holds a text. -/
def FileHolds (directory : Directory) (s : String) : Prop :=
  ∃ bytes, directory.find (.ofString fileName) = .file bytes ∧ Text.Utf8.toString? bytes = some s

theorem file_cases (directory : Directory) :
    FileIsAbsent directory ∨ FileIsUnreadable directory ∨ ∃ s, FileHolds directory s := by
  cases found : directory.find (.ofString fileName) with
  | missing => exact .inl (.inl found)
  | blocked => exact .inl (.inr found)
  | directory => exact .inr (.inl (.inl found))
  | file bytes =>
    cases text_eq : Text.Utf8.toString? bytes with
    | none => exact .inr (.inl (.inr ⟨bytes, found, text_eq⟩))
    | some s => exact .inr (.inr ⟨s, bytes, found, text_eq⟩)

theorem loadFile_of_absent (absent : FileIsAbsent directory) :
    loadFile directory environment = .ok {} := by
  rw [loadFile]
  rcases absent with found | found <;> rw [found]

theorem loadFile_of_unreadable (unreadable : FileIsUnreadable directory) :
    loadFile directory environment = .error .unreadable := by
  rw [loadFile]
  rcases unreadable with found | ⟨bytes, found, text_eq⟩
  · rw [found]
    dsimp only
    rw [ofFile, found]
  · rw [found]
    dsimp only
    rw [ofFile, found]
    dsimp only
    rw [text_eq]

theorem loadFile_of_holds {s : String} (holds : FileHolds directory s) :
    loadFile directory environment = ofText environment s := by
  obtain ⟨bytes, found, text_eq⟩ := holds
  rw [loadFile, found]
  dsimp only
  rw [ofFile, found]
  dsimp only
  rw [text_eq]

/-- The configuration of a directory under some variables: the standard one if there is no file, and
otherwise a valid one that is described by the text of the file with its placeholders replaced. -/
inductive IsOfFile (directory : Directory) (environment : Environment) : Config → Prop
  | standard : FileIsAbsent directory → IsOfFile directory environment {}
  | described {s expanded config} : FileHolds directory s →
      Placeholder.expand environment s = .ok expanded → ofYaml expanded = .ok config →
      config.IsDescribedBy (.parse expanded) → config.IsValid →
      IsOfFile directory environment config

theorem loadFile_eq_ok_iff :
    loadFile directory environment = .ok config ↔ IsOfFile directory environment config := by
  constructor
  · intro load_eq
    rcases file_cases directory with absent | unreadable | ⟨s, holds⟩
    · cases (loadFile_of_absent absent).symm.trans load_eq
      exact .standard absent
    · cases (loadFile_of_unreadable unreadable).symm.trans load_eq
    · rw [loadFile_of_holds holds] at load_eq
      obtain ⟨expanded, expand_eq, yaml_eq, valid⟩ := ofText_eq_ok_iff.mp load_eq
      exact .described holds expand_eq yaml_eq (isDescribedBy_of_ofDocument yaml_eq) valid
  · rintro (absent | ⟨holds, expand_eq, yaml_eq, -, valid⟩)
    · exact loadFile_of_absent absent
    · rw [loadFile_of_holds holds]
      exact ofText_eq_ok_iff.mpr ⟨_, expand_eq, yaml_eq, valid⟩

/-- How the configuration file fails: at reading it, then at a placeholder, at the YAML and at last
at what the configuration is. -/
inductive FileFails (directory : Directory) (environment : Environment) : ConfigError → Prop
  | unreadable : FileIsUnreadable directory → FileFails directory environment .unreadable
  | placeholder {s name} : FileHolds directory s → Placeholder.expand environment s = .error name →
      FileFails directory environment (.variableNotFound name)
  | yaml {s expanded line} : FileHolds directory s →
      Placeholder.expand environment s = .ok expanded → ofYaml expanded = .error line →
      FileFails directory environment (.notYaml line)
  | invalid {s expanded config flaw} : FileHolds directory s →
      Placeholder.expand environment s = .ok expanded → ofYaml expanded = .ok config →
      config.flaw? = some flaw → FileFails directory environment (.invalid flaw)

theorem checked_eq_error_iff {error : ConfigError} :
    config.checked = .error error ↔ ∃ flaw, config.flaw? = some flaw ∧ error = .invalid flaw := by
  rw [checked]
  cases config.flaw? with
  | none => simp
  | some flaw => simp [eq_comm]

/-- What follows a step whose errors are renamed fails if the step does, or after it. -/
theorem mapError_bind_eq_error {α β ε ε' : Type} {x : Except ε α} {rename : ε → ε'}
    {f : α → Except ε' β} {error : ε'} :
    (x.mapError rename >>= f) = .error error ↔
      (∃ e, x = .error e ∧ error = rename e) ∨ ∃ a, x = .ok a ∧ f a = .error error := by
  cases x with
  | error e =>
    constructor
    · rintro ⟨⟩
      exact .inl ⟨e, rfl, rfl⟩
    · rintro (⟨_, ⟨⟩, rfl⟩ | ⟨_, ⟨⟩, -⟩)
      rfl
  | ok a =>
    constructor
    · exact fun eq ↦ .inr ⟨a, rfl, eq⟩
    · rintro (⟨_, ⟨⟩, -⟩ | ⟨_, ⟨⟩, eq⟩)
      exact eq

theorem loadFile_eq_error_iff {error : ConfigError} :
    loadFile directory environment = .error error ↔ FileFails directory environment error := by
  constructor
  · intro load_eq
    rcases file_cases directory with absent | unreadable | ⟨s, holds⟩
    · cases (loadFile_of_absent absent).symm.trans load_eq
    · cases (loadFile_of_unreadable unreadable).symm.trans load_eq
      exact .unreadable unreadable
    · rw [loadFile_of_holds holds, ofText] at load_eq
      rcases mapError_bind_eq_error.mp load_eq with ⟨name, expand_eq, rfl⟩ |
        ⟨expanded, expand_eq, load_eq⟩
      · exact .placeholder holds expand_eq
      rcases mapError_bind_eq_error.mp load_eq with ⟨line, yaml_eq, rfl⟩ |
        ⟨config, yaml_eq, checked_eq⟩
      · exact .yaml holds expand_eq yaml_eq
      · obtain ⟨flaw, flaw_eq, rfl⟩ := checked_eq_error_iff.mp checked_eq
        exact .invalid holds expand_eq yaml_eq flaw_eq
  · rintro (unreadable | ⟨holds, expand_eq⟩ | ⟨holds, expand_eq, yaml_eq⟩ |
      ⟨holds, expand_eq, yaml_eq, flaw_eq⟩)
    · exact loadFile_of_unreadable unreadable
    all_goals rw [loadFile_of_holds holds, ofText]
    · exact mapError_bind_eq_error.mpr (.inl ⟨_, expand_eq, rfl⟩)
    · exact mapError_bind_eq_error.mpr (.inr ⟨_, expand_eq,
        mapError_bind_eq_error.mpr (.inl ⟨_, yaml_eq, rfl⟩)⟩)
    · exact mapError_bind_eq_error.mpr (.inr ⟨_, expand_eq,
        mapError_bind_eq_error.mpr (.inr ⟨_, yaml_eq,
          checked_eq_error_iff.mpr ⟨_, flaw_eq, rfl⟩⟩)⟩)

/-! ## Behind the configuration file -/

/-- The outcome of the last two stages. -/
def finish (environment : Environment) (base : Config) : Except LoadError Config :=
  match base.override environment with
  | (config, none) => config.checked.mapError .config
  | (_, some error) => .error (.environment error)

variable {base : Config} {after : Environment}

theorem finish_eq_ok_iff : base.finish environment = .ok config ↔
    config.IsOverridden environment base ∧ config.IsValid := by
  constructor
  · intro finish_eq
    rw [finish] at finish_eq
    split at finish_eq
    next overridden override_eq =>
      cases checked_eq : overridden.checked with
      | error error =>
        rw [checked_eq] at finish_eq
        cases finish_eq
      | ok checked =>
        rw [checked_eq] at finish_eq
        cases finish_eq
        obtain ⟨valid, rfl⟩ := checked_eq_ok_iff.mp checked_eq
        exact ⟨override_eq_iff.mp override_eq, valid⟩
    next => cases finish_eq
  · rintro ⟨overridden, valid⟩
    rw [finish, override_eq_iff.mpr overridden]
    dsimp only
    rw [checked_eq_ok_iff.mpr ⟨valid, rfl⟩]
    rfl

/-- The last two stages fail at the first variable with a fault, or at what the configuration has
become. -/
theorem finish_eq_error_iff {error : LoadError} : base.finish environment = .error error ↔
    (∃ fault, numberKeys.findSome? environment.fault? = some fault ∧ error = .environment fault) ∨
      ∃ (config : Config) (flaw : ConfigFlaw), config.IsOverridden environment base ∧
        config.flaw? = some flaw ∧ error = .config (.invalid flaw) := by
  rw [finish, ← snd_override environment base]
  simp only [← override_eq_iff]
  rcases base.override environment with ⟨overridden, _ | fault⟩
  · dsimp only
    constructor
    · intro checked_eq
      cases flaw_eq : overridden.flaw? with
      | none =>
        rw [checked, flaw_eq] at checked_eq
        cases checked_eq
      | some flaw =>
        rw [checked, flaw_eq] at checked_eq
        cases checked_eq
        exact .inr ⟨overridden, flaw, rfl, flaw_eq, rfl⟩
    · rintro (⟨_, ⟨⟩, -⟩ | ⟨_, flaw, ⟨⟩, flaw_eq, rfl⟩)
      rw [checked, flaw_eq]
      rfl
  · constructor
    · rintro ⟨⟩
      exact .inl ⟨fault, rfl, rfl⟩
    · rintro (⟨_, ⟨⟩, rfl⟩ | ⟨_, _, ⟨⟩, -⟩)
      rfl

theorem load_of_init (init_eq : environment.init directory = (after, none)) :
    load directory environment =
      (loadFile directory after).mapError .config >>= finish after := by
  rw [load, init_eq]
  dsimp only
  congr 1
  funext base
  rw [finish]
  rcases base.override after with ⟨overridden, _ | fault⟩ <;> rfl

theorem load_of_init_error {error : EnvironmentError}
    (init_eq : environment.init directory = (after, some error)) :
    load directory environment = .error (.environment error) := by
  rw [load, init_eq]
  rfl

/-! ## What a valid configuration is good for -/

namespace IsValid

theorem flaws_eq_none (valid : config.IsValid) :
    ConfigFlaw.ofDateFormat config.audit.dateFormat = none ∧
      ConfigFlaw.ofLevel config.logging.level = none ∧
      ConfigFlaw.ofFormat config.logging.format = none := by
  simp only [IsValid, flaw?, Option.orElse_eq_orElse, Option.orElse_eq_or, Option.or_eq_none_iff]
    at valid
  exact ⟨valid.2.2.2.1, valid.2.2.2.2.2.2⟩

/-- Records can be rendered with a valid configuration. -/
theorem exists_settings (valid : config.IsValid) :
    ∃ settings, RenderSettings.ofConfig config.audit = .ok settings := by
  have no_flaw := valid.flaws_eq_none.1
  have parses : (DateFormat.parse? config.audit.dateFormat).isSome := by
    rw [DateFormat.isSome_parse?]
    rw [ConfigFlaw.ofDateFormat] at no_flaw
    split_ifs at no_flaw with blank unknown
    exact Option.ne_none_iff_isSome.mp fun eq ↦ unknown (eq ▸ rfl)
  obtain ⟨dateFormat, parse_eq⟩ := Option.isSome_iff_exists.mp parses
  rw [RenderSettings.ofConfig, parse_eq]
  exact ⟨_, rfl⟩

/-- The level of a valid configuration has a name, so that no other one takes its place. -/
theorem parse?_level (valid : config.IsValid) :
    Log.Level.parse? config.logging.level = some config.logging.toLogConfig.level := by
  have no_flaw := valid.flaws_eq_none.2.1
  rw [LoggingConfig.toLogConfig]
  cases parse_eq : Log.Level.parse? config.logging.level with
  | none =>
    rw [ConfigFlaw.ofLevel, parse_eq] at no_flaw
    cases no_flaw
  | some level => rfl

/-- The format of a valid configuration has a name, so that no other one takes its place. -/
theorem parse?_format (valid : config.IsValid) :
    Log.Format.parse? config.logging.format = some config.logging.toLogConfig.format := by
  have no_flaw := valid.flaws_eq_none.2.2
  rw [LoggingConfig.toLogConfig]
  cases parse_eq : Log.Format.parse? config.logging.format with
  | none =>
    rw [ConfigFlaw.ofFormat, parse_eq] at no_flaw
    cases no_flaw
  | some format => rfl

end IsValid

/-! ## All stages -/

/-- A configuration is what a directory makes of some variables: the files of variables have been
read, the configuration file gives a base under the variables as they are after that, and the
variables override the base.  It is valid, records can be rendered with it, and it names its level
and its format. -/
structure IsLoaded (directory : Directory) (environment after : Environment)
    (base config : Config) : Prop where
  init : environment.init directory = (after, none)
  file : IsOfFile directory after base
  overridden : config.IsOverridden after base
  valid : config.IsValid
  renders : ∃ settings, RenderSettings.ofConfig config.audit = .ok settings
  level : Log.Level.parse? config.logging.level = some config.logging.toLogConfig.level
  format : Log.Format.parse? config.logging.format = some config.logging.toLogConfig.format

/-- How loading fails, stage by stage: every stage but the first one has all of the earlier ones
behind it. -/
inductive LoadFails (directory : Directory) (environment : Environment) : LoadError → Prop
  | variables {after error} : environment.init directory = (after, some error) →
      LoadFails directory environment (.environment error)
  | file {after error} : environment.init directory = (after, none) →
      FileFails directory after error → LoadFails directory environment (.config error)
  | override {after base fault} : environment.init directory = (after, none) →
      IsOfFile directory after base → numberKeys.findSome? after.fault? = some fault →
      LoadFails directory environment (.environment fault)
  | invalid {after flaw} {base result : Config} : environment.init directory = (after, none) →
      IsOfFile directory after base → result.IsOverridden after base → result.flaw? = some flaw →
      LoadFails directory environment (.config (.invalid flaw))

/-- **Loading.**  What is loaded is the configuration that is made of all layers in their order, and
if nothing is loaded, the error is the one of the first stage that fails. -/
theorem load_iff (directory : Directory) (environment : Environment) :
    (∀ config, load directory environment = .ok config ↔
      ∃ after base, IsLoaded directory environment after base config) ∧
    ∀ error, load directory environment = .error error ↔ LoadFails directory environment error := by
  constructor
  · intro config
    constructor
    · intro load_eq
      rcases init_eq : environment.init directory with ⟨after, _ | error⟩
      · rw [load_of_init init_eq, mapError_bind_eq_ok] at load_eq
        obtain ⟨base, file_eq, finish_eq⟩ := load_eq
        obtain ⟨overridden, valid⟩ := finish_eq_ok_iff.mp finish_eq
        exact ⟨after, base, init_eq, loadFile_eq_ok_iff.mp file_eq, overridden, valid,
          valid.exists_settings, valid.parse?_level, valid.parse?_format⟩
      · cases (load_of_init_error init_eq).symm.trans load_eq
    · rintro ⟨after, base, loaded⟩
      rw [load_of_init loaded.init, mapError_bind_eq_ok]
      exact ⟨base, loadFile_eq_ok_iff.mpr loaded.file,
        finish_eq_ok_iff.mpr ⟨loaded.overridden, loaded.valid⟩⟩
  · intro error
    constructor
    · intro load_eq
      rcases init_eq : environment.init directory with ⟨after, _ | error⟩
      · rw [load_of_init init_eq] at load_eq
        rcases mapError_bind_eq_error.mp load_eq with ⟨error, file_eq, rfl⟩ |
          ⟨base, file_eq, finish_eq⟩
        · exact .file init_eq (loadFile_eq_error_iff.mp file_eq)
        rcases finish_eq_error_iff.mp finish_eq with ⟨fault, fault_eq, rfl⟩ |
          ⟨config, flaw, overridden, flaw_eq, rfl⟩
        · exact .override init_eq (loadFile_eq_ok_iff.mp file_eq) fault_eq
        · exact .invalid init_eq (loadFile_eq_ok_iff.mp file_eq) overridden flaw_eq
      · cases (load_of_init_error init_eq).symm.trans load_eq
        exact .variables init_eq
    · rintro (init_eq | ⟨init_eq, fails⟩ | ⟨init_eq, file, fault_eq⟩ |
        ⟨init_eq, file, overridden, flaw_eq⟩)
      · exact load_of_init_error init_eq
      all_goals rw [load_of_init init_eq, mapError_bind_eq_error]
      · exact .inl ⟨_, loadFile_eq_error_iff.mpr fails, rfl⟩
      · exact .inr ⟨_, loadFile_eq_ok_iff.mpr file,
          finish_eq_error_iff.mpr (.inl ⟨_, fault_eq, rfl⟩)⟩
      · exact .inr ⟨_, loadFile_eq_ok_iff.mpr file,
          finish_eq_error_iff.mpr (.inr ⟨_, _, overridden, flaw_eq, rfl⟩)⟩

/-- A directory with a placeholder in its configuration file and the variable for it in another
file. -/
def layeredDirectory : Directory :=
  [([".env"], .file (Text.Utf8.ofString "DEPTH=9\n")),
    ([".bulwark", "audit.yaml"],
      .file (Text.Utf8.ofString "audit:\n  max_depth: $\x7bDEPTH\x7d\n"))]

example : (load layeredDirectory [("BULWARK_AUDIT_PAYLOAD_LIMIT", " 10 ")]).toOption =
    some { audit := { payloadLimit := 10, maxDepth := 9 } } := by
  decide +kernel

end Config

end AuditTrail
