import AuditTrail.Proofs.Config.Overrides

/-!
# Two ways to a logging setup

The logging setup of a process comes from its variables directly, or from a configuration that the
variables have overridden.  The first way asks of each text at once what it names; the second way
puts the text into the configuration, whatever it is, and asks later.  Both come to the same: where
a text names nothing the standard value is taken, and where there is no text the configuration has
one that names the standard value.

The ways differ in the variables that they know.  Only the first one looks at the general variable
of log filters and at those for source locations and spans.  Only the second one looks at numbers,
and it fails if one of them cannot be read.
-/

namespace AuditTrail

variable {environment : Environment} {config : Config}

/-! ## Overriding with numbers that can be read -/

/-- Where every variable for a number holds one or is not set, overriding does not fail. -/
theorem Config.exists_override_eq (base : Config)
    (numbers : ∀ key ∈ numberKeys, environment.fault? key = none) :
    ∃ config, base.override environment = (config, none) := by
  have no_fault : (base.override environment).2 = none := by
    rw [snd_override]
    exact List.findSome?_eq_none_iff.mpr numbers
  exact ⟨_, Prod.ext rfl no_fault⟩

/-! ## Texts that name something -/

/-- To put a standard text in the place of a missing one is to take what it names if there is
none. -/
theorem getD_parse?_getD {β : Type} {parse? : String → Option β} {standard : String} {b : β}
    (parse_eq : parse? standard = some b) (text? : Option String) :
    (parse? (text?.getD standard)).getD b = (text?.bind parse?).getD b := by
  cases text? with
  | none =>
    rw [Option.getD_none, parse_eq]
    rfl
  | some text => rfl

theorem Log.Level.parse?_standard : parse? "info" = some .info := by
  decide +kernel

theorem Log.Format.parse?_standard : parse? "pretty" = some .pretty := by
  decide +kernel

/-! ## Both ways -/

namespace LogConfig

/-- The level that the variable of the library names, without regard to the general one. -/
def ownLevelOf (environment : Environment) : Log.Level :=
  ((environment.get? "BULWARK_LOG_LEVEL").bind Log.Level.parse?).getD .info

/-- The setup of the standard configuration under some variables is the one that they describe,
except for what only they know about. -/
theorem toLogConfig_of_isOverridden (overridden : config.IsOverridden environment {}) :
    config.logging.toLogConfig =
      { ofEnvironment environment with
        level := ownLevelOf environment
        sourceLocation := false
        spanEvents := false } := by
  have level_eq : (Log.Level.parse? config.logging.level).getD .info = ownLevelOf environment := by
    rw [overridden.level]
    exact getD_parse?_getD Log.Level.parse?_standard _
  have format_eq : (Log.Format.parse? config.logging.format).getD .pretty =
      (ofEnvironment environment).format := by
    rw [overridden.format]
    exact getD_parse?_getD Log.Format.parse?_standard _
  have file_eq : config.logging.file = (ofEnvironment environment).file :=
    overridden.file.trans (Option.or_none)
  have auditFile_eq : config.logging.auditFile = (ofEnvironment environment).auditFile :=
    overridden.auditFile.trans (Option.or_none)
  rw [LoggingConfig.toLogConfig, level_eq, format_eq, file_eq, auditFile_eq]

/-- The two setups are the same exactly if the general variable does not change the level and
neither source locations nor spans are asked for. -/
theorem toLogConfig_eq_iff (overridden : config.IsOverridden environment {}) :
    config.logging.toLogConfig = ofEnvironment environment ↔
      (ofEnvironment environment).level = ownLevelOf environment ∧
        (ofEnvironment environment).sourceLocation = false ∧
        (ofEnvironment environment).spanEvents = false := by
  rw [toLogConfig_of_isOverridden overridden]
  constructor
  · intro same
    exact ⟨congrArg level same.symm, congrArg sourceLocation same.symm,
      congrArg spanEvents same.symm⟩
  · obtain ⟨level, format, file, auditFile, source, spans⟩ := ofEnvironment environment
    rintro ⟨rfl, rfl, rfl⟩
    rfl

/-- Where the general variable is not set, the library's own one decides. -/
theorem levelOf_of_filter_eq_none (noFilter : environment.get? filterKey = none) :
    levelOf environment = ownLevelOf environment := by
  rw [levelOf, ownLevelOf, noFilter]
  cases environment.get? "BULWARK_LOG_LEVEL" <;> rfl

/-- **Both ways lead to the same setup.**  If neither the general variable of log filters nor those
for source locations and spans are set, and every variable for a number holds one or is not set,
then the standard configuration is overridden without a failure, and its logging setup is the one
that the variables describe, whatever texts the other variables hold. -/
theorem override_toLogConfig_eq (noFilter : environment.get? filterKey = none)
    (noSource : environment.get? "BULWARK_LOG_SOURCE" = none)
    (noSpans : environment.get? "BULWARK_LOG_SPANS" = none)
    (numbers : ∀ key ∈ Config.numberKeys, environment.fault? key = none) :
    ∃ config : Config, Config.override environment {} = (config, none) ∧
      config.logging.toLogConfig = ofEnvironment environment := by
  obtain ⟨config, override_eq⟩ := Config.exists_override_eq {} numbers
  have source_eq : (ofEnvironment environment).sourceLocation = false := by
    rw [ofEnvironment, noSource]
    rfl
  have spans_eq : (ofEnvironment environment).spanEvents = false := by
    rw [ofEnvironment, noSpans]
    rfl
  exact ⟨config, override_eq, (toLogConfig_eq_iff (Config.override_eq_iff.mp override_eq)).mpr
    ⟨levelOf_of_filter_eq_none noFilter, source_eq, spans_eq⟩⟩

/-- A level that there is not, a format in capitals, the empty name of a file, and a number. -/
def looseVariables : Environment :=
  .ofList [("BULWARK_LOG_LEVEL", "loud"), ("BULWARK_LOG_FORMAT", "JSON"),
    ("BULWARK_LOG_FILE", ""), ("BULWARK_DISPATCH_WORKERS", " 3 ")]

theorem override_toLogConfig_loose :
    looseVariables.get? filterKey = none ∧ looseVariables.get? "BULWARK_LOG_SOURCE" = none ∧
      looseVariables.get? "BULWARK_LOG_SPANS" = none ∧
      (∀ key ∈ Config.numberKeys, looseVariables.fault? key = none) ∧
      ofEnvironment looseVariables = { format := .json, file := some "" } ∧
      ∃ config : Config, Config.override looseVariables {} = (config, none) ∧
        config.logging.toLogConfig = ofEnvironment looseVariables := by
  have noFilter : looseVariables.get? filterKey = none := by decide +kernel
  have noSource : looseVariables.get? "BULWARK_LOG_SOURCE" = none := by decide +kernel
  have noSpans : looseVariables.get? "BULWARK_LOG_SPANS" = none := by decide +kernel
  have numbers : ∀ key ∈ Config.numberKeys, looseVariables.fault? key = none := by decide +kernel
  exact ⟨noFilter, noSource, noSpans, numbers, by decide +kernel,
    override_toLogConfig_eq noFilter noSource noSpans numbers⟩

end LogConfig

end AuditTrail
