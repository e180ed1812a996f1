import Mathlib.Tactic.SplitIfs
import AuditTrail.Config.OfYaml
import AuditTrail.Proofs.Projection.Obstacle

/-!
# What a configuration document says

The reader of a configuration goes through the names of a mapping and changes one setting after the
other.  What comes of it is said here setting by setting: a setting is what its node is read as, and
where the document has no such node, or not the section that it would stand in, it has its standard
value.  Nothing else in the document has a say in it.
-/

namespace AuditTrail

namespace Yaml

open Read (within)

variable {α β : Type}

theorem within_eq_ok {line : Nat} {read : Read α} {a : α} :
    read.within line = .ok a ↔ read = .ok a := by
  rw [Read.within.eq_def]
  split
  · exact iff_of_false nofun nofun
  · exact Iff.rfl

namespace Document

variable {document : Document} {field : String → Option (Node → α → Read α)} {name : String}
  {read : Node → Read β} {get : α → β}

/-! ## Nodes by their names -/

/-- The first value under a name, among keys and values in turn. -/
def valueAt? (document : Document) (name : String) : List Node → Option Node
  | key :: value :: rest =>
    if (document.text key).toOption = some name then some value else document.valueAt? name rest
  | _ => none

theorem valueAt?_cons {key value : Node} {rest : List Node} {other : String}
    (text_eq : document.text key = .ok other) :
    document.valueAt? name (key :: value :: rest) =
      if other = name then some value else document.valueAt? name rest := by
  simp only [valueAt?, text_eq, Except.toOption, Option.some_inj]

/-- The value under a name of a mapping. -/
def member? (document : Document) (name : String) (node : Node) : Option Node :=
  match document.follow node with
  | .mapping _ _ _ children => document.valueAt? name children
  | _ => none

/-- The value under a name of a section of a document. -/
def setting? (document : Document) (part name : String) : Option Node :=
  (document.root.bind (document.member? part)).bind (document.member? name)

/-- A value is what a node is read as, or the standard one if there is no node. -/
def Gives (node : Option Node) (read : Node → Read β) (standard value : β) : Prop :=
  match node with
  | some node => read node = .ok value
  | none => value = standard

/-! ## Settings of a mapping -/

/-- Of the names that a mapping may have, one sets a part of the result and no other one does. -/
structure IsSetting (field : String → Option (Node → α → Read α)) (name : String)
    (read : Node → Read β) (get : α → β) : Prop where
  known : (field name).isSome
  changes : ∀ {other set node a b}, field other = some set → set node a = .ok b →
    if other = name then read node = .ok (get b) else get b = get a

/-- A key and its value are passed over, or they change the result under a name that is new. -/
theorem members_cons {key value : Node} {rest : List Node} {seen : List String} {a b : α}
    (members_eq : document.members field seen (key :: value :: rest) a = .ok b) :
    ∃ other, document.text key = .ok other ∧
      ((∃ set between, field other = some set ∧ other ∉ seen ∧ set value a = .ok between ∧
          document.members field (other :: seen) rest between = .ok b) ∨
        field other = none ∧ document.members field seen rest a = .ok b) := by
  rw [members] at members_eq
  obtain ⟨other, text_eq, members_eq⟩ := bind_eq_ok.mp members_eq
  refine ⟨other, text_eq, ?_⟩
  split at members_eq
  next set set_eq =>
    split_ifs at members_eq with was_seen
    obtain ⟨between, between_eq, members_eq⟩ := bind_eq_ok.mp members_eq
    exact .inl ⟨set, between, set_eq, was_seen, between_eq, members_eq⟩
  next unknown =>
    split_ifs at members_eq
    · cases members_eq
    · exact .inr ⟨unknown, members_eq⟩

/-- What has been set is not set again. -/
theorem get_eq_of_seen (setting : IsSetting field name read get) {children : List Node}
    {seen : List String} {a b : α} (was_seen : name ∈ seen)
    (members_eq : document.members field seen children a = .ok b) : get b = get a := by
  induction seen, children, a using members.induct with
  | case1 seen a =>
    cases members_eq
    rfl
  | case2 seen key a =>
    obtain ⟨_, -, members_eq⟩ := bind_eq_ok.mp members_eq
    cases members_eq
  | case3 seen key value rest a ih_set ih_pass =>
    obtain ⟨other, -, ⟨set, between, set_eq, is_new, between_eq, rest_eq⟩ | ⟨-, rest_eq⟩⟩ :=
      members_cons members_eq
    · have changed := setting.changes set_eq between_eq
      have ne : other ≠ name := by
        rintro rfl
        exact is_new was_seen
      rw [if_neg ne] at changed
      exact (ih_set _ _ (List.mem_cons_of_mem _ was_seen) rest_eq).trans changed
    · exact ih_pass was_seen rest_eq

/-- A setting is read from the value under its name, and it stays as it is if there is none. -/
theorem gives_valueAt? (setting : IsSetting field name read get) {children : List Node}
    {seen : List String} {a b : α}
    (members_eq : document.members field seen children a = .ok b) :
    Gives (document.valueAt? name children) read (get a) (get b) := by
  induction seen, children, a using members.induct with
  | case1 seen a =>
    cases members_eq
    exact rfl
  | case2 seen key a =>
    obtain ⟨_, -, members_eq⟩ := bind_eq_ok.mp members_eq
    cases members_eq
  | case3 seen key value rest a ih_set ih_pass =>
    obtain ⟨other, text_eq, known | ⟨unknown, rest_eq⟩⟩ := members_cons members_eq
    · obtain ⟨set, between, set_eq, is_new, between_eq, rest_eq⟩ := known
      have changed := setting.changes set_eq between_eq
      rw [valueAt?_cons text_eq]
      split_ifs at changed ⊢ with same
      · rw [← get_eq_of_seen setting (same ▸ List.mem_cons_self) rest_eq] at changed
        exact changed
      · rw [← changed]
        exact ih_set _ _ rest_eq
    · have ne : other ≠ name := by
        rintro rfl
        exact absurd setting.known (unknown ▸ Bool.false_ne_true)
      rw [valueAt?_cons text_eq, if_neg ne]
      exact ih_pass rest_eq

/-- A setting of a mapping, of which a scalar without a text is an empty one. -/
theorem gives_member? (setting : IsSetting field name read get) {node : Node} {a b : α}
    (struct_eq : document.struct field node a = .ok b) :
    Gives (document.member? name node) read (get a) (get b) := by
  rw [struct.eq_def] at struct_eq
  rw [member?]
  cases follow_eq : document.follow node with
  | mapping line _ _ children =>
    rw [follow_eq] at struct_eq
    exact gives_valueAt? setting (within_eq_ok.mp struct_eq)
  | scalar line anchor tag style s =>
    rw [follow_eq] at struct_eq
    split at struct_eq
    next text_eq => cases text_eq
    next => exact congrArg get (Except.ok.inj struct_eq).symm
    all_goals cases struct_eq
  | _ =>
    rw [follow_eq] at struct_eq
    cases struct_eq

end Document

end Yaml

open Yaml (Node Read Document)
open Yaml.Document (IsSetting Gives)

/-! ## The settings of a configuration -/

section Fields

variable {document : Document} {name : String} {node : Node}

/-- What a field of the settings of rendering changes. -/
theorem AuditConfig.yamlField_cases {set : Node → AuditConfig → Read AuditConfig}
    {a b : AuditConfig} (set_eq : AuditConfig.yamlField document name = some set)
    (eq : set node a = .ok b) :
    (name = "payload_limit_bytes" ∧ ∃ n, document.number Config.numberBound node = .ok n ∧
      b = { a with payloadLimit := n }) ∨
    (name = "preview_limit_bytes" ∧ ∃ n, document.number Config.numberBound node = .ok n ∧
      b = { a with previewLimit := n }) ∨
    (name = "excluded_fields" ∧ ∃ names, document.textList node = .ok names ∧
      b = { a with excludedFields := names }) ∨
    (name = "date_format" ∧ ∃ s, document.text node = .ok s ∧ b = { a with dateFormat := s }) ∨
    (name = "under_limit_policy" ∧ ∃ policy,
      document.named UnderLimitPolicy.ofName? node = .ok policy ∧
      b = { a with underLimitPolicy := policy }) ∨
    (name = "max_depth" ∧ ∃ n, document.number Config.numberBound node = .ok n ∧
      b = { a with maxDepth := n }) := by
  rw [AuditConfig.yamlField.eq_def] at set_eq
  split at set_eq <;> cases set_eq <;> obtain ⟨value, value_eq, ⟨⟩⟩ := bind_eq_ok.mp eq <;>
    simp [value_eq]

/-- What a field of the settings of the workers changes. -/
theorem DispatcherConfig.yamlField_cases {set : Node → DispatcherConfig → Read DispatcherConfig}
    {a b : DispatcherConfig} (set_eq : DispatcherConfig.yamlField document name = some set)
    (eq : set node a = .ok b) :
    (name = "workers" ∧ ∃ n, document.number Config.numberBound node = .ok n ∧
      b = { a with workers := n }) ∨
    (name = "queue_capacity" ∧ ∃ n, document.number Config.numberBound node = .ok n ∧
      b = { a with queueCapacity := n }) := by
  rw [DispatcherConfig.yamlField.eq_def] at set_eq
  split at set_eq <;> cases set_eq <;> obtain ⟨value, value_eq, ⟨⟩⟩ := bind_eq_ok.mp eq <;>
    simp [value_eq]

/-- What a field of the settings of logging changes. -/
theorem LoggingConfig.yamlField_cases {set : Node → LoggingConfig → Read LoggingConfig}
    {a b : LoggingConfig} (set_eq : LoggingConfig.yamlField document name = some set)
    (eq : set node a = .ok b) :
    (name = "level" ∧ ∃ s, document.text node = .ok s ∧ b = { a with level := s }) ∨
    (name = "format" ∧ ∃ s, document.text node = .ok s ∧ b = { a with format := s }) ∨
    (name = "file" ∧ ∃ path, document.text? node = .ok path ∧ b = { a with file := path }) ∨
    (name = "audit_file" ∧ ∃ path, document.text? node = .ok path ∧
      b = { a with auditFile := path }) := by
  rw [LoggingConfig.yamlField.eq_def] at set_eq
  split at set_eq <;> cases set_eq <;> obtain ⟨value, value_eq, ⟨⟩⟩ := bind_eq_ok.mp eq <;>
    simp [value_eq]

/-- What a section of a configuration changes. -/
theorem Config.yamlField_cases {set : Node → Config → Read Config} {a b : Config}
    (set_eq : Config.yamlField document name = some set) (eq : set node a = .ok b) :
    (name = "audit" ∧ ∃ audit,
      document.struct (AuditConfig.yamlField document) node {} = .ok audit ∧ b = { a with audit }) ∨
    (name = "dispatcher" ∧ ∃ dispatcher,
      document.struct (DispatcherConfig.yamlField document) node {} = .ok dispatcher ∧
      b = { a with dispatcher }) ∨
    (name = "logging" ∧ ∃ logging,
      document.struct (LoggingConfig.yamlField document) node {} = .ok logging ∧
      b = { a with logging }) := by
  rw [Config.yamlField.eq_def] at set_eq
  split at set_eq <;> cases set_eq <;> obtain ⟨value, value_eq, ⟨⟩⟩ := bind_eq_ok.mp eq <;>
    simp [value_eq]

theorem AuditConfig.isSetting (document : Document) :
    IsSetting (AuditConfig.yamlField document) "payload_limit_bytes"
      (document.number Config.numberBound) payloadLimit ∧
    IsSetting (AuditConfig.yamlField document) "preview_limit_bytes"
      (document.number Config.numberBound) previewLimit ∧
    IsSetting (AuditConfig.yamlField document) "excluded_fields" document.textList
      excludedFields ∧
    IsSetting (AuditConfig.yamlField document) "date_format" document.text dateFormat ∧
    IsSetting (AuditConfig.yamlField document) "under_limit_policy"
      (document.named UnderLimitPolicy.ofName?) underLimitPolicy ∧
    IsSetting (AuditConfig.yamlField document) "max_depth" (document.number Config.numberBound)
      maxDepth := by
  refine ⟨⟨rfl, ?_⟩, ⟨rfl, ?_⟩, ⟨rfl, ?_⟩, ⟨rfl, ?_⟩, ⟨rfl, ?_⟩, ⟨rfl, ?_⟩⟩
  all_goals
    intro _ _ _ _ _ set_eq eq
    rcases yamlField_cases set_eq eq with changed | changed | changed | changed | changed | changed
    all_goals
      obtain ⟨rfl, _, value_eq, rfl⟩ := changed
      first | exact value_eq | rfl

theorem DispatcherConfig.isSetting (document : Document) :
    IsSetting (DispatcherConfig.yamlField document) "workers"
      (document.number Config.numberBound) workers ∧
    IsSetting (DispatcherConfig.yamlField document) "queue_capacity"
      (document.number Config.numberBound) queueCapacity := by
  refine ⟨⟨rfl, ?_⟩, ⟨rfl, ?_⟩⟩
  all_goals
    intro _ _ _ _ _ set_eq eq
    rcases yamlField_cases set_eq eq with changed | changed
    all_goals
      obtain ⟨rfl, _, value_eq, rfl⟩ := changed
      first | exact value_eq | rfl

theorem LoggingConfig.isSetting (document : Document) :
    IsSetting (LoggingConfig.yamlField document) "level" document.text level ∧
    IsSetting (LoggingConfig.yamlField document) "format" document.text format ∧
    IsSetting (LoggingConfig.yamlField document) "file" document.text? file ∧
    IsSetting (LoggingConfig.yamlField document) "audit_file" document.text? auditFile := by
  refine ⟨⟨rfl, ?_⟩, ⟨rfl, ?_⟩, ⟨rfl, ?_⟩, ⟨rfl, ?_⟩⟩
  all_goals
    intro _ _ _ _ _ set_eq eq
    rcases yamlField_cases set_eq eq with changed | changed | changed | changed
    all_goals
      obtain ⟨rfl, _, value_eq, rfl⟩ := changed
      first | exact value_eq | rfl

theorem Config.isSetting (document : Document) :
    IsSetting (Config.yamlField document) "audit"
      (document.struct (AuditConfig.yamlField document) · {}) audit ∧
    IsSetting (Config.yamlField document) "dispatcher"
      (document.struct (DispatcherConfig.yamlField document) · {}) dispatcher ∧
    IsSetting (Config.yamlField document) "logging"
      (document.struct (LoggingConfig.yamlField document) · {}) logging := by
  refine ⟨⟨rfl, ?_⟩, ⟨rfl, ?_⟩, ⟨rfl, ?_⟩⟩
  all_goals
    intro _ _ _ _ _ set_eq eq
    rcases yamlField_cases set_eq eq with changed | changed | changed
    all_goals
      obtain ⟨rfl, _, value_eq, rfl⟩ := changed
      first | exact value_eq | rfl

end Fields

/-! ## The configuration of a document -/

namespace Config

/-- Every setting of a configuration is what a document says about it, and has its standard value
where the document says nothing. -/
structure IsDescribedBy (document : Document) (config : Config) : Prop where
  payloadLimit : Gives (document.setting? "audit" "payload_limit_bytes")
    (document.number numberBound) 1024 config.audit.payloadLimit
  previewLimit : Gives (document.setting? "audit" "preview_limit_bytes")
    (document.number numberBound) 1024 config.audit.previewLimit
  excludedFields : Gives (document.setting? "audit" "excluded_fields")
    document.textList ["logger"] config.audit.excludedFields
  dateFormat : Gives (document.setting? "audit" "date_format")
    document.text "%Y-%m-%dT%H:%M:%S%.3f%z" config.audit.dateFormat
  underLimitPolicy : Gives (document.setting? "audit" "under_limit_policy")
    (document.named UnderLimitPolicy.ofName?) .passThrough config.audit.underLimitPolicy
  maxDepth : Gives (document.setting? "audit" "max_depth")
    (document.number numberBound) 64 config.audit.maxDepth
  workers : Gives (document.setting? "dispatcher" "workers")
    (document.number numberBound) 2 config.dispatcher.workers
  queueCapacity : Gives (document.setting? "dispatcher" "queue_capacity")
    (document.number numberBound) 10000 config.dispatcher.queueCapacity
  level : Gives (document.setting? "logging" "level")
    document.text "info" config.logging.level
  format : Gives (document.setting? "logging" "format")
    document.text "pretty" config.logging.format
  file : Gives (document.setting? "logging" "file")
    document.text? none config.logging.file
  auditFile : Gives (document.setting? "logging" "audit_file")
    document.text? none config.logging.auditFile

variable {document : Document} {config : Config}

/-- A setting of a section, or the standard one if there is no such section. -/
theorem gives_setting? {α β : Type} {part name : String}
    {field : String → Option (Node → α → Read α)} {read : Node → Read β} {get : α → β}
    {standard a : α}
    (setting : IsSetting field name read get)
    (gives : Gives (document.root.bind (document.member? part))
      (document.struct field · standard) standard a) :
    Gives (document.setting? part name) read (get standard) (get a) := by
  rw [Document.setting?]
  cases section_eq : document.root.bind (document.member? part) with
  | none =>
    rw [section_eq] at gives
    exact congrArg get gives
  | some node =>
    rw [section_eq] at gives
    exact Document.gives_member? setting gives

/-- What follows a document does not change its configuration. -/
theorem eq_of_ends {other : Config}
    (eq : (match document.failure with
      | some line => .error (some line)
      | none => if document.continues then .error none else .ok other : Read Config) =
        .ok config) : config = other := by
  split at eq
  · cases eq
  · split_ifs at eq
    exact (Except.ok.inj eq).symm

/-- The sections of the configuration of a document. -/
theorem gives_section {β : Type} {part : String} {read : Node → Read β} {get : Config → β}
    (setting : IsSetting (Config.yamlField document) part read get)
    (config_eq : Config.ofDocument document = .ok config) :
    Gives (document.root.bind (document.member? part)) read (get {}) (get config) := by
  rw [ofDocument] at config_eq
  cases root_eq : document.root with
  | none =>
    rw [root_eq] at config_eq
    obtain ⟨_, ⟨⟩, rest_eq⟩ := bind_eq_ok.mp config_eq
    exact congrArg get (eq_of_ends rest_eq)
  | some root =>
    rw [root_eq] at config_eq
    obtain ⟨root_config, struct_eq, rest_eq⟩ := bind_eq_ok.mp config_eq
    rw [eq_of_ends rest_eq]
    exact Document.gives_member? setting struct_eq

/-- The configuration of a document is what the document says. -/
theorem isDescribedBy_of_ofDocument (config_eq : Config.ofDocument document = .ok config) :
    config.IsDescribedBy document := by
  obtain ⟨audit, dispatcher, logging⟩ := Config.isSetting document
  have audit_gives := gives_section audit config_eq
  have dispatcher_gives := gives_section dispatcher config_eq
  have logging_gives := gives_section logging config_eq
  obtain ⟨payloadLimit, previewLimit, excludedFields, dateFormat, underLimitPolicy, maxDepth⟩ :=
    AuditConfig.isSetting document
  obtain ⟨workers, queueCapacity⟩ := DispatcherConfig.isSetting document
  obtain ⟨level, format, file, auditFile⟩ := LoggingConfig.isSetting document
  exact {
    payloadLimit := gives_setting? payloadLimit audit_gives
    previewLimit := gives_setting? previewLimit audit_gives
    excludedFields := gives_setting? excludedFields audit_gives
    dateFormat := gives_setting? dateFormat audit_gives
    underLimitPolicy := gives_setting? underLimitPolicy audit_gives
    maxDepth := gives_setting? maxDepth audit_gives
    workers := gives_setting? workers dispatcher_gives
    queueCapacity := gives_setting? queueCapacity dispatcher_gives
    level := gives_setting? level logging_gives
    format := gives_setting? format logging_gives
    file := gives_setting? file logging_gives
    auditFile := gives_setting? auditFile logging_gives }

end Config

end AuditTrail
