import AuditTrail.Config.Load
import AuditTrail.Proofs.Config.Placeholder
import AuditTrail.Proofs.Config.Saved
import AuditTrail.Proofs.Text.Utf8

/-!
# Saving and loading again

Loading replaces placeholders in the text of the file before it reads the text, and saving writes
texts as they are.  So a configuration comes back from its file in every environment if and only if
it is valid, its YAML is read as the configuration, and its YAML has no placeholder, be it that one
of its texts is written like one.  It can be saved in every directory in which no other entry has
the place of the file.

For the converse a variable is given a value that no saved configuration holds and no YAML may hold:
a control character.
-/

namespace AuditTrail

open Yaml (isAllowed isOwn isShown tokensOf)

/-! ## Texts that are no YAML -/

/-- A text with a character that no text may hold has no tokens.  The byte order mark may stand at
the start of a text, and nothing else of the kind anywhere. -/
theorem Yaml.tokensOf_of_forbidden {s : String} {c : Char} (c_mem : c ∈ s.toList)
    (forbidden : isAllowed c = false) (ne : c ≠ '\uFEFF') : tokensOf s = ([], some 1) := by
  have not_all {cs : List Char} (c_mem : c ∈ cs) : ¬ cs.all isAllowed = true :=
    fun all ↦ absurd (List.all_eq_true.mp all c c_mem) (forbidden ▸ Bool.false_ne_true)
  rw [tokensOf]
  split
  next rest chars_eq =>
    rw [chars_eq] at c_mem
    exact if_neg (not_all ((List.mem_cons.mp c_mem).resolve_left ne))
  next => exact if_neg (not_all c_mem)

theorem Config.ofYaml_of_forbidden {s : String} {c : Char} (c_mem : c ∈ s.toList)
    (forbidden : isAllowed c = false) (ne : c ≠ '\uFEFF') : Config.ofYaml s = .error (some 1) := by
  rw [Config.ofYaml, Yaml.Document.parse, Yaml.tokensOf_of_forbidden c_mem forbidden ne]
  rfl

namespace Config

variable {config : Config} {directory saved : Directory} {environment : Environment}

/-! ## Reading what was saved -/

/-- Saving fails if a file stands where the directory of the file has to be, or a directory where
the file has to be, and only then. -/
theorem exists_save_eq_ok_iff : (∃ saved, save directory config = .ok saved) ↔
    directory.find (.ofString fileName) ≠ .blocked ∧
      directory.find (.ofString fileName) ≠ .directory := by
  rw [save]
  cases directory.find (.ofString fileName) <;> simp

/-- A configuration can be saved where nothing is. -/
theorem exists_save_nil (config : Config) : ∃ saved, save [] config = .ok saved :=
  exists_save_eq_ok_iff.mpr ⟨by decide +kernel, by decide +kernel⟩

/-- A saved configuration is in the configuration file. -/
theorem eq_of_save_eq_ok (saved_eq : save directory config = .ok saved) :
    saved = directory.insert (.ofString fileName) (.file (Text.Utf8.ofString config.toYaml)) := by
  rw [save] at saved_eq
  split at saved_eq <;> cases saved_eq <;> rfl

/-- The file of a saved configuration is read as its text. -/
theorem loadFile_save (saved_eq : save directory config = .ok saved) (environment : Environment) :
    loadFile saved environment = ofText environment config.toYaml := by
  have found_eq : saved.find (.ofString fileName) = .file (Text.Utf8.ofString config.toYaml) := by
    rw [eq_of_save_eq_ok saved_eq, Directory.find_insert_self]
  rw [loadFile, found_eq]
  dsimp only
  rw [ofFile, found_eq]
  dsimp only
  rw [Text.Utf8.toString?_ofString]

theorem checked_eq_ok_iff {other : Config} : config.checked = .ok other ↔
    config.IsValid ∧ config = other := by
  rw [checked, IsValid]
  cases config.flaw? with
  | none => simp
  | some flaw => simp

/-- A step whose errors are renamed succeeds if the step does. -/
theorem mapError_bind_eq_ok {α β ε ε' : Type} {x : Except ε α} {rename : ε → ε'}
    {f : α → Except ε' β} {b : β} :
    (x.mapError rename >>= f) = .ok b ↔ ∃ a, x = .ok a ∧ f a = .ok b := by
  cases x with
  | error e => exact ⟨nofun, nofun⟩
  | ok a =>
    constructor
    · exact fun eq ↦ ⟨a, rfl, eq⟩
    · rintro ⟨_, ⟨⟩, eq⟩
      exact eq

/-- A text gives a configuration if its expansion is YAML for the configuration and this is
valid. -/
theorem ofText_eq_ok_iff {s : String} : ofText environment s = .ok config ↔
    ∃ expanded, Placeholder.expand environment s = .ok expanded ∧ ofYaml expanded = .ok config ∧
      config.IsValid := by
  simp only [ofText, mapError_bind_eq_ok]
  refine exists_congr fun expanded ↦ and_congr_right fun _ ↦ ?_
  constructor
  · rintro ⟨read, yaml_eq, checked_eq⟩
    obtain ⟨valid, rfl⟩ := checked_eq_ok_iff.mp checked_eq
    exact ⟨yaml_eq, valid⟩
  · rintro ⟨yaml_eq, valid⟩
    exact ⟨config, yaml_eq, checked_eq_ok_iff.mpr ⟨valid, rfl⟩⟩

/-! ## Placeholders in a saved configuration -/

/-- **Saving and loading.**  A configuration can be saved in every directory but those in which a
file has the place of the file's directory, or a directory that of the file.  In every environment
it comes back wherever it was saved if and only if it is valid, its YAML is read as the
configuration, and its YAML has no placeholders.  It has none if no text of the configuration has a
dollar sign. -/
theorem loadFile_save_eq_ok_iff (config : Config) :
    (∀ directory : Directory, (∃ saved, save directory config = .ok saved) ↔
      directory.find (.ofString fileName) ≠ .blocked ∧
        directory.find (.ofString fileName) ≠ .directory) ∧
    ((∀ directory saved environment, save directory config = .ok saved →
      loadFile saved environment = .ok config) ↔
        config.IsValid ∧ ofYaml config.toYaml = .ok config ∧
          Placeholder.all config.toYaml = []) ∧
    ((∀ s ∈ config.texts, '$' ∉ s.toList) → Placeholder.all config.toYaml = []) := by
  refine ⟨fun directory ↦ exists_save_eq_ok_iff, ⟨fun reloads ↦ ?_, ?_⟩, fun no_dollar ↦ ?_⟩
  · obtain ⟨saved, saved_eq⟩ := exists_save_nil config
    have none_found : Placeholder.all config.toYaml = [] := by
      cases all_eq : Placeholder.all config.toYaml with
      | nil => rfl
      | cons first rest =>
        -- A variable with a value that no YAML may hold keeps the file from being read.
        have reloaded := reloads [] saved [(String.ofList first.name, "\x01")] saved_eq
        rw [loadFile_save saved_eq] at reloaded
        obtain ⟨expanded, expand_eq, yaml_eq, -⟩ := ofText_eq_ok_iff.mp reloaded
        have value_eq : first.value? [(String.ofList first.name, "\x01")] = some "\x01" := by
          rw [Placeholder.value?, Entries.get?_cons, if_pos rfl]
          rfl
        have mark_mem : '\x01' ∈ expanded.toList :=
          Placeholder.mem_of_expand all_eq value_eq (by decide)
            (not_mem_toYaml (by decide) (by decide) config) expand_eq
        cases (ofYaml_of_forbidden mark_mem (by decide) (by decide)).symm.trans yaml_eq
    have reloaded := reloads [] saved [] saved_eq
    rw [loadFile_save saved_eq, ofText_eq_ok_iff,
      Placeholder.expand_of_all_eq_nil none_found] at reloaded
    obtain ⟨expanded, expanded_eq, yaml_eq, valid⟩ := reloaded
    rw [← Except.ok.inj expanded_eq] at yaml_eq
    exact ⟨valid, yaml_eq, none_found⟩
  · rintro ⟨valid, yaml_eq, none_found⟩ directory saved environment saved_eq
    rw [loadFile_save saved_eq, ofText_eq_ok_iff]
    exact ⟨_, Placeholder.expand_of_all_eq_nil none_found, yaml_eq, valid⟩
  · refine Placeholder.all_eq_nil fun dollar_mem ↦ ?_
    obtain ⟨s, s_mem, dollar_mem⟩ := exists_dollar_of_mem_toYaml dollar_mem
    exact no_dollar s s_mem dollar_mem

/-- A saved configuration cannot be loaded if its first placeholder has no value. -/
theorem loadFile_save_of_no_value {first : Placeholder} {rest : List Placeholder}
    (saved_eq : save directory config = .ok saved)
    (all_eq : Placeholder.all config.toYaml = first :: rest)
    (none_eq : first.value? environment = none) :
    loadFile saved environment = .error (.variableNotFound (String.ofList first.name)) := by
  rw [loadFile_save saved_eq, ofText, Placeholder.expand, all_eq, Placeholder.replaceEach, none_eq]
  rfl

/-- A configuration that excludes a name written like a placeholder. -/
def excludingPlaceholder : Config :=
  { audit := { excludedFields := ["$\x7bSECRET\x7d"] } }

example : excludingPlaceholder.IsValid ∧ ∃ saved, save [] excludingPlaceholder = .ok saved ∧
    loadFile saved [] = .error (.variableNotFound "SECRET") := by
  have all_eq : Placeholder.all excludingPlaceholder.toYaml = [⟨"SECRET".toList, none⟩] := by
    rw [Placeholder.all, toYaml, String.toList_ofList]
    decide +kernel
  obtain ⟨saved, saved_eq⟩ := exists_save_nil excludingPlaceholder
  exact ⟨by decide +kernel, saved, saved_eq, loadFile_save_of_no_value saved_eq all_eq rfl⟩

end Config

end AuditTrail
