import AuditTrail.Config.ToYaml

/-!
# The characters of a saved configuration

A saved configuration is made of few characters of its own: letters, digits and the marks of the
block style.  Every other character comes from a text of the configuration and is written as itself;
what cannot be written as itself is escaped, and escapes consist of own characters.

So a saved configuration holds no control characters, and a dollar sign only if one of the texts
does.
-/

namespace AuditTrail

namespace Yaml

/-- The characters that are written whatever the texts are. -/
def isOwn (c : Char) : Bool :=
  isWord c || "\n '\"\\+:|[]".toList.contains c

/-- A character is one of the writer's own, or it comes from one of some texts and is written as
itself. -/
def Made (texts : List String) (c : Char) : Prop :=
  isOwn c = true ∨ isShown c = true ∧ ∃ s ∈ texts, c ∈ s.toList

theorem made_of_isWord {texts : List String} {c : Char} (word : isWord c = true) : Made texts c :=
  .inl (Bool.or_eq_true_iff.mpr (.inl word))

/-! ## Digits -/

theorem isWord_of_isAlphanum {c : Char} (alphanum : c.isAlphanum = true) : isWord c = true := by
  rw [isWord, alphanum]
  rfl

/-- The digits of a number in base sixteen are letters and digits, in upper case too. -/
theorem isAlphanum_toUpper_of_mem_toDigits {n : Nat} :
    ∀ c ∈ Nat.toDigits 16 n, c.toUpper.isAlphanum = true := by
  have digit : ∀ k < 16, (Nat.digitChar k).toUpper.isAlphanum = true := by decide
  induction n using Nat.strongRecOn with
  | ind n ih =>
    rw [Nat.toDigits_eq_if (by decide)]
    split
    next lt => exact List.forall_mem_singleton.mpr (digit n lt)
    next ge =>
      refine List.forall_mem_append.mpr ⟨ih (n / 16) (by omega), ?_⟩
      exact List.forall_mem_singleton.mpr (digit (n % 16) (Nat.mod_lt n (by decide)))

theorem isWord_of_mem_hexPadded {width n : Nat} : ∀ c ∈ hexPadded width n, isWord c = true := by
  intro c c_mem
  rcases List.mem_append.mp c_mem with fill_mem | digit_mem
  · rw [List.eq_of_mem_replicate fill_mem]
    rfl
  · obtain ⟨digit, mem, rfl⟩ := List.mem_map.mp digit_mem
    exact isWord_of_isAlphanum (isAlphanum_toUpper_of_mem_toDigits digit mem)

/-! ## Scalars -/

section Scalars

variable {texts : List String} {cs : List Char} {indent : Nat} {afterBreak : Bool}

theorem made_indentation {p : Prop} [Decidable p] :
    ∀ c ∈ (if p then List.replicate indent ' ' else []), Made texts c := by
  intro c c_mem
  split at c_mem
  · rw [List.eq_of_mem_replicate c_mem]
    exact .inl (by decide)
  · cases c_mem

/-- Between single quotes there are the characters of the text, quotes and indentation. -/
theorem made_singleQuotedChars (made : ∀ c ∈ cs, Made texts c) :
    ∀ c ∈ singleQuotedChars indent afterBreak cs, Made texts c := by
  have quote : Made texts '\'' := .inl (by decide)
  induction cs generalizing afterBreak with
  | nil =>
    rw [singleQuotedChars]
    exact List.forall_mem_append.mpr ⟨made_indentation, List.forall_mem_singleton.mpr quote⟩
  | cons c rest ih =>
    obtain ⟨made_c, made_rest⟩ := List.forall_mem_cons.mp made
    rw [singleQuotedChars]
    split
    · exact List.forall_mem_cons.mpr ⟨made_c, ih made_rest⟩
    · refine List.forall_mem_append.mpr ⟨List.forall_mem_append.mpr ⟨made_indentation, ?_⟩,
        ih made_rest⟩
      split
      · exact List.forall_mem_cons.mpr ⟨quote, List.forall_mem_singleton.mpr quote⟩
      · exact List.forall_mem_singleton.mpr made_c

/-- A block has the characters of the text and indentation. -/
theorem made_blockChars (made : ∀ c ∈ cs, Made texts c) :
    ∀ c ∈ blockChars indent afterBreak cs, Made texts c := by
  induction cs generalizing afterBreak with
  | nil =>
    rw [blockChars]
    exact List.forall_mem_nil _
  | cons c rest ih =>
    obtain ⟨made_c, made_rest⟩ := List.forall_mem_cons.mp made
    rw [blockChars]
    split
    · exact List.forall_mem_cons.mpr ⟨made_c, ih made_rest⟩
    · exact List.forall_mem_append.mpr
        ⟨made_indentation, List.forall_mem_cons.mpr ⟨made_c, ih made_rest⟩⟩

/-- The header of a block says in own characters what becomes of the line breaks at its end. -/
theorem made_chompMark : ∀ c ∈ chompMark cs, Made texts c := by
  have keep : ∀ c ∈ ['+'], Made texts c := List.forall_mem_singleton.mpr (.inl (by decide))
  have strip : ∀ c ∈ ['-'], Made texts c := List.forall_mem_singleton.mpr (.inl (by decide))
  rw [chompMark]
  split
  · exact strip
  · split
    · exact keep
    · exact strip
  · split
    · exact strip
    · split
      · exact keep
      · exact List.forall_mem_nil _

theorem made_literalChars (made : ∀ c ∈ cs, Made texts c) :
    ∀ c ∈ literalChars indent cs, Made texts c := by
  have width : ∀ c ∈ (if cs.head?.any fun c ↦ isSpace c || isBreak c then ['2'] else []),
      Made texts c := by
    split
    · exact List.forall_mem_singleton.mpr (made_of_isWord (by decide))
    · exact List.forall_mem_nil _
  refine List.forall_mem_cons.mpr ⟨.inl (by decide), ?_⟩
  refine List.forall_mem_append.mpr ⟨List.forall_mem_append.mpr ⟨width, made_chompMark⟩, ?_⟩
  exact List.forall_mem_cons.mpr ⟨.inl (by decide), made_blockChars made⟩

/-- The letters of escapes are own characters. -/
theorem isOwn_of_escapeLetterOf? {c letter : Char} (letter_eq : escapeLetterOf? c = some letter) :
    isOwn letter = true := by
  unfold escapeLetterOf? at letter_eq
  split at letter_eq <;> cases letter_eq <;> decide

/-- A character between double quotes is written as itself or escaped. -/
theorem made_doubleQuotedChar {c : Char} (made : isShown c = true → Made texts c) :
    ∀ d ∈ doubleQuotedChar c, Made texts d := by
  have backslash : Made texts '\\' := .inl (by decide)
  have escape {width : Nat} {kind : Char} (kind_word : isWord kind = true) :
      ∀ d ∈ '\\' :: kind :: hexPadded width c.toNat, Made texts d :=
    List.forall_mem_cons.mpr ⟨backslash, List.forall_mem_cons.mpr ⟨made_of_isWord kind_word,
      fun d d_mem ↦ made_of_isWord (isWord_of_mem_hexPadded d d_mem)⟩⟩
  rw [doubleQuotedChar]
  split
  next itself =>
    simp only [Bool.and_eq_true] at itself
    exact List.forall_mem_singleton.mpr (made itself.1.1.1)
  · split
    next letter letter_eq =>
      exact List.forall_mem_cons.mpr ⟨backslash, List.forall_mem_singleton.mpr
        (.inl (isOwn_of_escapeLetterOf? letter_eq))⟩
    · split
      · exact escape (by decide)
      · split
        · exact escape (by decide)
        · exact escape (by decide)

/-- The written form of a text has own characters and characters of the text. -/
theorem made_scalarChars {s : String}
    (made_shown : ∀ c ∈ s.toList, isShown c = true → Made texts c) :
    ∀ c ∈ scalarChars indent s, Made texts c := by
  have made_all (shown : s.toList.all isShown = true) : ∀ c ∈ s.toList, Made texts c :=
    fun c c_mem ↦ made_shown c c_mem (List.all_eq_true.mp shown c c_mem)
  have made_quotable (quotable : allowsSingleQuotes s.toList = true) :
      ∀ c ∈ s.toList, Made texts c := by
    simp only [allowsSingleQuotes, Bool.and_eq_true] at quotable
    exact made_all quotable.1.1
  rw [scalarChars]
  split
  next block =>
    simp only [allowsBlock, Bool.and_eq_true] at block
    exact made_literalChars (made_all block.2.1.1)
  split
  next plain =>
    simp only [allowsPlain, Bool.and_eq_true] at plain
    exact made_quotable plain.2.1.1.1.1
  split
  next single =>
    rw [Bool.and_eq_true] at single
    exact List.forall_mem_cons.mpr ⟨.inl (by decide),
      made_singleQuotedChars (made_quotable single.2)⟩
  · have quote : Made texts '"' := .inl (by decide)
    refine List.forall_mem_append.mpr ⟨List.forall_mem_cons.mpr ⟨quote, ?_⟩,
      List.forall_mem_singleton.mpr quote⟩
    exact List.forall_mem_flatMap.mpr fun c c_mem ↦ made_doubleQuotedChar (made_shown c c_mem)

end Scalars

/-! ## Settings -/

section Settings

variable {texts : List String} {cs : List Char} {name : String}

theorem made_of_all_isOwn (own : cs.all isOwn = true) : ∀ c ∈ cs, Made texts c :=
  fun c c_mem ↦ .inl (List.all_eq_true.mp own c c_mem)

theorem made_of_mem {s : String} (s_mem : s ∈ texts) :
    ∀ c ∈ s.toList, isShown c = true → Made texts c :=
  fun _ c_mem shown ↦ .inr ⟨shown, s, s_mem, c_mem⟩

theorem made_line (made : ∀ c ∈ cs, Made texts c) : ∀ c ∈ line cs, Made texts c := by
  rw [line]
  split
  · exact made
  · exact List.forall_mem_append.mpr ⟨made, made_of_all_isOwn (by decide)⟩

variable (own : name.toList.all isOwn = true)

include own

theorem made_setting (made : ∀ c ∈ cs, Made texts c) : ∀ c ∈ setting name cs, Made texts c := by
  refine made_line (List.forall_mem_append.mpr ⟨List.forall_mem_append.mpr
    ⟨List.forall_mem_append.mpr ⟨?_, ?_⟩, ?_⟩, made⟩)
  · exact made_of_all_isOwn (by decide)
  · exact made_of_all_isOwn own
  · exact made_of_all_isOwn (by decide)

theorem made_textSetting {value : String}
    (made : ∀ c ∈ value.toList, isShown c = true → Made texts c) :
    ∀ c ∈ textSetting name value, Made texts c :=
  made_setting own (made_scalarChars made)

theorem made_numberSetting {value : Nat} : ∀ c ∈ numberSetting name value, Made texts c := by
  refine made_setting own fun c c_mem ↦ made_of_isWord (isWord_of_isAlphanum ?_)
  have digit : c.isDigit = true := Nat.isDigit_of_mem_toDigits (by decide) (by decide) c_mem
  rw [Char.isAlphanum, digit, Bool.or_true]

theorem made_textSetting? {value : Option String} (value_sub : value.toList ⊆ texts) :
    ∀ c ∈ textSetting? name value, Made texts c := by
  cases value with
  | none =>
    have null_own : "null".toList.all isOwn = true := by decide
    exact made_setting own (made_of_all_isOwn null_own)
  | some value => exact made_textSetting own (made_of_mem (value_sub (List.mem_singleton.mpr rfl)))

theorem made_listSetting {items : List String} (items_sub : items ⊆ texts) :
    ∀ c ∈ listSetting name items, Made texts c := by
  have empty_own : "[]".toList.all isOwn = true := by decide
  have item_own : "  - ".toList.all isOwn = true := by decide
  have head_own : ("  ".toList ++ name.toList ++ [':']).all isOwn = true := by
    rw [List.all_append, List.all_append, own]
    decide
  have made_item : ∀ item ∈ items, ∀ c ∈ line ("  - ".toList ++ scalarChars continuation item),
      Made texts c := by
    intro item item_mem
    refine made_line (List.forall_mem_append.mpr ⟨made_of_all_isOwn item_own, ?_⟩)
    exact made_scalarChars (made_of_mem (items_sub item_mem))
  cases items with
  | nil => exact made_setting own (made_of_all_isOwn empty_own)
  | cons first rest =>
    refine List.forall_mem_append.mpr ⟨made_line (made_of_all_isOwn head_own), ?_⟩
    exact List.forall_mem_flatMap.mpr made_item

end Settings

end Yaml

/-! ## Configurations -/

namespace Config

open Yaml

/-- The texts of a configuration that may be any texts. -/
def texts (config : Config) : List String :=
  config.audit.excludedFields ++
    [config.audit.dateFormat, config.logging.level, config.logging.format] ++
    config.logging.file.toList ++ config.logging.auditFile.toList

/-- The characters of a saved configuration are the writer's own or come from its texts. -/
theorem made_toYaml (config : Config) : ∀ c ∈ config.toYaml.toList, Made config.texts c := by
  have excluded_sub : config.audit.excludedFields ⊆ config.texts := by
    intro s s_mem
    simp only [texts, List.mem_append, s_mem, true_or]
  have dateFormat_mem : config.audit.dateFormat ∈ config.texts := by simp [texts]
  have level_mem : config.logging.level ∈ config.texts := by simp [texts]
  have format_mem : config.logging.format ∈ config.texts := by simp [texts]
  have file_sub : config.logging.file.toList ⊆ config.texts := by
    intro s s_mem
    simp only [texts, List.mem_append, s_mem, or_true, true_or]
  have auditFile_sub : config.logging.auditFile.toList ⊆ config.texts := by
    intro s s_mem
    simp only [texts, List.mem_append, s_mem, or_true]
  have policy_own : ∀ c ∈ config.audit.underLimitPolicy.name.toList,
      isShown c = true → Made config.texts c := by
    intro c c_mem _
    refine made_of_all_isOwn ?_ c c_mem
    cases config.audit.underLimitPolicy <;> decide
  have audit : ∀ c ∈ config.audit.toYaml, Made config.texts c := by
    simp only [AuditConfig.toYaml, List.forall_mem_append]
    refine ⟨⟨⟨⟨⟨⟨?_, ?_⟩, ?_⟩, ?_⟩, ?_⟩, ?_⟩, ?_⟩
    · exact made_line (made_of_all_isOwn (by decide))
    · exact made_numberSetting (by decide)
    · exact made_numberSetting (by decide)
    · exact made_listSetting (by decide) excluded_sub
    · exact made_textSetting (by decide) (made_of_mem dateFormat_mem)
    · exact made_textSetting (by decide) policy_own
    · exact made_numberSetting (by decide)
  have dispatcher : ∀ c ∈ config.dispatcher.toYaml, Made config.texts c := by
    simp only [DispatcherConfig.toYaml, List.forall_mem_append]
    refine ⟨⟨?_, ?_⟩, ?_⟩
    · exact made_line (made_of_all_isOwn (by decide))
    · exact made_numberSetting (by decide)
    · exact made_numberSetting (by decide)
  have logging : ∀ c ∈ config.logging.toYaml, Made config.texts c := by
    simp only [LoggingConfig.toYaml, List.forall_mem_append]
    refine ⟨⟨⟨⟨?_, ?_⟩, ?_⟩, ?_⟩, ?_⟩
    · exact made_line (made_of_all_isOwn (by decide))
    · exact made_textSetting (by decide) (made_of_mem level_mem)
    · exact made_textSetting (by decide) (made_of_mem format_mem)
    · exact made_textSetting? (by decide) file_sub
    · exact made_textSetting? (by decide) auditFile_sub
  rw [toYaml, String.toList_ofList]
  exact List.forall_mem_append.mpr ⟨List.forall_mem_append.mpr ⟨audit, dispatcher⟩, logging⟩

/-- A character that is neither the writer's own nor written as itself is in no saved
configuration. -/
theorem not_mem_toYaml {c : Char} (not_own : isOwn c = false) (not_shown : isShown c = false)
    (config : Config) : c ∉ config.toYaml.toList := by
  intro c_mem
  rcases config.made_toYaml c c_mem with own | ⟨shown, -⟩
  · exact absurd own (not_own ▸ Bool.false_ne_true)
  · exact absurd shown (not_shown ▸ Bool.false_ne_true)

/-- A saved configuration has a dollar sign only if one of the texts has. -/
theorem exists_dollar_of_mem_toYaml {config : Config} (c_mem : '$' ∈ config.toYaml.toList) :
    ∃ s ∈ config.texts, '$' ∈ s.toList := by
  rcases config.made_toYaml '$' c_mem with own | ⟨-, s, s_mem, dollar_mem⟩
  · cases own
  · exact ⟨s, s_mem, dollar_mem⟩

end Config

end AuditTrail
