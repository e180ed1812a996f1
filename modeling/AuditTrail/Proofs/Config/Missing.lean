import AuditTrail.Proofs.Config.Loading
import AuditTrail.Proofs.Config.PlaceholderText

/-!
# Variables that are missing

A text is searched for placeholders before any of them is replaced, and the search ends with the
first placeholder that has no fallback and whose variable is not set.  So it is decided by the text
as it was and by the names of the variables that are set whether an expansion fails, and which
variable it is about.  The values take no part in it: what they hold may be replaced by later
placeholders, but it is never looked up.

What is found is described without the search that finds it.  A placeholder stands where the
characters of a well-formed one stand, and placeholders are met from left to right without overlap.
-/

namespace AuditTrail

namespace Placeholder

variable {environment other : Environment} {s name : String} {cs : List Char}
  {found others : List Placeholder} {placeholder : Placeholder}

/-! ## Placeholders that are met -/

/-- The placeholders of a text from left to right.  Behind a placeholder the search goes on with
what follows it, and at a place where none stands with the next character. -/
inductive Meets : List Char → List Placeholder → Prop
  | nil : Meets [] []
  | found {placeholder : Placeholder} {rest : List Char} {later : List Placeholder} :
      placeholder.WellFormed → Meets rest later →
      Meets (placeholder.text ++ rest) (placeholder :: later)
  | passed {c : Char} {rest : List Char} {later : List Placeholder} :
      (∀ placeholder : Placeholder, placeholder.WellFormed → ¬ placeholder.text <+: c :: rest) →
      Meets rest later → Meets (c :: rest) later

theorem ofChars_text_append (wellFormed : placeholder.WellFormed) (rest : List Char) :
    TextPart.ofChars (placeholder.text ++ rest) =
      .placeholder placeholder :: TextPart.ofChars rest := by
  have at_eq : at? (placeholder.text ++ rest) = some placeholder :=
    at?_eq_some_iff.mpr ⟨wellFormed, List.prefix_append _ _⟩
  obtain ⟨body, text_eq⟩ : ∃ body, placeholder.text = '$' :: body := ⟨_, rfl⟩
  rw [text_eq, List.cons_append] at at_eq ⊢
  rw [TextPart.ofChars, at_eq]
  dsimp only
  rw [text_eq, ← List.cons_append, List.drop_left]

theorem ofChars_cons_of_none_here {c : Char} {rest : List Char}
    (none_here : ∀ placeholder : Placeholder, placeholder.WellFormed →
      ¬ placeholder.text <+: c :: rest) :
    TextPart.ofChars (c :: rest) = .char c :: TextPart.ofChars rest := by
  have at_eq : at? (c :: rest) = none := by
    refine Option.eq_none_iff_forall_not_mem.mpr fun placeholder mem ↦ ?_
    obtain ⟨wellFormed, begins⟩ := at?_eq_some_iff.mp mem
    exact none_here placeholder wellFormed begins
  rw [TextPart.ofChars, at_eq]

/-- The placeholders that are met in a text are those that its parts have. -/
theorem meets_iff :
    Meets cs found ↔ found = (TextPart.ofChars cs).filterMap TextPart.placeholder? := by
  constructor
  · intro meets
    induction meets with
    | nil => rw [TextPart.ofChars_nil, List.filterMap_nil]
    | found wellFormed _ ih =>
      rw [ofChars_text_append wellFormed, ih]
      rfl
    | passed none_here _ ih =>
      rw [ofChars_cons_of_none_here none_here, ih]
      rfl
  · rintro rfl
    fun_induction TextPart.ofChars cs with
    | case1 => exact .nil
    | case2 c rest here at_eq ih =>
      obtain ⟨wellFormed, after, cs_eq⟩ := at?_eq_some_iff.mp at_eq
      rw [← cs_eq, List.drop_left] at ih ⊢
      exact .found wellFormed ih
    | case3 c rest at_eq ih =>
      refine .passed (fun placeholder wellFormed begins ↦ ?_) ih
      cases at_eq.symm.trans (at?_eq_some_iff.mpr ⟨wellFormed, begins⟩)

theorem meets_all (s : String) : Meets s.toList (all s) :=
  meets_iff.mpr rfl

theorem all_eq_nil_of_absent
    (absent : ∀ placeholder : Placeholder, placeholder.WellFormed →
      ¬ placeholder.text <:+: s.toList) : all s = [] := by
  refine List.eq_nil_iff_forall_not_mem.mpr fun placeholder mem ↦ ?_
  exact absent placeholder (wellFormed_of_mem_ofChars (mem_all_iff.mp mem)) (infix_of_mem_all mem)

/-! ## The first one without a value -/

/-- The placeholder has no fallback, and its variable is not set. -/
structure IsMissing (environment : Environment) (placeholder : Placeholder) : Prop where
  no_fallback : placeholder.fallback = none
  unset : environment.get? (String.ofList placeholder.name) = none

/-- The first of some placeholders that is missing is that of the variable. -/
def FirstMissing (environment : Environment) (found : List Placeholder) (name : String) : Prop :=
  ∃ before placeholder after, found = before ++ placeholder :: after ∧
    (∀ earlier ∈ before, ¬ earlier.IsMissing environment) ∧ placeholder.IsMissing environment ∧
    name = String.ofList placeholder.name

theorem value?_eq_none_iff : placeholder.value? environment = none ↔
    placeholder.IsMissing environment := by
  rw [value?]
  constructor
  · intro value_eq
    cases unset : environment.get? (String.ofList placeholder.name) with
    | some value =>
      rw [unset] at value_eq
      cases value_eq
    | none =>
      rw [unset] at value_eq
      exact ⟨Option.map_eq_none_iff.mp value_eq, unset⟩
  · rintro ⟨no_fallback, unset⟩
    rw [no_fallback, unset]
    rfl

/-- Whether a placeholder is missing does not depend on values. -/
theorem isMissing_congr
    (same : ∀ name, (environment.get? name).isSome = (other.get? name).isSome) :
    placeholder.IsMissing environment ↔ placeholder.IsMissing other := by
  have unset_iff : environment.get? (String.ofList placeholder.name) = none ↔
      other.get? (String.ofList placeholder.name) = none := by
    rw [← Option.isNone_iff_eq_none, ← Option.isNone_iff_eq_none, ← Option.isSome_eq_false_iff,
      ← Option.isSome_eq_false_iff, same]
  exact ⟨fun missing ↦ ⟨missing.no_fallback, unset_iff.mp missing.unset⟩,
    fun missing ↦ ⟨missing.no_fallback, unset_iff.mpr missing.unset⟩⟩

theorem not_firstMissing_nil : ¬ FirstMissing environment [] name := by
  rintro ⟨before, placeholder, after, found_eq, -⟩
  cases before <;> cases found_eq

theorem firstMissing_cons_iff : FirstMissing environment (placeholder :: found) name ↔
    (placeholder.IsMissing environment ∧ name = String.ofList placeholder.name) ∨
      (¬ placeholder.IsMissing environment ∧ FirstMissing environment found name) := by
  constructor
  · rintro ⟨before, missing, after, found_eq, earlier, is_missing, name_eq⟩
    cases before with
    | nil =>
      cases found_eq
      exact .inl ⟨is_missing, name_eq⟩
    | cons first before =>
      cases found_eq
      obtain ⟨not_first, earlier⟩ := List.forall_mem_cons.mp earlier
      exact .inr ⟨not_first, before, missing, after, rfl, earlier, is_missing, name_eq⟩
  · rintro (⟨is_missing, name_eq⟩ | ⟨not_missing, before, missing, after, rfl, earlier, rest⟩)
    · exact ⟨[], placeholder, found, rfl, List.forall_mem_nil _, is_missing, name_eq⟩
    · exact ⟨placeholder :: before, missing, after, rfl,
        List.forall_mem_cons.mpr ⟨not_missing, earlier⟩, rest⟩

/-- There is a first missing one if there is any. -/
theorem exists_firstMissing_iff : (∃ name, FirstMissing environment found name) ↔
    ∃ placeholder ∈ found, placeholder.IsMissing environment := by
  induction found with
  | nil =>
    constructor
    · rintro ⟨name, first⟩
      exact absurd first not_firstMissing_nil
    · rintro ⟨placeholder, ⟨⟩, -⟩
  | cons placeholder found ih =>
    simp only [firstMissing_cons_iff, List.mem_cons, exists_eq_or_imp, ← ih]
    by_cases missing : placeholder.IsMissing environment
    · exact ⟨fun _ ↦ .inl missing, fun _ ↦ ⟨_, .inl ⟨missing, rfl⟩⟩⟩
    · simp [missing]

/-! ## Expansion -/

/-- Replacing ends with the first missing placeholder, whatever the text is by then. -/
theorem replaceEach_eq_error_iff :
    replaceEach environment found s = .error name ↔ FirstMissing environment found name := by
  induction found generalizing s with
  | nil =>
    rw [replaceEach_nil]
    exact ⟨nofun, fun first ↦ absurd first not_firstMissing_nil⟩
  | cons placeholder found ih =>
    rw [firstMissing_cons_iff, ← value?_eq_none_iff, replaceEach]
    cases placeholder.value? environment with
    | some value => simp [ih]
    | none => simp [eq_comm]

theorem expand_eq_error_iff :
    expand environment s = .error name ↔ FirstMissing environment (all s) name :=
  replaceEach_eq_error_iff

end Placeholder

/-- The configuration of a text fails for a missing variable if and only if its expansion does. -/
theorem Config.ofText_eq_variableNotFound_iff {environment : Environment} {s name : String} :
    Config.ofText environment s = .error (.variableNotFound name) ↔
      Placeholder.expand environment s = .error name := by
  rw [Config.ofText, Config.mapError_bind_eq_error]
  constructor
  · rintro (⟨missing, expand_eq, name_eq⟩ | ⟨expanded, -, later_eq⟩)
    · cases name_eq
      exact expand_eq
    -- The later stages have failures of their own.
    rcases Config.mapError_bind_eq_error.mp later_eq with ⟨line, -, line_eq⟩ | ⟨config, -, flawed⟩
    · cases line_eq
    · obtain ⟨flaw, -, flaw_eq⟩ := Config.checked_eq_error_iff.mp flawed
      cases flaw_eq
  · intro expand_eq
    exact .inl ⟨name, expand_eq, rfl⟩

namespace Placeholder

/-- **Variables that are missing.**  The placeholders of a text are met in one way.  Expansion fails
if and only if one of them has no fallback and its variable is not set, and the failure names the
variable of the first such placeholder.  The values of the variables neither cause a failure nor
hide one, since only the names of those that are set count.  A text in which no placeholder stands
is expanded to itself. -/
theorem expand_failsFirst (s : String) :
    ∃ found, Meets s.toList found ∧ (∀ others, Meets s.toList others → others = found) ∧
      (∀ environment, (∃ name, expand environment s = .error name) ↔
        ∃ placeholder ∈ found, placeholder.IsMissing environment) ∧
      (∀ environment name,
        (expand environment s = .error name ↔ FirstMissing environment found name) ∧
        (Config.ofText environment s = .error (.variableNotFound name) ↔
          FirstMissing environment found name)) ∧
      (∀ environment other : Environment,
        (∀ name, (environment.get? name).isSome = (other.get? name).isSome) →
        ∀ name, expand environment s = .error name ↔ expand other s = .error name) ∧
      ((∀ placeholder : Placeholder, placeholder.WellFormed →
          ¬ placeholder.text <:+: s.toList) →
        ∀ environment, expand environment s = .ok s) := by
  have first_iff (environment : Environment) (name : String) :
      expand environment s = .error name ↔ FirstMissing environment (all s) name :=
    expand_eq_error_iff
  refine ⟨all s, meets_all s, fun others meets ↦ meets_iff.mp meets, ?_, ?_, ?_, ?_⟩
  · intro environment
    simp only [first_iff, exists_firstMissing_iff]
  · intro environment name
    exact ⟨first_iff environment name,
      Config.ofText_eq_variableNotFound_iff.trans (first_iff environment name)⟩
  · intro environment other same name
    simp only [first_iff, FirstMissing, isMissing_congr same]
  · intro absent environment
    exact expand_of_all_eq_nil (all_eq_nil_of_absent absent)

/-- A placeholder in a value is no placeholder of the text. -/
example : expand [("A", "$\x7bB\x7d")] "$\x7bA\x7d" = .ok "$\x7bB\x7d" := by
  decide +kernel

end Placeholder

end AuditTrail
