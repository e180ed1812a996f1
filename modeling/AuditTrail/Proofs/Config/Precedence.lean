import AuditTrail.Proofs.Config.Variables

/-!
# Which value a variable has

A file of variables is a sequence of bindings, in which a name may occur more than once.  Each of
them takes effect only if the variable is not set by then, so that the first one counts, and none if
the variable was set before.  The files of a directory are read into the same variables, one after
the other: the variables of the process come first, and then the files from the most particular one
to the last one.

The value of a binding may refer to other variables, and it is read when those of the bindings
before it are set.  So it is a relation that says as which bindings a text is read, since this
depends on the variables that are known at the beginning.
-/

namespace AuditTrail

/-! ## First bindings -/

namespace EnvFile

variable {name : String} {binding : Binding} {bindings others : List Binding}

/-- The value of the first binding of a name. -/
def firstValue? (name : String) (bindings : List Binding) : Option String :=
  (bindings.find? fun binding ↦ binding.name = name).map (·.value)

@[simp] theorem firstValue?_nil (name : String) : firstValue? name [] = none := rfl

theorem firstValue?_cons (name : String) (binding : Binding) (bindings : List Binding) :
    firstValue? name (binding :: bindings) =
      if binding.name = name then some binding.value else firstValue? name bindings := by
  by_cases same : binding.name = name <;> simp [firstValue?, same]

theorem firstValue?_append (name : String) (bindings others : List Binding) :
    firstValue? name (bindings ++ others) =
      (firstValue? name bindings <|> firstValue? name others) := by
  rw [firstValue?, firstValue?, firstValue?, List.find?_append]
  cases bindings.find? fun binding ↦ binding.name = name <;> rfl

end EnvFile

namespace Environment

open EnvFile (Binding firstValue? firstValue?_cons)

/-- The variables after some bindings, each of which takes effect if its variable is not set. -/
def defineAll (environment : Environment) (bindings : List Binding) : Environment :=
  bindings.foldl (fun environment binding ↦ environment.define binding.name binding.value)
    environment

@[simp] theorem defineAll_nil (environment : Environment) :
    environment.defineAll [] = environment :=
  rfl

theorem defineAll_cons (environment : Environment) (binding : Binding) (bindings : List Binding) :
    environment.defineAll (binding :: bindings) =
      (environment.define binding.name binding.value).defineAll bindings :=
  rfl

theorem defineAll_append (environment : Environment) (bindings others : List Binding) :
    environment.defineAll (bindings ++ others) =
      (environment.defineAll bindings).defineAll others :=
  List.foldl_append

theorem get?_define (environment : Environment) (name value other : String) :
    (environment.define name value).get? other =
      (environment.get? other <|> if name = other then some value else none) := by
  rw [define]
  split
  next is_set =>
    obtain ⟨kept, kept_eq⟩ := Option.isSome_iff_exists.mp is_set
    by_cases same : name = other
    · rw [← same, kept_eq]
      rfl
    · rw [if_neg same, Option.orElse_eq_orElse, Option.orElse_eq_or, Option.or_none]
  next unset =>
    rw [Entries.get?_insert]
    by_cases same : name = other
    · rw [← same, if_pos rfl, if_pos rfl, Option.not_isSome_iff_eq_none.mp unset]
      rfl
    · rw [if_neg same, if_neg same, Option.orElse_eq_orElse, Option.orElse_eq_or, Option.or_none]

/-- A variable keeps its value, and one that is not set gets that of its first binding. -/
theorem get?_defineAll (environment : Environment) (bindings : List Binding) (name : String) :
    (environment.defineAll bindings).get? name =
      (environment.get? name <|> firstValue? name bindings) := by
  induction bindings generalizing environment with
  | nil => simp
  | cons binding bindings ih =>
    rw [defineAll_cons, ih, get?_define, firstValue?_cons]
    cases environment.get? name with
    | some value => rfl
    | none => by_cases same : binding.name = name <;> simp [same]

end Environment

/-! ## Files as bindings -/

namespace EnvFile

/-- The statements of a text are read as some bindings.  Each statement is read when the bindings
before it have taken effect. -/
inductive Reads : Known → Environment → List Char → List Binding → Prop
  | ends {known environment cs} : statement? [] .bare cs = none → Reads known environment cs []
  | skips {known environment cs statement rest bindings} :
      statement? [] .bare cs = some (some statement, rest) →
      binding? (lookup environment known) statement = some none →
      Reads known environment rest bindings → Reads known environment cs bindings
  | binds {known environment cs statement rest} {binding : Binding} {bindings} :
      statement? [] .bare cs = some (some statement, rest) →
      binding? (lookup environment known) statement = some (some binding) →
      Reads (known.insert binding.name binding.value)
        (environment.define binding.name binding.value) rest bindings →
      Reads known environment cs (binding :: bindings)

variable {environment after : Environment} {known : Known} {fuel : Nat} {cs rest : List Char}
  {bytes : List UInt8} {bindings : List Binding}

/-- A statement takes one character at least. -/
theorem length_lt_of_statement? {before statement : List Char} {state : LineState}
    (statement_eq : statement? before state cs = some (some statement, rest)) :
    rest.length < cs.length := by
  -- Whichever way a statement ends, what follows it is what follows its last line.
  have later {c : Char} {cs : List Char} {found : List Char}
      (eq : some (some found, (splitLine (c :: cs)).2) = some (some statement, rest)) :
      rest.length < (c :: cs).length :=
    (Prod.mk.inj (Option.some.inj eq)).2 ▸ length_splitLine_lt c cs
  fun_induction statement? before state cs with
  | case1 => cases statement_eq
  | case2 => cases statement_eq
  | case3 => exact later statement_eq
  | case4 => exact later statement_eq
  | case5 => exact later statement_eq
  | case6 before state c cs line after comment text last scan_eq open_line ih =>
    exact Nat.lt_trans (ih statement_eq) (length_splitLine_lt c cs)

/-- Reading comes to its end if and only if the text is read as some bindings, and these have taken
effect then. -/
theorem loadFrom_eq_iff (enough : cs.length < fuel) :
    loadFrom known environment fuel cs = (after, true) ↔
      ∃ bindings, Reads known environment cs bindings ∧ after = environment.defineAll bindings := by
  induction fuel generalizing known environment cs with
  | zero => cases enough
  | succ fuel ih =>
    have shorter {statement rest : List Char}
        (statement_eq : statement? [] .bare cs = some (some statement, rest)) :
        rest.length < fuel := by
      have rest_lt := length_lt_of_statement? statement_eq
      omega
    rw [loadFrom]
    constructor
    · intro load_eq
      cases statement_eq : statement? [] .bare cs with
      | none =>
        rw [statement_eq] at load_eq
        cases load_eq
        exact ⟨[], .ends statement_eq, rfl⟩
      | some read =>
        obtain ⟨_ | statement, rest⟩ := read
        · rw [statement_eq] at load_eq
          cases load_eq
        rw [statement_eq] at load_eq
        cases binding_eq : binding? (lookup environment known) statement with
        | none =>
          simp only [binding_eq] at load_eq
          cases load_eq
        | some binding =>
          cases binding with
          | none =>
            simp only [binding_eq] at load_eq
            obtain ⟨bindings, reads, after_eq⟩ := (ih (shorter statement_eq)).mp load_eq
            exact ⟨bindings, .skips statement_eq binding_eq reads, after_eq⟩
          | some binding =>
            simp only [binding_eq] at load_eq
            obtain ⟨bindings, reads, after_eq⟩ := (ih (shorter statement_eq)).mp load_eq
            exact ⟨binding :: bindings, .binds statement_eq binding_eq reads, after_eq⟩
    · rintro ⟨bindings, reads, after_eq⟩
      cases reads with
      | ends statement_eq =>
        rw [statement_eq, after_eq]
        rfl
      | skips statement_eq binding_eq reads =>
        simp only [statement_eq, binding_eq]
        exact (ih (shorter statement_eq)).mpr ⟨bindings, reads, after_eq⟩
      | binds statement_eq binding_eq reads =>
        simp only [statement_eq, binding_eq]
        exact (ih (shorter statement_eq)).mpr ⟨_, reads, after_eq⟩

/-- The characters of a file, behind the mark that may stand before them. -/
def characters? (bytes : List UInt8) : Option (List Char) :=
  Text.Utf8.decode? (if byteOrderMark <+: bytes then bytes.drop 3 else bytes)

theorem load_eq_iff : load environment bytes = (after, true) ↔
    ∃ cs bindings, characters? bytes = some cs ∧ Reads [] environment cs bindings ∧
      after = environment.defineAll bindings := by
  unfold load
  extract_lets bytes
  have characters_eq : characters? _ = Text.Utf8.decode? bytes := rfl
  rw [characters_eq]
  cases Text.Utf8.decode? bytes with
  | none => simp
  | some cs => simp [loadFrom_eq_iff (Nat.lt_succ_self cs.length)]

end EnvFile

namespace Environment

open EnvFile (Binding firstValue? firstValue?_append)

variable {directory : Directory} {environment after : Environment} {file : String}

/-! ## The files of a directory -/

/-- A file of a directory is read as some bindings; a missing one has none. -/
inductive FileReads (directory : Directory) (file : String) (environment : Environment) :
    List Binding → Prop
  | missing : directory.find (.ofString file) = .missing →
      FileReads directory file environment []
  | present {bytes : List UInt8} {cs : List Char} {bindings : List Binding} :
      directory.find (.ofString file) = .file bytes → EnvFile.characters? bytes = some cs →
      EnvFile.Reads [] environment cs bindings → FileReads directory file environment bindings

theorem loadFile_eq_iff : loadFile directory file environment = (after, none) ↔
    ∃ bindings, FileReads directory file environment bindings ∧
      after = environment.defineAll bindings := by
  rw [loadFile]
  constructor
  · intro load_eq
    cases found : directory.find (.ofString file) with
    | missing =>
      rw [found] at load_eq
      cases load_eq
      exact ⟨[], .missing found, rfl⟩
    | blocked =>
      rw [found] at load_eq
      cases load_eq
    | directory =>
      rw [found] at load_eq
      cases load_eq
    | file bytes =>
      rw [found] at load_eq
      obtain ⟨after_eq, error_eq⟩ := Prod.mk.inj load_eq
      have complete : (EnvFile.load environment bytes).2 = true :=
        Decidable.byContradiction fun broken ↦ by
          cases (if_neg broken).symm.trans error_eq
      obtain ⟨cs, bindings, characters_eq, reads, after_eq⟩ :=
        EnvFile.load_eq_iff.mp (Prod.ext after_eq complete)
      exact ⟨bindings, .present found characters_eq reads, after_eq⟩
  · rintro ⟨bindings, reads, after_eq⟩
    cases reads with
    | missing found =>
      rw [found, after_eq]
      rfl
    | present found characters_eq reads =>
      rw [found]
      dsimp only
      rw [EnvFile.load_eq_iff.mpr ⟨_, _, characters_eq, reads, after_eq⟩]
      rfl

/-- **Which value a variable has.**  The files of a directory can be read if and only if there are
bindings as which they are read, one after the other: those of the local file, those of the file of
the surroundings, if the process or else the local file names these, and those of the last file.  A
variable then has the value that it had before, or else that of its first binding in the first of
these files that binds it, and one that is not bound in any of them is not set. -/
theorem init_precedence (directory : Directory) (environment after : Environment) :
    environment.init directory = (after, none) ↔
      ∃ own named last,
        FileReads directory ".env.local" environment own ∧
        (∀ name, (environment.get? surroundings <|> firstValue? surroundings own) = some name →
          FileReads directory (".env." ++ name) (environment.defineAll own) named) ∧
        ((environment.get? surroundings <|> firstValue? surroundings own) = none → named = []) ∧
        FileReads directory ".env" (environment.defineAll (own ++ named)) last ∧
        after = environment.defineAll (own ++ named ++ last) ∧
        ∀ name, after.get? name = (environment.get? name <|> firstValue? name own <|>
          firstValue? name named <|> firstValue? name last) := by
  rw [init_eq_iff]
  simp only [← get?_defineAll]
  constructor
  · rintro ⟨after_own, after_named, own_eq, named_eq, last_eq⟩
    obtain ⟨own, own_reads, rfl⟩ := loadFile_eq_iff.mp own_eq
    obtain ⟨named, named_reads, none_named, rfl⟩ : ∃ named,
        (∀ name, (environment.defineAll own).get? surroundings = some name →
          FileReads directory (".env." ++ name) (environment.defineAll own) named) ∧
        ((environment.defineAll own).get? surroundings = none → named = []) ∧
        after_named = environment.defineAll (own ++ named) := by
      cases name_eq : (environment.defineAll own).get? surroundings with
      | none =>
        rw [name_eq] at named_eq
        cases named_eq
        exact ⟨[], nofun, fun _ ↦ rfl, by rw [List.append_nil]⟩
      | some name =>
        rw [name_eq] at named_eq
        obtain ⟨named, named_reads, after_eq⟩ := loadFile_eq_iff.mp named_eq
        refine ⟨named, ?_, nofun, by rw [after_eq, defineAll_append]⟩
        rintro _ ⟨⟩
        exact named_reads
    obtain ⟨last, last_reads, rfl⟩ := loadFile_eq_iff.mp last_eq
    refine ⟨own, named, last, own_reads, named_reads, none_named, last_reads,
      (defineAll_append _ _ _).symm, fun name ↦ ?_⟩
    rw [← defineAll_append, List.append_assoc, get?_defineAll, firstValue?_append,
      firstValue?_append]
  · rintro ⟨own, named, last, own_reads, named_reads, none_named, last_reads, rfl, -⟩
    refine ⟨environment.defineAll own, environment.defineAll (own ++ named),
      loadFile_eq_iff.mpr ⟨own, own_reads, rfl⟩, ?_,
      loadFile_eq_iff.mpr ⟨last, last_reads, defineAll_append _ _ _⟩⟩
    cases name_eq : (environment.defineAll own).get? surroundings with
    | none =>
      rw [none_named name_eq, List.append_nil]
      rfl
    | some name =>
      exact loadFile_eq_iff.mpr ⟨named, named_reads name name_eq, defineAll_append _ _ _⟩

end Environment

end AuditTrail
