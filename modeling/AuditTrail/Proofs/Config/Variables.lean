import AuditTrail.Config.Load

/-!
# Variables that are set stay set

Reading a file of variables only ever adds variables.  Which names a file binds and whether all of
it can be read depends on its text alone, and not on the variables that its values refer to.  So a
file that has been read changes nothing when it is read again, in whatever is left of the
surroundings by then.

The files of a directory are another matter, since a variable says which of them are read.  If the
last one sets this variable, then the next process to start from here reads one file more.
-/

namespace AuditTrail

namespace Environment

variable {before environment after : Environment} {name value : String}

/-- Every variable that is set in one environment has the same value in the other, which is the
same environment if it sets no further ones. -/
structure Extends (after before : Environment) : Prop where
  keeps : ∀ name value, before.get? name = some value → after.get? name = some value
  eq_of_isSome : (∀ name, (after.get? name).isSome → (before.get? name).isSome) → after = before

namespace Extends

theorem refl (environment : Environment) : environment.Extends environment :=
  ⟨fun _ _ value_eq ↦ value_eq, fun _ ↦ rfl⟩

theorem isSome (later : after.Extends before) (is_set : (before.get? name).isSome) :
    (after.get? name).isSome := by
  obtain ⟨value, value_eq⟩ := Option.isSome_iff_exists.mp is_set
  rw [later.keeps name value value_eq, Option.isSome_some]

theorem trans (later : after.Extends environment) (earlier : environment.Extends before) :
    after.Extends before where
  keeps name value value_eq := later.keeps name value (earlier.keeps name value value_eq)
  eq_of_isSome none_new := by
    obtain rfl := earlier.eq_of_isSome fun name is_set ↦ none_new name (later.isSome is_set)
    exact later.eq_of_isSome none_new

theorem antisymm (later : after.Extends before) (earlier : before.Extends after) :
    after = before :=
  later.eq_of_isSome fun _ ↦ earlier.isSome

end Extends

/-- A variable that is set keeps its value whatever is defined. -/
theorem extends_define (environment : Environment) (name value : String) :
    (environment.define name value).Extends environment := by
  rw [define]
  split
  next => exact .refl environment
  next unset =>
    refine ⟨fun other kept kept_eq ↦ ?_, fun none_new ↦ absurd (none_new name ?_) unset⟩
    · have ne : name ≠ other := by
        rintro rfl
        exact unset (kept_eq ▸ rfl)
      rw [Entries.get?_insert, if_neg ne, kept_eq]
    · rw [Entries.get?_insert, if_pos rfl, Option.isSome_some]

theorem isSome_get?_define (environment : Environment) (name value : String) :
    ((environment.define name value).get? name).isSome := by
  rw [define]
  split
  next is_set => exact is_set
  next => rw [Entries.get?_insert, if_pos rfl, Option.isSome_some]

/-- What has been defined is not defined again. -/
theorem define_of_extends {old : String} (defined : after.Extends (environment.define name old)) :
    after.define name value = after := by
  obtain ⟨found, found_eq⟩ := Option.isSome_iff_exists.mp (isSome_get?_define environment name old)
  rw [define, defined.keeps name found found_eq, Option.isSome_some, if_pos rfl]

end Environment

namespace EnvFile

open Environment (Extends)

/-! ## Statements -/

/-- Whether a value can be read does not depend on what its references stand for. -/
theorem isSome_value? (refer other : List Char → List Char) (state : ValueState)
    (cs : List Char) : (value? refer state cs).isSome = (value? other state cs).isSome := by
  fun_induction value? refer state cs with
  | case19 _ _ _ c => by_cases c = '\x7b' <;> simp_all [value?]
  | _ => simp_all [value?]

/-- Nor does the name that a statement binds. -/
theorem map_name_binding? (refer other : List Char → List Char) (statement : List Char) :
    (binding? refer statement).map (Option.map Binding.name) =
      (binding? other statement).map (Option.map Binding.name) := by
  unfold binding?
  dsimp only
  split
  next => rfl
  next =>
    cases target? (Text.trim (String.ofList statement)).toList with
    | none => rfl
    | some target =>
      obtain ⟨name, rest⟩ := target
      simp only [Option.bind_eq_bind, Option.bind_some]
      split
      next => rfl
      next =>
        have same := isSome_value? refer other .bare (rest.dropWhile Text.isBlank)
        cases first_eq : value? refer .bare (rest.dropWhile Text.isBlank) with
        | none =>
          rw [first_eq, Option.isSome_none, eq_comm, Option.isSome_eq_false_iff,
            Option.isNone_iff_eq_none] at same
          rw [same]
        | some value =>
          rw [first_eq, Option.isSome_some, eq_comm, Option.isSome_iff_exists] at same
          obtain ⟨second, second_eq⟩ := same
          rw [second_eq]
          rfl

/-! ## Files -/

variable {environment after later : Environment} {known other : Known} {fuel : Nat}
  {cs : List Char} {bytes : List UInt8}

/-- Statements only add variables. -/
theorem extends_loadFrom (known : Known) (environment : Environment) (fuel : Nat)
    (cs : List Char) : (loadFrom known environment fuel cs).1.Extends environment := by
  induction fuel generalizing known environment cs with
  | zero => exact .refl environment
  | succ fuel ih =>
    rw [loadFrom]
    split
    next => exact .refl environment
    next => exact .refl environment
    next statement rest _ =>
      split
      next => exact .refl environment
      next => exact ih known environment rest
      next binding _ =>
        exact (ih _ _ rest).trans (environment.extends_define binding.name binding.value)

/-- Statements that have been read change nothing when they are read again. -/
theorem loadFrom_again (load_eq : loadFrom known environment fuel cs = (after, true))
    (extends_after : later.Extends after) (other : Known) :
    loadFrom other later fuel cs = (later, true) := by
  induction fuel generalizing known environment other cs with
  | zero => rfl
  | succ fuel ih =>
    rw [loadFrom] at load_eq ⊢
    cases statement_eq : statement? [] .bare cs with
    | none => rfl
    | some read =>
      obtain ⟨_ | statement, rest⟩ := read
      · rw [statement_eq] at load_eq
        cases load_eq
      -- The statement binds the same name as before, or none as before.
      have names_eq := map_name_binding? (lookup environment known) (lookup later other) statement
      rw [statement_eq] at load_eq
      cases first_eq : binding? (lookup environment known) statement with
      | none =>
        simp only [first_eq] at load_eq
        cases load_eq
      | some first =>
        rw [first_eq, Option.map_some, eq_comm, Option.map_eq_some_iff] at names_eq
        obtain ⟨second, second_eq, name_eq⟩ := names_eq
        simp only [first_eq] at load_eq
        simp only [second_eq]
        rcases first with _ | first <;> rcases second with _ | second
        · exact ih load_eq other
        · cases name_eq
        · cases name_eq
        · have name_eq : second.name = first.name := Option.some_inj.mp name_eq
          have defined : later.Extends (environment.define first.name first.value) := by
            have after_eq : (loadFrom _ _ fuel rest).1 = after := congrArg Prod.fst load_eq
            exact extends_after.trans (after_eq ▸ extends_loadFrom _ _ fuel rest)
          dsimp only
          rw [name_eq, Environment.define_of_extends defined]
          exact ih load_eq _

theorem extends_load (environment : Environment) (bytes : List UInt8) :
    (load environment bytes).1.Extends environment := by
  rw [load]
  dsimp only
  split <;> exact extends_loadFrom [] environment _ _

theorem load_again (load_eq : load environment bytes = (after, true))
    (extends_after : later.Extends after) : load later bytes = (later, true) := by
  rw [load] at load_eq ⊢
  dsimp only at load_eq ⊢
  cases decode_eq :
      Text.Utf8.decode? (if byteOrderMark <+: bytes then bytes.drop 3 else bytes) with
  | none =>
    rw [decode_eq] at load_eq
    cases load_eq
  | some cs =>
    rw [decode_eq] at load_eq
    exact loadFrom_again load_eq extends_after []

end EnvFile

namespace Environment

/-! ## Directories -/

variable {directory : Directory} {environment after later : Environment} {file : String}

theorem extends_of_loadFile_eq {error : Option EnvironmentError}
    (load_eq : loadFile directory file environment = (after, error)) :
    after.Extends environment := by
  rw [loadFile] at load_eq
  split at load_eq
  next =>
    cases load_eq
    exact .refl environment
  next bytes _ =>
    cases load_eq
    exact EnvFile.extends_load environment bytes
  next =>
    cases load_eq
    exact .refl environment

/-- A file that has been read changes nothing when it is read again. -/
theorem loadFile_again (load_eq : loadFile directory file environment = (after, none))
    (extends_after : later.Extends after) : loadFile directory file later = (later, none) := by
  rw [loadFile] at load_eq ⊢
  revert load_eq
  cases directory.find (.ofString file) with
  | missing => exact fun _ ↦ rfl
  | file bytes =>
    intro load_eq
    obtain ⟨after_eq, error_eq⟩ := Prod.mk.inj load_eq
    have complete : (EnvFile.load environment bytes).2 = true :=
      Decidable.byContradiction fun broken ↦ nomatch (if_neg broken).symm.trans error_eq
    dsimp only
    rw [EnvFile.load_again (Prod.ext after_eq complete) extends_after]
    rfl
  | blocked => exact nofun
  | directory => exact nofun

/-! ## The files of a directory -/

theorem loadFiles_cons_eq_iff {name : Environment → Option String}
    {rest : List (Environment → Option String)} :
    loadFiles directory (name :: rest) environment = (after, none) ↔
      ∃ between,
        ((name environment).elim (environment, none) fun file ↦
          loadFile directory file environment) = (between, none) ∧
        loadFiles directory rest between = (after, none) := by
  rw [loadFiles]
  cases name environment with
  | none => simp
  | some file =>
    simp only [Option.elim_some]
    obtain ⟨between, _ | error⟩ := loadFile directory file environment <;> simp

theorem loadFiles_nil_eq_iff : loadFiles directory [] environment = (after, none) ↔
    environment = after := by
  rw [loadFiles, Prod.mk.injEq, and_iff_left rfl]

/-- The variables after the files of a directory, file by file. -/
theorem init_eq_iff : environment.init directory = (after, none) ↔
    ∃ own named, loadFile directory ".env.local" environment = (own, none) ∧
      ((own.get? surroundings).elim (own, none) fun name ↦
        loadFile directory (".env." ++ name) own) = (named, none) ∧
      loadFile directory ".env" named = (after, none) := by
  have elim_map (own : Environment) :
      (((own.get? surroundings).map (".env." ++ ·)).elim (own, none) fun file ↦
        loadFile directory file own) =
      (own.get? surroundings).elim (own, none) fun name ↦
        loadFile directory (".env." ++ name) own := by
    cases own.get? surroundings <;> rfl
  simp only [init, fileNames, loadFiles_cons_eq_iff, loadFiles_nil_eq_iff, Option.elim_some,
    elim_map, exists_eq_right, exists_and_left]

/-! ## Reading the files twice -/

/-- **Reading the files twice.**  Files that have been read change nothing when they are read again,
unless the last one sets the name of the surroundings and this was not known before.  Then the file
of these surroundings is read as well, and nothing changes exactly if that file has nothing to add.
If nothing changes, then loading the directory again has the outcome that it had before. -/
theorem init_again_iff (directory : Directory) (environment : Environment) {after : Environment}
    (init_eq : environment.init directory = (after, none)) :
    (after.init directory = (after, none) ↔
      ∀ name, after.get? surroundings = some name →
        (loadFile directory ".env.local" environment).1.get? surroundings = none →
        loadFile directory (".env." ++ name) after = (after, none)) ∧
    (after.init directory = (after, none) →
      Config.load directory after = Config.load directory environment) := by
  obtain ⟨own, named, own_eq, named_eq, after_eq⟩ := init_eq_iff.mp init_eq
  have after_named : after.Extends named := extends_of_loadFile_eq after_eq
  have named_own : named.Extends own := by
    cases name_eq : own.get? surroundings with
    | none =>
      rw [name_eq] at named_eq
      cases named_eq
      exact .refl own
    | some name =>
      rw [name_eq] at named_eq
      exact extends_of_loadFile_eq named_eq
  have own_again : loadFile directory ".env.local" after = (after, none) :=
    loadFile_again own_eq (after_named.trans named_own)
  refine ⟨?_, fun again_eq ↦ by rw [Config.load, Config.load, again_eq, init_eq]⟩
  rw [init_eq_iff, own_eq]
  constructor
  · rintro ⟨own', named', own_eq', named_eq', after_eq'⟩ name name_eq -
    cases own_again.symm.trans own_eq'
    rw [name_eq, Option.elim_some] at named_eq'
    -- What the file of the surroundings adds cannot be taken away by the last one.
    have same : named' = after :=
      (extends_of_loadFile_eq named_eq').antisymm (extends_of_loadFile_eq after_eq')
    rw [named_eq', same]
  · intro unchanged
    refine ⟨after, after, own_again, ?_, loadFile_again after_eq (.refl after)⟩
    cases name_eq : after.get? surroundings with
    | none => rfl
    | some name =>
      cases own_name_eq : own.get? surroundings with
      | none => exact unchanged name name_eq own_name_eq
      | some own_name =>
        cases name_eq.symm.trans ((after_named.trans named_own).keeps _ _ own_name_eq)
        rw [own_name_eq] at named_eq
        exact loadFile_again named_eq after_named

/-- A directory whose first file of variables names the surroundings. -/
def earlyDirectory : Directory :=
  [([".env.local"], .file (Text.Utf8.ofString "BULWARK_ENV=prod\nHOST=here\n")),
    ([".env.prod"], .file (Text.Utf8.ofString "HOST=there\nURL=http://$HOST\n")),
    ([".env"], .file (Text.Utf8.ofString "BULWARK_ENV=dev\nURL=none\n"))]

theorem init_earlyDirectory_again :
    let after : Environment := [("BULWARK_ENV", "prod"), ("HOST", "here"), ("URL", "http://here")]
    init earlyDirectory [] = (after, none) ∧ after.init earlyDirectory = (after, none) ∧
      Config.load earlyDirectory after = Config.load earlyDirectory [] := by
  intro after
  have init_eq : init earlyDirectory [] = (after, none) := by decide +kernel
  have known : (loadFile earlyDirectory ".env.local" []).1.get? surroundings = some "prod" := by
    decide +kernel
  obtain ⟨again_iff, load_again⟩ := init_again_iff earlyDirectory [] init_eq
  have again_eq := again_iff.mpr fun _ _ unknown ↦ nomatch known.symm.trans unknown
  exact ⟨init_eq, again_eq, load_again again_eq⟩

/-- A directory whose last file of variables names the surroundings. -/
def lateDirectory : Directory :=
  [([".env"], .file (Text.Utf8.ofString "BULWARK_ENV=prod\n")),
    ([".env.prod"], .file (Text.Utf8.ofString "BULWARK_DISPATCH_WORKERS=7\n"))]

/-- Reading the files of this directory again sets a further variable, and loading it again gives
another configuration. -/
theorem load_lateDirectory_again_ne :
    let after : Environment := [("BULWARK_ENV", "prod")]
    init lateDirectory [] = (after, none) ∧ (after.init lateDirectory).1 ≠ after ∧
      (Config.load lateDirectory []).toOption.map (·.dispatcher.workers) = some 2 ∧
      (Config.load lateDirectory after).toOption.map (·.dispatcher.workers) = some 7 := by
  intro after
  exact ⟨by decide +kernel, by decide +kernel, by decide +kernel, by decide +kernel⟩

end Environment

end AuditTrail
