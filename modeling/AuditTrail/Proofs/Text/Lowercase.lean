import Mathlib
import AuditTrail.Text.Lowercase

/-!
# What lower-case forms do not depend on

The lower-case form of a text is not that of one character after the other: the dotted capital I
becomes two characters, and what a capital sigma becomes depends on what stands before and after it,
as far as the next character that has a case.

Two laws hold all the same.  A lower-case form is its own lower-case form: the table leads to no
character that it moves itself, and no capital sigma is left.  The first is a property of the table,
for which its runs are compared with each other.  And the case of ASCII letters does not matter: the
two forms of a letter have one lower-case form, and a sigma that looks for a character with a case
cannot tell them apart.
-/

namespace AuditTrail.Text

/-! ## Where the table leads to -/

namespace CaseRun

theorem covers_iff {run : CaseRun} {n : Nat} :
    run.covers n = true ↔ run.first ≤ n ∧ n ≤ run.last ∧ run.step ∣ n - run.first := by
  rw [covers, Bool.and_eq_true, Bool.and_eq_true, decide_eq_true_iff, decide_eq_true_iff,
    beq_iff_eq, ← Nat.dvd_iff_mod_eq_zero, and_assoc]

/-- The code points to which a run leads. -/
def image (run : CaseRun) : CaseRun where
  first := (run.first + run.offset).toNat
  last := (run.last + run.offset).toNat
  step := run.step
  offset := 0

theorem covers_image {run : CaseRun} {n : Nat} (covers : run.covers n = true)
    (positive : 0 < run.image.first) : run.image.covers (n + run.offset).toNat = true := by
  obtain ⟨first_le, le_last, dvd⟩ := covers_iff.mp covers
  have first_pos : 0 < (run.first + run.offset).toNat := positive
  have distance_eq : (n + run.offset).toNat - (run.first + run.offset).toNat = n - run.first := by
    omega
  refine covers_iff.mpr ⟨Int.toNat_le_toNat (by omega), Int.toNat_le_toNat (by omega), ?_⟩
  exact distance_eq.symm ▸ dvd

/-- All code points of the run are those of characters, and zero is not among them. -/
def isOfChars (run : CaseRun) : Bool :=
  0 < run.first && (run.last < 0xD800 || 0xDFFF < run.first && run.last < 0x110000)

theorem first_pos_of_isOfChars {run : CaseRun} (chars : run.isOfChars = true) : 0 < run.first :=
  of_decide_eq_true ((Bool.and_eq_true _ _).mp chars).1

theorem isValidChar_of_covers {run : CaseRun} {n : Nat} (covers : run.covers n = true)
    (chars : run.isOfChars = true) : n.isValidChar := by
  obtain ⟨first_le, le_last, -⟩ := covers_iff.mp covers
  simp only [isOfChars, Bool.and_eq_true, Bool.or_eq_true, decide_eq_true_iff] at chars
  obtain ⟨-, below | ⟨above, below⟩⟩ := chars
  · exact .inl (by omega)
  · exact .inr ⟨by omega, by omega⟩

/-- Two runs have no code point in common: one ends before the other begins, or the one goes in
steps of the other and begins between two of them. -/
def isApart (run other : CaseRun) : Bool :=
  run.last.blt other.first || other.last.blt run.first ||
    ((run.first == run.last || run.step % other.step == 0) &&
      run.first % other.step != other.first % other.step)

theorem not_covers_of_isApart {run other : CaseRun} {n : Nat} (apart : run.isApart other = true)
    (covers : run.covers n = true) : ¬ other.covers n = true := by
  intro other_covers
  obtain ⟨first_le, le_last, dvd⟩ := covers_iff.mp covers
  obtain ⟨other_first_le, le_other_last, other_dvd⟩ := covers_iff.mp other_covers
  simp only [isApart, Bool.or_eq_true, Bool.and_eq_true, Nat.blt_eq, beq_iff_eq, bne_iff_ne,
    ← Nat.dvd_iff_mod_eq_zero] at apart
  obtain (before | behind) | ⟨same_steps, differ⟩ := apart
  · omega
  · omega
  -- Both runs would begin at the remainder of the common code point.
  · have step_dvd : other.step ∣ n - run.first := by
      obtain single | steps := same_steps
      · rw [show n - run.first = 0 by omega]
        exact Nat.dvd_zero _
      · exact steps.trans dvd
    have run_modEq : run.first ≡ n [MOD other.step] := (Nat.modEq_iff_dvd' first_le).mpr step_dvd
    have other_modEq : other.first ≡ n [MOD other.step] :=
      (Nat.modEq_iff_dvd' other_first_le).mpr other_dvd
    exact differ (run_modEq.trans other_modEq.symm)

end CaseRun

/-- The dotted capital I as a run.  It is not in the table, since it becomes two characters. -/
def dottedRun : CaseRun :=
  ⟨0x130, 0x130, 1, 0⟩

/-- The table leads to characters, and to none that are capitals themselves. -/
theorem isApart_image_of_mem_lowerRuns : ∀ run ∈ lowerRuns,
    run.image.isOfChars = true ∧ (dottedRun :: lowerRuns).all run.image.isApart = true := by
  decide +kernel

/-! ## Characters that stay -/

/-- A character that is not changed, wherever it stands. -/
def IsLowered (c : Char) : Prop :=
  c ≠ 'Σ' ∧ lowerChar c = [c]

instance (c : Char) : Decidable (IsLowered c) :=
  inferInstanceAs (Decidable (_ ∧ _))

theorem exists_covers_sigma : ∃ run ∈ lowerRuns, run.covers 'Σ'.toNat = true := by
  decide +kernel

theorem isLowered_of_not_covers {c : Char}
    (none_covers : ∀ run ∈ dottedRun :: lowerRuns, ¬ run.covers c.toNat = true) : IsLowered c := by
  obtain ⟨not_dotted, none_covers⟩ := List.forall_mem_cons.mp none_covers
  have not_sigma : c ≠ 'Σ' := by
    rintro rfl
    obtain ⟨run, run_mem, covers⟩ := exists_covers_sigma
    exact none_covers run run_mem covers
  have c_ne : c ≠ 'İ' := by
    rintro rfl
    exact not_dotted rfl
  refine ⟨not_sigma, ?_⟩
  rw [lowerChar, if_neg c_ne, List.find?_eq_none.mpr none_covers]

theorem isLowered_dotted : IsLowered 'i' ∧ IsLowered '\u0307' := by
  decide +kernel

/-- The lower-case form of a character consists of such as stay. -/
theorem isLowered_of_mem_lowerChar {c d : Char} (d_mem : d ∈ lowerChar c) : IsLowered d := by
  by_cases dotted : c = 'İ'
  · rw [lowerChar, if_pos dotted] at d_mem
    obtain rfl | d_mem := List.mem_cons.mp d_mem
    · exact isLowered_dotted.1
    · exact List.mem_singleton.mp d_mem ▸ isLowered_dotted.2
  rw [lowerChar, if_neg dotted] at d_mem
  cases found : lowerRuns.find? fun run ↦ run.covers c.toNat with
  | none =>
    rw [found] at d_mem
    obtain rfl := List.mem_singleton.mp d_mem
    have not_dotted : ¬ dottedRun.covers d.toNat = true := fun covers ↦ by
      obtain ⟨le, ge, -⟩ := CaseRun.covers_iff.mp covers
      exact dotted (Char.toNat_inj.mp (Nat.le_antisymm ge le))
    exact isLowered_of_not_covers
      (List.forall_mem_cons.mpr ⟨not_dotted, List.find?_eq_none.mp found⟩)
  | some run =>
    rw [found] at d_mem
    obtain rfl := List.mem_singleton.mp d_mem
    obtain ⟨chars, apart⟩ :=
      isApart_image_of_mem_lowerRuns run (List.mem_of_find?_eq_some found)
    have covers : run.covers c.toNat = true :=
      List.find?_some (p := fun run : CaseRun ↦ run.covers c.toNat) found
    have image_covers := CaseRun.covers_image covers (CaseRun.first_pos_of_isOfChars chars)
    -- The code point that the run leads to is in its image, which is apart from all runs.
    have toNat_eq : (Char.ofNat (c.toNat + run.offset).toNat).toNat =
        (c.toNat + run.offset).toNat := by
      rw [Char.toNat_ofNat, if_pos (CaseRun.isValidChar_of_covers image_covers chars)]
    refine isLowered_of_not_covers fun other other_mem ↦ ?_
    rw [toNat_eq]
    exact CaseRun.not_covers_of_isApart (List.all_eq_true.mp apart other other_mem) image_covers

theorem isLowered_lowerSigma (before after : List Char) : IsLowered (lowerSigma before after) := by
  rw [lowerSigma]
  split
  · decide +kernel
  · decide +kernel

/-- So does that of a text. -/
theorem isLowered_of_mem_lowerAfter {before cs : List Char} {d : Char}
    (d_mem : d ∈ lowerAfter before cs) : IsLowered d := by
  induction cs generalizing before with
  | nil => exact absurd d_mem List.not_mem_nil
  | cons c after ih =>
    rw [lowerAfter] at d_mem
    obtain d_mem | d_mem := List.mem_append.mp d_mem
    · split at d_mem
      · rw [List.mem_singleton.mp d_mem]
        exact isLowered_lowerSigma before after
      · exact isLowered_of_mem_lowerChar d_mem
    · exact ih d_mem

theorem lowerAfter_of_isLowered {cs : List Char} (lowered : ∀ c ∈ cs, IsLowered c)
    (before : List Char) : lowerAfter before cs = cs := by
  induction cs generalizing before with
  | nil => rfl
  | cons c after ih =>
    obtain ⟨⟨not_sigma, lowerChar_eq⟩, lowered⟩ := List.forall_mem_cons.mp lowered
    rw [lowerAfter, if_neg not_sigma, lowerChar_eq, ih lowered, List.singleton_append]

/-- A lower-case form is its own lower-case form. -/
@[simp] theorem lowercase_lowercase (s : String) : lowercase (lowercase s) = lowercase s := by
  rw [lowercase, lowercase, String.toList_ofList,
    lowerAfter_of_isLowered fun _ ↦ isLowered_of_mem_lowerAfter]

/-! ## The case of ASCII letters -/

/-- The two forms of a letter have one lower-case form, and both have a case. -/
theorem capital_toLower : ∀ n < 26, let c := Char.ofNat (0x41 + n)
    lowerChar c.toLower = lowerChar c ∧ isCased c.toLower = isCased c ∧
      isCaseIgnorable c.toLower = isCaseIgnorable c ∧ c ≠ 'Σ' ∧ c.toLower ≠ 'Σ' := by
  decide +kernel

/-- Only the capital letters have another form in ASCII. -/
theorem toLower_eq_self_or_capital (c : Char) :
    c.toLower = c ∨ ∃ n < 26, c = Char.ofNat (0x41 + n) := by
  by_cases capital : c.val ≥ 'A'.val ∧ c.val ≤ 'Z'.val
  · obtain ⟨ge, le⟩ := capital
    have ge_toNat : 0x41 ≤ c.toNat := ge
    have le_toNat : c.toNat ≤ 0x5a := le
    refine .inr ⟨c.toNat - 0x41, by omega, ?_⟩
    rw [Nat.add_sub_cancel' ge_toNat, Char.ofNat_toNat]
  · exact .inl (dif_neg capital)

@[simp] theorem lowerChar_toLower (c : Char) : lowerChar c.toLower = lowerChar c := by
  obtain same | ⟨n, n_lt, rfl⟩ := toLower_eq_self_or_capital c
  · rw [same]
  · exact (capital_toLower n n_lt).1

@[simp] theorem isCased_toLower (c : Char) : isCased c.toLower = isCased c := by
  obtain same | ⟨n, n_lt, rfl⟩ := toLower_eq_self_or_capital c
  · rw [same]
  · exact (capital_toLower n n_lt).2.1

@[simp] theorem isCaseIgnorable_toLower (c : Char) :
    isCaseIgnorable c.toLower = isCaseIgnorable c := by
  obtain same | ⟨n, n_lt, rfl⟩ := toLower_eq_self_or_capital c
  · rw [same]
  · exact (capital_toLower n n_lt).2.2.1

theorem toLower_eq_sigma_iff (c : Char) : c.toLower = 'Σ' ↔ c = 'Σ' := by
  obtain same | ⟨n, n_lt, rfl⟩ := toLower_eq_self_or_capital c
  · rw [same]
  · obtain ⟨-, -, -, not_sigma, lower_not_sigma⟩ := capital_toLower n n_lt
    exact iff_of_false lower_not_sigma not_sigma

/-- A sigma meets a character with a case in front of it or behind it whatever the case of the
ASCII letters is. -/
@[simp] theorem meetsCased_map_toLower (cs : List Char) :
    meetsCased (cs.map Char.toLower) = meetsCased cs := by
  have ignorable_comp : isCaseIgnorable ∘ Char.toLower = isCaseIgnorable :=
    funext isCaseIgnorable_toLower
  rw [meetsCased, meetsCased, List.dropWhile_map, ignorable_comp]
  cases cs.dropWhile isCaseIgnorable with
  | nil => rfl
  | cons c rest => exact isCased_toLower c

theorem lowerAfter_map_toLower (before cs : List Char) :
    lowerAfter (before.map Char.toLower) (cs.map Char.toLower) = lowerAfter before cs := by
  induction cs generalizing before with
  | nil => rfl
  | cons c after ih =>
    have rest_eq : lowerAfter (c.toLower :: before.map Char.toLower) (after.map Char.toLower) =
        lowerAfter (c :: before) after := ih (c :: before)
    simp only [List.map_cons, lowerAfter, toLower_eq_sigma_iff, rest_eq, lowerSigma,
      meetsCased_map_toLower, lowerChar_toLower]

/-- The lower-case form does not depend on the case of ASCII letters. -/
@[simp] theorem lowercase_asciiLowercase (s : String) :
    lowercase (asciiLowercase s) = lowercase s := by
  rw [lowercase, lowercase, asciiLowercase, String.toList_ofList]
  exact congrArg String.ofList (lowerAfter_map_toLower [] s.toList)

/-! ## Respellings -/

/-- A text and another spelling of it: letters of ASCII have another case, or the lower-case form
stands in its place. -/
inductive Respelling : String → String → Prop
  | ascii {s t : String} (same : asciiLowercase s = asciiLowercase t) : Respelling s t
  | lowered (s : String) : Respelling s (lowercase s)

theorem Respelling.lowercase_eq {s t : String} (respelling : Respelling s t) :
    lowercase s = lowercase t := by
  cases respelling with
  | ascii same => rw [← lowercase_asciiLowercase s, same, lowercase_asciiLowercase]
  | lowered => exact (lowercase_lowercase s).symm

/-- Where steps keep a form and lead everything to what its form describes, things are led into each
other if they have the same form, and only then. -/
theorem eqvGen_iff_of_normalForm {α β : Type} {r : α → α → Prop} {form : α → β} (normal : β → α)
    (keeps : ∀ a b, r a b → form a = form b) (leads : ∀ a, r a (normal (form a))) {a b : α} :
    Relation.EqvGen r a b ↔ form a = form b := by
  constructor
  · intro led
    induction led with
    | rel a b step => exact keeps a b step
    | refl a => rfl
    | symm a b _ ih => exact ih.symm
    | trans a b c _ _ ih ih' => exact ih.trans ih'
  · intro form_eq
    have from_a : Relation.EqvGen r a (normal (form a)) := .rel _ _ (leads a)
    have from_b : Relation.EqvGen r b (normal (form b)) := .rel _ _ (leads b)
    rw [← form_eq] at from_b
    exact from_a.trans _ _ _ from_b.symm

/-- Texts that are respelled into each other are those with one lower-case form. -/
theorem eqvGen_respelling_iff {s t : String} :
    Relation.EqvGen Respelling s t ↔ lowercase s = lowercase t :=
  eqvGen_iff_of_normalForm id (fun _ _ respelling ↦ respelling.lowercase_eq) Respelling.lowered

end AuditTrail.Text
