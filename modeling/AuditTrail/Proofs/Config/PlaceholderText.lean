import AuditTrail.Proofs.Config.Placeholder
import Mathlib.Data.List.TakeWhile

/-!
# Placeholders by their texts

A placeholder that is found in a text can be read off its own characters: its name ends with the
first colon or closing brace, and its fallback with the first closing brace.  So it is found
wherever its characters stand, whatever follows them, and no two placeholders stand in the same
place.
-/

namespace AuditTrail

/-! ## Reading up to a character -/

section Stop

variable {p : Char → Bool} {c : Char} {as bs : List Char}

theorem takeWhile_append_cons (passed : ∀ d ∈ as, p d) (stop : ¬ p c) :
    (as ++ c :: bs).takeWhile p = as := by
  rw [List.takeWhile_append_of_pos passed, List.takeWhile_cons_of_neg stop, List.append_nil]

theorem dropWhile_append_cons (passed : ∀ d ∈ as, p d) (stop : ¬ p c) :
    (as ++ c :: bs).dropWhile p = c :: bs := by
  rw [List.dropWhile_append_of_pos passed, List.dropWhile_cons_of_neg stop]

end Stop

/-! ## Well-formed placeholders -/

namespace Placeholder

/-- The placeholder has a name, and its text has one way to be read. -/
structure WellFormed (placeholder : Placeholder) : Prop where
  name_ne : placeholder.name ≠ []
  name : ∀ c ∈ placeholder.name, inName c
  fallback : ∀ fallback ∈ placeholder.fallback, '\x7d' ∉ fallback

variable {placeholder found other : Placeholder} {cs rest : List Char}

theorem wellFormed_of_ofBody? (body_eq : ofBody? cs = some found) : found.WellFormed := by
  have name (c : Char) (c_mem : c ∈ cs.takeWhile inName) : inName c := List.mem_takeWhile_imp c_mem
  rw [ofBody?] at body_eq
  split at body_eq
  · cases body_eq
  next name_ne =>
    cases body_eq
    refine ⟨name_ne, name, ?_⟩
    rintro _ ⟨⟩
  next name_ne =>
    split at body_eq <;> cases body_eq
    refine ⟨name_ne, name, ?_⟩
    rintro _ ⟨⟩ closed
    have ne := List.mem_takeWhile_imp closed
    exact of_decide_eq_true ne rfl
  · cases body_eq

/-- What is read of a text that begins with a placeholder is this placeholder. -/
theorem ofBody?_of_begins (wellFormed : found.WellFormed)
    (text_begins : found.text <+: '$' :: '\x7b' :: cs) : ofBody? cs = some found := by
  obtain ⟨name, fallback⟩ := found
  obtain ⟨after, cs_eq⟩ := text_begins
  obtain ⟨first, rest, rfl⟩ := List.exists_cons_of_ne_nil wellFormed.name_ne
  cases fallback with
  | none =>
    have cs_eq : cs = first :: rest ++ '\x7d' :: after := by
      simpa [text] using cs_eq.symm
    rw [cs_eq, ofBody?, takeWhile_append_cons wellFormed.name (by decide),
      dropWhile_append_cons wellFormed.name (by decide)]
    rfl
  | some fallback =>
    have cs_eq : cs = first :: rest ++ ':' :: '-' :: (fallback ++ '\x7d' :: after) := by
      simpa [text] using cs_eq.symm
    have not_closed : ∀ c ∈ fallback, decide (c ≠ '\x7d') = true := by
      intro c c_mem
      refine decide_eq_true ?_
      rintro rfl
      exact wellFormed.fallback fallback rfl c_mem
    have closed : '\x7d' ∈ fallback ++ '\x7d' :: after :=
      List.mem_append_right _ List.mem_cons_self
    rw [cs_eq, ofBody?, takeWhile_append_cons wellFormed.name (by decide),
      dropWhile_append_cons wellFormed.name (by decide)]
    refine (if_pos closed).trans ?_
    rw [takeWhile_append_cons not_closed (by decide)]

/-- A text has a placeholder at its start if it begins with the text of one. -/
theorem at?_eq_some_iff : at? cs = some found ↔ found.WellFormed ∧ found.text <+: cs := by
  constructor
  · intro at_eq
    refine ⟨?_, prefix_of_at? at_eq⟩
    unfold at? at at_eq
    split at at_eq
    · exact wellFormed_of_ofBody? at_eq
    · cases at_eq
  · rintro ⟨wellFormed, text_begins⟩
    obtain ⟨after, rfl⟩ := text_begins
    exact ofBody?_of_begins wellFormed ⟨after, rfl⟩

theorem wellFormed_of_mem_ofChars (part_mem : TextPart.placeholder found ∈ TextPart.ofChars cs) :
    found.WellFormed := by
  fun_induction TextPart.ofChars cs with
  | case1 => cases part_mem
  | case2 c rest other at_eq ih =>
    rcases List.mem_cons.mp part_mem with part_eq | later
    · cases part_eq
      exact (at?_eq_some_iff.mp at_eq).1
    · exact ih later
  | case3 c rest _ ih =>
    rcases List.mem_cons.mp part_mem with ⟨⟨⟩⟩ | later
    exact ih later

theorem mem_all_iff {s : String} :
    found ∈ all s ↔ TextPart.placeholder found ∈ TextPart.ofChars s.toList := by
  constructor
  · intro found_mem
    obtain ⟨part, part_mem, part_eq⟩ := List.mem_filterMap.mp found_mem
    cases part with
    | char => cases part_eq
    | placeholder => exact Option.some_inj.mp part_eq ▸ part_mem
  · intro part_mem
    exact List.mem_filterMap.mpr ⟨_, part_mem, rfl⟩

/-- Different placeholders do not stand at the start of the same text. -/
theorem WellFormed.eq_of_begins (wellFormed : found.WellFormed) (otherFormed : other.WellFormed)
    (found_begins : found.text <+: cs) (other_begins : other.text <+: cs) : found = other := by
  have found_eq : at? cs = some found := at?_eq_some_iff.mpr ⟨wellFormed, found_begins⟩
  have other_eq : at? cs = some other := at?_eq_some_iff.mpr ⟨otherFormed, other_begins⟩
  exact Option.some_inj.mp (found_eq.symm.trans other_eq)

/-- The brace that closes a placeholder does not stand in it. -/
theorem WellFormed.closing (wellFormed : found.WellFormed) : '\x7d' ∉ found.text.dropLast := by
  obtain ⟨name, fallback⟩ := found
  have not_name : '\x7d' ∉ name := fun mem ↦ absurd (wellFormed.name _ mem) (by decide)
  rw [text, List.dropLast_concat]
  cases fallback with
  | none => simpa using not_name
  | some fallback => simpa [not_name] using wellFormed.fallback fallback rfl

end Placeholder

end AuditTrail
