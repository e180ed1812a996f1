import AuditTrail.Text.Replace
import Mathlib.Data.List.Basic

/-!
# Replacement in two parts of a text

A pattern that does not reach from one part of a text into the next is replaced in each part by
itself.  There are two reasons why it does not: the part ends with a character that can only be the
last one of the pattern, or the parts are separated by a character that the pattern does not have.

A replacement that is at least as long as the pattern does not make a text shorter, and makes it
longer by the difference if the pattern occurs.
-/

namespace AuditTrail.Text

variable {pattern replacement cs as bs rest : List Char} {c : Char}

/-! ## One step -/

theorem replaceChars_cons (not_found : ¬ pattern <+: c :: rest) :
    replaceChars pattern replacement (c :: rest) =
      c :: replaceChars pattern replacement rest := by
  rw [replaceChars, if_neg fun found ↦ not_found found.2]

theorem replaceChars_pattern (ne : pattern ≠ []) :
    replaceChars pattern replacement (pattern ++ rest) =
      replacement ++ replaceChars pattern replacement rest := by
  obtain ⟨d, tail, rfl⟩ := List.exists_cons_of_ne_nil ne
  rw [List.cons_append, replaceChars, if_pos ⟨ne, List.prefix_append _ rest⟩, ← List.cons_append,
    List.drop_left]

theorem replaceChars_self (ne : pattern ≠ []) :
    replaceChars pattern replacement pattern = replacement := by
  have whole_eq : replaceChars pattern replacement (pattern ++ []) = _ := replaceChars_pattern ne
  rwa [List.append_nil, replaceChars_nil, List.append_nil] at whole_eq

/-- A text without the pattern stays as it is. -/
theorem replaceChars_of_absent (absent : ¬ pattern <:+: cs) :
    replaceChars pattern replacement cs = cs := by
  induction cs with
  | nil => exact replaceChars_nil pattern replacement
  | cons c rest ih =>
    obtain ⟨not_found, not_later⟩ := not_or.mp (mt List.infix_cons_iff.mpr absent)
    rw [replaceChars_cons not_found, ih not_later]

/-- If the pattern occurs, the replacement stands in the result. -/
theorem replacement_occurs (ne : pattern ≠ []) (occurs : pattern <:+: cs) :
    replacement <:+: replaceChars pattern replacement cs := by
  induction cs with
  | nil => exact absurd (List.infix_nil.mp occurs) ne
  | cons c rest ih =>
    by_cases found : pattern <+: c :: rest
    · obtain ⟨after, cs_eq⟩ := found
      rw [← cs_eq, replaceChars_pattern ne]
      exact (List.prefix_append replacement _).isInfix
    · rw [replaceChars_cons found]
      exact (ih ((List.infix_cons_iff.mp occurs).resolve_left found)).trans
        (List.suffix_cons c _).isInfix

/-! ## Two parts -/

/-- A pattern that reaches over the end of a part goes on behind it. -/
theorem exists_eq_append_cons (found : pattern <+: as ++ bs) (not_within : ¬ pattern <+: as) :
    ∃ d tail, pattern = as ++ d :: tail ∧ d :: tail <+: bs := by
  obtain within | ⟨_ | ⟨d, tail⟩, rfl⟩ :=
    List.prefix_or_prefix_of_prefix found (List.prefix_append as bs)
  · exact absurd within not_within
  · rw [List.append_nil] at not_within
    exact absurd (List.prefix_refl as) not_within
  · exact ⟨d, tail, rfl, (List.prefix_append_right_inj as).mp found⟩

section Parts

variable (ne : pattern ≠ [])

/-- A pattern does not reach over a character that it does not have. -/
theorem prefix_of_prefix_append_cons (not_mem : c ∉ pattern) (found : pattern <+: as ++ c :: bs) :
    pattern <+: as := by
  by_contra not_within
  obtain ⟨d, tail, rfl, behind⟩ := exists_eq_append_cons found not_within
  obtain ⟨rfl, -⟩ := List.cons_prefix_cons.mp behind
  exact not_mem (List.mem_append_right as List.mem_cons_self)

include ne

theorem not_prefix_cons (not_mem : c ∉ pattern) : ¬ pattern <+: c :: bs := by
  intro found
  have within : pattern <+: [] := prefix_of_prefix_append_cons not_mem found
  exact ne (List.prefix_nil.mp within)

/-- A pattern occurs in what stands before or behind a character that it does not have. -/
theorem infix_append_cons_iff (not_mem : c ∉ pattern) :
    pattern <:+: as ++ c :: bs ↔ pattern <:+: as ∨ pattern <:+: bs := by
  constructor
  · intro occurs
    induction as with
    | nil => exact .inr ((List.infix_cons_iff.mp occurs).resolve_left (not_prefix_cons ne not_mem))
    | cons a rest ih =>
      rcases List.infix_cons_iff.mp occurs with found | later
      · have within : pattern <+: a :: rest := prefix_of_prefix_append_cons not_mem found
        exact .inl within.isInfix
      · exact (ih later).imp_left fun within ↦ within.trans (List.suffix_cons a rest).isInfix
  · rintro (within | behind)
    · exact within.trans (List.prefix_append as (c :: bs)).isInfix
    · exact behind.trans ((List.suffix_cons c bs).trans (List.suffix_append as _)).isInfix

/-- A pattern that does not reach from one part into the next is replaced in each by itself. -/
theorem replaceChars_append (apart : ∀ x ≠ [], x <:+ as → pattern <+: x ++ bs → pattern <+: x) :
    replaceChars pattern replacement (as ++ bs) =
      replaceChars pattern replacement as ++ replaceChars pattern replacement bs := by
  fun_induction replaceChars pattern replacement as with
  | case1 => rfl
  | case2 c rest found ih =>
    obtain ⟨after, as_eq⟩ := found.2
    rw [← as_eq, List.drop_left] at ih ⊢
    rw [List.append_assoc, replaceChars_pattern ne, ih, List.append_assoc]
    intro x x_ne x_suffix
    exact apart x x_ne (x_suffix.trans (as_eq ▸ List.suffix_append pattern after))
  | case3 c rest not_found ih =>
    have not_across : ¬ pattern <+: c :: (rest ++ bs) := by
      intro found
      have cons_ne : c :: rest ≠ [] := List.cons_ne_nil c rest
      exact not_found ⟨ne, apart (c :: rest) cons_ne (List.suffix_refl _) found⟩
    rw [List.cons_append, replaceChars_cons not_across, ih, List.cons_append]
    intro x x_ne x_suffix
    exact apart x x_ne (x_suffix.trans (List.suffix_cons c rest))

/-- A character that can only be the last one of the pattern ends a part. -/
theorem replaceChars_append_of_closing (closing : c ∉ pattern.dropLast) :
    replaceChars pattern replacement (as ++ c :: bs) =
      replaceChars pattern replacement (as ++ [c]) ++ replaceChars pattern replacement bs := by
  rw [List.append_cons, replaceChars_append ne]
  intro x x_ne x_suffix found
  have c_mem : c ∈ x := by
    obtain rfl | ⟨y, rfl, -⟩ := List.suffix_concat_iff.mp x_suffix
    · exact absurd rfl x_ne
    · exact List.mem_concat_self
  by_contra not_within
  obtain ⟨d, tail, rfl, -⟩ := exists_eq_append_cons found not_within
  rw [List.dropLast_append_of_ne_nil (List.cons_ne_nil d tail)] at closing
  exact closing (List.mem_append_left _ c_mem)

/-- A character that the pattern does not have separates two parts. -/
theorem replaceChars_append_cons (not_mem : c ∉ pattern) :
    replaceChars pattern replacement (as ++ c :: bs) =
      replaceChars pattern replacement as ++ c :: replaceChars pattern replacement bs := by
  rw [replaceChars_append ne fun x _ _ ↦ prefix_of_prefix_append_cons not_mem,
    replaceChars_cons (not_prefix_cons ne not_mem)]

end Parts

/-! ## Sizes -/

/-- Nothing outside of the pattern gets lost. -/
theorem countP_le_countP_replaceChars {p : Char → Bool} (apart : ∀ c ∈ pattern, ¬ p c) :
    cs.countP p ≤ (replaceChars pattern replacement cs).countP p := by
  fun_induction replaceChars pattern replacement cs with
  | case1 => exact Nat.le_refl _
  | case2 c rest found ih =>
    obtain ⟨after, cs_eq⟩ := found.2
    rw [← cs_eq, List.drop_left] at ih
    rw [← cs_eq, List.drop_left, List.countP_append, List.countP_append,
      List.countP_eq_zero.mpr apart]
    omega
  | case3 c rest _ ih =>
    rw [List.countP_cons, List.countP_cons]
    exact Nat.add_le_add_right ih _

/-- A character outside of the pattern is kept. -/
theorem mem_replaceChars (c_mem : c ∈ cs) (not_mem : c ∉ pattern) :
    c ∈ replaceChars pattern replacement cs := by
  have apart : ∀ d ∈ pattern, ¬ (d == c) := by
    intro d d_mem same
    exact not_mem (eq_of_beq same ▸ d_mem)
  have kept : cs.count c ≤ (replaceChars pattern replacement cs).count c :=
    countP_le_countP_replaceChars apart
  exact List.count_pos_iff.mp (Nat.lt_of_lt_of_le (List.count_pos_iff.mpr c_mem) kept)

/-- A replacement that is at least as long as the pattern does not make a text shorter. -/
theorem length_le_length_replaceChars (long : pattern.length ≤ replacement.length) :
    cs.length ≤ (replaceChars pattern replacement cs).length := by
  fun_induction replaceChars pattern replacement cs with
  | case1 => exact Nat.le_refl _
  | case2 c rest found ih =>
    obtain ⟨after, cs_eq⟩ := found.2
    rw [← cs_eq, List.drop_left] at ih ⊢
    rw [List.length_append, List.length_append]
    exact Nat.add_le_add long ih
  | case3 c rest _ ih => exact Nat.succ_le_succ ih

/-- If the pattern occurs, the text gets longer by what the replacement is longer. -/
theorem length_add_le_length_replaceChars (ne : pattern ≠ [])
    (long : pattern.length ≤ replacement.length) (occurs : pattern <:+: cs) :
    cs.length + replacement.length ≤
      (replaceChars pattern replacement cs).length + pattern.length := by
  fun_induction replaceChars pattern replacement cs with
  | case1 => exact absurd (List.infix_nil.mp occurs) ne
  | case2 c rest found ih =>
    obtain ⟨after, cs_eq⟩ := found.2
    have rest_le : after.length ≤ (replaceChars pattern replacement after).length :=
      length_le_length_replaceChars long
    rw [← cs_eq, List.drop_left, List.length_append, List.length_append]
    omega
  | case3 c rest not_found ih =>
    have later := (List.infix_cons_iff.mp occurs).resolve_left fun found ↦ not_found ⟨ne, found⟩
    have rest_le := ih later
    rw [List.length_cons, List.length_cons]
    omega

end AuditTrail.Text
