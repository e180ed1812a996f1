import AuditTrail.Config.Placeholder
import AuditTrail.Proofs.Text.Replace

/-!
# Characters that survive replacement

A placeholder that is found in a text stands in it, so the value that replaces it is in the result.
What is not part of any placeholder is never replaced.  A character that occurs in the value of the
first placeholder, and in none of the placeholders, is therefore in the expanded text, whatever
values the other placeholders have.
-/

namespace AuditTrail

/-! ## Found placeholders -/

namespace Placeholder

variable {cs : List Char} {found : Placeholder}

theorem text_ne (placeholder : Placeholder) : placeholder.text ≠ [] :=
  List.ne_nil_of_length_pos placeholder.length_text_pos

/-- A text goes on with a character that it holds after what stands before the first one. -/
theorem exists_eq_takeWhile_append {c : Char} {cs : List Char} (c_mem : c ∈ cs) :
    ∃ after, cs.takeWhile (· ≠ c) ++ c :: after = cs := by
  induction cs with
  | nil => cases c_mem
  | cons d rest ih =>
    by_cases same : d = c
    · refine ⟨rest, ?_⟩
      rw [same, List.takeWhile_cons_of_neg (by simp)]
      rfl
    · obtain ⟨after, eq⟩ := ih ((List.mem_cons.mp c_mem).resolve_left (Ne.symm same))
      have kept : decide (d ≠ c) = true := decide_eq_true same
      refine ⟨after, ?_⟩
      rw [List.takeWhile_cons, if_pos kept, List.cons_append, eq]

/-- A placeholder that is found behind its opening begins with the opening. -/
theorem prefix_of_ofBody? (body_eq : ofBody? cs = some found) :
    found.text <+: '$' :: '\x7b' :: cs := by
  have split_eq : cs.takeWhile inName ++ cs.dropWhile inName = cs := List.takeWhile_append_dropWhile
  rw [ofBody?] at body_eq
  split at body_eq
  · cases body_eq
  next after drop_eq _ =>
    cases body_eq
    refine ⟨after, ?_⟩
    rw [drop_eq] at split_eq
    simpa [text] using split_eq
  next rest drop_eq _ =>
    split at body_eq <;> cases body_eq
    next closed =>
      obtain ⟨after, rest_eq⟩ := exists_eq_takeWhile_append closed
      refine ⟨after, ?_⟩
      rw [drop_eq, ← rest_eq] at split_eq
      simpa [text] using split_eq
  · cases body_eq

theorem prefix_of_at? (at_eq : at? cs = some found) : found.text <+: cs := by
  unfold at? at at_eq
  split at at_eq
  · exact prefix_of_ofBody? at_eq
  · cases at_eq

/-- The placeholders of a text stand in it. -/
theorem infix_of_mem_ofChars (part_mem : TextPart.placeholder found ∈ TextPart.ofChars cs) :
    found.text <:+: cs := by
  fun_induction TextPart.ofChars cs with
  | case1 => cases part_mem
  | case2 c rest other at_eq ih =>
    rcases List.mem_cons.mp part_mem with part_eq | later
    · cases part_eq
      exact (prefix_of_at? at_eq).isInfix
    · exact (ih later).trans (List.drop_suffix _ _).isInfix
  | case3 c rest _ ih =>
    have later := (List.mem_cons.mp part_mem).resolve_left nofun
    exact (ih later).trans (List.suffix_cons c rest).isInfix

theorem infix_of_mem_all {s : String} (found_mem : found ∈ all s) : found.text <:+: s.toList := by
  obtain ⟨part, part_mem, part_eq⟩ := List.mem_filterMap.mp found_mem
  cases part with
  | char => cases part_eq
  | placeholder => exact infix_of_mem_ofChars (Option.some_inj.mp part_eq ▸ part_mem)

/-- A text without a dollar sign has no placeholders. -/
theorem all_eq_nil {s : String} (no_dollar : '$' ∉ s.toList) : all s = [] := by
  refine List.eq_nil_iff_forall_not_mem.mpr fun found found_mem ↦ no_dollar ?_
  exact (infix_of_mem_all found_mem).subset List.mem_cons_self

/-! ## Expansion -/

variable {environment : Environment} {c : Char} {s expanded : String}

/-- What is not part of any placeholder is kept. -/
theorem mem_of_replaceEach {placeholders : List Placeholder}
    (not_mem : ∀ placeholder ∈ placeholders, c ∉ placeholder.text) (c_mem : c ∈ s.toList)
    (replace_eq : replaceEach environment placeholders s = .ok expanded) : c ∈ expanded.toList := by
  induction placeholders generalizing s with
  | nil =>
    cases replace_eq
    exact c_mem
  | cons placeholder rest ih =>
    obtain ⟨not_here, not_later⟩ := List.forall_mem_cons.mp not_mem
    rw [replaceEach] at replace_eq
    split at replace_eq
    next value _ =>
      refine ih not_later ?_ replace_eq
      rw [Text.replaceAll, String.toList_ofList, String.toList_ofList]
      exact Text.mem_replaceChars c_mem not_here
    next => cases replace_eq

/-- A text without placeholders is expanded to itself. -/
theorem expand_of_all_eq_nil (none : all s = []) : expand environment s = .ok s := by
  rw [expand, none, replaceEach_nil]

/-- A character that the text does not hold is in the expanded text if it is in the value of the
first placeholder. -/
theorem mem_of_expand {first : Placeholder} {rest : List Placeholder} {value : String}
    (all_eq : all s = first :: rest) (value_eq : first.value? environment = some value)
    (c_mem : c ∈ value.toList) (not_mem : c ∉ s.toList)
    (expand_eq : expand environment s = .ok expanded) : c ∈ expanded.toList := by
  have not_in {placeholder : Placeholder} (mem : placeholder ∈ first :: rest) :
      c ∉ placeholder.text :=
    fun c_mem ↦ not_mem ((infix_of_mem_all (all_eq ▸ mem)).subset c_mem)
  have occurs : first.text <:+: s.toList := infix_of_mem_all (all_eq ▸ List.mem_cons_self)
  rw [expand, all_eq, replaceEach, value_eq] at expand_eq
  refine mem_of_replaceEach (fun placeholder mem ↦ not_in (List.mem_cons_of_mem first mem)) ?_
    expand_eq
  rw [Text.replaceAll, String.toList_ofList, String.toList_ofList]
  exact (Text.replacement_occurs first.text_ne occurs).subset c_mem

end Placeholder

end AuditTrail
