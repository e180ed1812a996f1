import AuditTrail.Json.ErrorText
import AuditTrail.Proofs.Json.Number

/-!
# Messages that errors keep

A message can be split into a place and what stands before it in one way only, since a place is
written with the letter that begins it and never again.  So an error shows its message as it is,
unless the message ends with a place that would be written otherwise: one on line zero, or one with
a zero in front of a number.
-/

namespace AuditTrail

namespace Numeral

theorem isDigit_of_digit? {c : Char} {d : Nat} (digit_eq : digit? 10 c = some d) :
    c.isDigit = true := by
  by_cases bounds : '0' ≤ c ∧ c ≤ '9'
  · rw [Char.isDigit, Bool.and_eq_true, decide_eq_true_eq, decide_eq_true_eq]
    exact bounds
  · simp only [digit?, if_neg bounds] at digit_eq
    split_ifs at digit_eq <;> omega

/-- What is read as a number are digits. -/
theorem isDigit_of_readAfter? {cs : List Char} {n m : Nat} (read_eq : readAfter? 10 n cs = some m) :
    ∀ c ∈ cs, c.isDigit = true := by
  induction cs generalizing n with
  | nil => exact List.forall_mem_nil _
  | cons c rest ih =>
    rw [readAfter?] at read_eq
    split at read_eq
    next d digit_eq => exact List.forall_mem_cons.mpr ⟨isDigit_of_digit? digit_eq, ih read_eq⟩
    next => cases read_eq

end Numeral

namespace Json

namespace Place

variable {cs line column : List Char} {place : Place}

theorem isDigit_of_number? {digits : List Char} {n : Nat} (number_eq : number? digits = some n) :
    ∀ c ∈ digits, c.isDigit = true := by
  obtain ⟨read_eq, -⟩ := Option.filter_eq_some_iff.mp number_eq
  cases digits with
  | nil => exact List.forall_mem_nil _
  | cons c rest => exact Numeral.isDigit_of_readAfter? read_eq

/-- A place is written with the numbers of its line and of its column. -/
theorem ofChars?_eq_some_iff :
    ofChars? cs = some place ↔ ∃ line column, number? line = some place.line ∧
      number? column = some place.column ∧
      cs = " at line ".toList ++ (line ++ (" column ".toList ++ column)) := by
  rw [ofChars?]
  simp only [Option.bind_eq_bind, Option.bind_eq_some_iff, List.isPrefixOf?_eq_some_iff_append_eq]
  constructor
  · rintro ⟨rest, rfl, column, rest_eq, n, line_eq, m, column_eq, ⟨⟩⟩
    refine ⟨_, column, line_eq, column_eq, ?_⟩
    rw [rest_eq, Numeral.spanDigits, List.takeWhile_append_dropWhile]
  · rintro ⟨line, column, line_eq, column_eq, rfl⟩
    have span_eq : Numeral.spanDigits (line ++ (" column ".toList ++ column)) =
        (line, " column ".toList ++ column) := by
      refine Numeral.spanDigits_append (isDigit_of_number? line_eq) ?_
      rintro c ⟨⟩
      rfl
    exact ⟨_, rfl, column, by rw [span_eq], _, by rw [span_eq]; exact line_eq, _, column_eq, rfl⟩

/-- The letter that begins a place is not written in it again. -/
theorem count_of_ofChars? (place_eq : ofChars? cs = some place) : cs.count 'a' = 1 := by
  obtain ⟨line, column, line_eq, column_eq, rfl⟩ := ofChars?_eq_some_iff.mp place_eq
  have no_letter {digits : List Char} {n : Nat} (number_eq : number? digits = some n) :
      digits.count 'a' = 0 :=
    List.count_eq_zero.mpr fun mem ↦ nomatch isDigit_of_number? number_eq _ mem
  have at_count : " at line ".toList.count 'a' = 1 := by decide
  have column_count : " column ".toList.count 'a' = 0 := by decide
  rw [List.count_append, List.count_append, List.count_append, no_letter line_eq,
    no_letter column_eq, at_count, column_count]

/-- A place is not the end of a longer one. -/
theorem ofChars?_append_eq_none (place_eq : ofChars? cs = some place) {before : List Char}
    (ne : before ≠ []) : ofChars? (before ++ cs) = none := by
  cases longer_eq : ofChars? (before ++ cs) with
  | none => rfl
  | some longer =>
    have count_eq := count_of_ofChars? longer_eq
    rw [List.count_append, count_of_ofChars? place_eq] at count_eq
    have no_letter : 'a' ∉ before := List.count_eq_zero.mp (Nat.succ_inj.mp count_eq)
    obtain ⟨line, column, -, -, cs_eq⟩ := ofChars?_eq_some_iff.mp place_eq
    obtain ⟨line', column', -, -, append_eq⟩ := ofChars?_eq_some_iff.mp longer_eq
    have start_eq : " at line ".toList = ' ' :: 'a' :: "t line ".toList := by decide
    rw [start_eq] at cs_eq append_eq
    -- The first letter of the longer place stands before the place, or is the space that begins it.
    match before with
    | [c] =>
      rw [cs_eq] at append_eq
      simp at append_eq
    | c :: d :: rest =>
      simp only [List.cons_append, List.cons.injEq] at append_eq
      exact absurd (append_eq.2.1 ▸ List.mem_cons_of_mem c List.mem_cons_self) no_letter

end Place

/-! ## Messages that are split -/

theorem splitPlace?_eq_some_iff {cs message : List Char} {place : Place} :
    splitPlace? cs = some (message, place) ↔
      ∃ written, Place.ofChars? written = some place ∧ cs = message ++ written := by
  constructor
  · intro split_eq
    induction cs generalizing message with
    | nil => cases split_eq
    | cons c rest ih =>
      rw [splitPlace?] at split_eq
      split at split_eq
      next whole_eq =>
        cases split_eq
        exact ⟨c :: rest, whole_eq, rfl⟩
      next =>
        obtain ⟨⟨message, place⟩, rest_eq, ⟨⟩⟩ := Option.map_eq_some_iff.mp split_eq
        obtain ⟨written, place_eq, rfl⟩ := ih rest_eq
        exact ⟨written, place_eq, rfl⟩
  · rintro ⟨written, place_eq, rfl⟩
    induction message with
    | nil =>
      cases written with
      | nil => cases place_eq
      | cons c rest => rw [List.nil_append, splitPlace?, place_eq]
    | cons c message ih =>
      have no_place := Place.ofChars?_append_eq_none place_eq (List.cons_ne_nil c message)
      rw [List.cons_append] at no_place ⊢
      rw [splitPlace?, no_place, ih]
      rfl

/-- A message ends with a place that its error shows otherwise: one on line zero, or one with a zero
in front of a number. -/
def LosesPlace (message : String) : Prop :=
  ∃ before written place, message.toList = before ++ written ∧
    Place.ofChars? written = some place ∧ (place.line = 0 ∨ written ≠ place.chars)

/-- An error shows its message as it is, unless the message ends with a place that is shown
otherwise. -/
theorem errorText_eq_self_iff {message : String} :
    errorText message = message ↔ ¬ LosesPlace message := by
  rw [errorText]
  cases split_eq : splitPlace? message.toList with
  | none =>
    refine ⟨fun _ ↦ ?_, fun _ ↦ rfl⟩
    rintro ⟨before, written, place, message_eq, place_eq, -⟩
    cases split_eq.symm.trans (splitPlace?_eq_some_iff.mpr ⟨written, place_eq, message_eq⟩)
  | some result =>
    obtain ⟨before, place⟩ := result
    obtain ⟨written, place_eq, message_eq⟩ := splitPlace?_eq_some_iff.mp split_eq
    have written_ne : written ≠ [] := by
      rintro rfl
      cases place_eq
    have shown_iff : (if place.line = 0 then before else before ++ place.chars) = message.toList ↔
        ¬ (place.line = 0 ∨ written ≠ place.chars) := by
      rw [message_eq]
      split
      next line_eq => simpa [line_eq] using written_ne
      next line_ne => simp [line_ne, eq_comm]
    dsimp only
    rw [← String.toList_inj, String.toList_ofList, shown_iff, not_iff_not]
    constructor
    · exact fun lost ↦ ⟨before, written, place, message_eq, place_eq, lost⟩
    · rintro ⟨before', written', place', message_eq', place_eq', lost⟩
      have split_eq' := splitPlace?_eq_some_iff.mpr ⟨written', place_eq', message_eq'⟩
      cases split_eq.symm.trans split_eq'
      cases List.append_cancel_left (message_eq.symm.trans message_eq')
      exact lost

end Json

end AuditTrail
