import AuditTrail.Decimal.Numeral
import Mathlib.Data.Nat.Digits.Defs

/-!
# Numerals of a fixed width

A number is written with as many digits as it has, and zeros in front of them fill a numeral up to
its width.  It is read back from all of them, whatever the base is, and numerals of one width that
hold their numbers have this width.  Conversely, digits of any base stand for a number that is below
the power of the base with as many factors as there are digits.
-/

namespace AuditTrail.Numeral

variable {base width n : Nat}

/-- The digits of a number in some base, filled up with zeros to at least `width` digits. -/
def filled (base width n : Nat) : List Char :=
  List.replicate (width - (Nat.toDigits base n).length) '0' ++ Nat.toDigits base n

theorem length_filled (one_lt : 1 < base) (width_pos : 0 < width) (lt : n < base ^ width) :
    (filled base width n).length = width := by
  have length_le := (Nat.length_toDigits_le_iff one_lt width_pos).mpr lt
  rw [filled, List.length_append, List.length_replicate]
  omega

/-! ## Reading digits -/

theorem digit?_digitChar (base_le : base ≤ 16) (lt : n < base) :
    digit? base n.digitChar = some n := by
  have all : ∀ base ≤ 16, ∀ n < base, digit? base n.digitChar = some n := by decide
  exact all base base_le n lt

theorem readAfter?_append (base n : Nat) (digits others : List Char) :
    readAfter? base n (digits ++ others) =
      (readAfter? base n digits).bind fun n ↦ readAfter? base n others := by
  induction digits generalizing n with
  | nil => rfl
  | cons c digits ih =>
    rw [List.cons_append, readAfter?, readAfter?]
    cases digit? base c with
    | none => rfl
    | some d => exact ih _

theorem readAfter?_zeros (base_pos : 0 < base) (k : Nat) :
    readAfter? base 0 (List.replicate k '0') = some 0 := by
  have zero_eq : digit? base '0' = some 0 := if_pos base_pos
  induction k with
  | zero => rfl
  | succ k ih =>
    rw [List.replicate_succ, readAfter?, zero_eq]
    dsimp only
    rw [Nat.zero_mul, ih]

theorem readAfter?_toDigits (one_lt : 1 < base) (base_le : base ≤ 16) (n : Nat) :
    readAfter? base 0 (Nat.toDigits base n) = some n := by
  induction n using Nat.strongRecOn with
  | ind n ih =>
    rcases Nat.lt_or_ge n base with lt | ge
    · rw [Nat.toDigits_of_lt_base lt, readAfter?, digit?_digitChar base_le lt]
      dsimp only
      rw [readAfter?, Nat.zero_mul, Nat.zero_add]
    · have digit_lt : n % base < base := Nat.mod_lt n (by omega)
      rw [Nat.toDigits_of_base_le one_lt ge, readAfter?_append,
        ih (n / base) (Nat.div_lt_self (by omega) one_lt), Option.bind_some, readAfter?,
        digit?_digitChar base_le digit_lt]
      dsimp only
      rw [readAfter?, Nat.div_add_mod']

/-- A number is read back from its digits, with zeros in front of them or not. -/
theorem read?_filled (one_lt : 1 < base) (base_le : base ≤ 16) (width n : Nat) :
    read? base (filled base width n) = some n := by
  have read_eq : readAfter? base 0 (filled base width n) = some n := by
    rw [filled, readAfter?_append, readAfter?_zeros (by omega), Option.bind_some,
      readAfter?_toDigits one_lt base_le]
  have ne : filled base width n ≠ [] := by
    intro nil
    exact Nat.toDigits_ne_nil (List.append_eq_nil_iff.mp nil).2
  rwa [read?.eq_2 base _ ne]

/-! ## Decimal numerals -/

theorem padded_eq_filled (width n : Nat) : padded width n = filled 10 width n := rfl

theorem length_padded (width_pos : 0 < width) (lt : n < 10 ^ width) :
    (padded width n).length = width := by
  rw [padded_eq_filled, length_filled (by decide) width_pos lt]

theorem read?_padded (width n : Nat) : read? 10 (padded width n) = some n := by
  rw [padded_eq_filled, read?_filled (by decide) (by decide)]

theorem isDigit_of_mem_padded {c : Char} (c_mem : c ∈ padded width n) : c.isDigit = true := by
  rcases List.mem_append.mp c_mem with zero | digit
  · rw [List.eq_of_mem_replicate zero]
    rfl
  · exact Nat.isDigit_of_mem_toDigits (by decide) (by decide) digit

theorem exists_padded_eq_cons (width n : Nat) :
    ∃ c cs, padded width n = c :: cs ∧ c.isDigit = true := by
  have all : ∀ c ∈ padded width n, c.isDigit = true := fun _ ↦ isDigit_of_mem_padded
  have read_eq := read?_padded width n
  generalize padded width n = digits at all read_eq
  cases digits with
  | nil => cases read_eq
  | cons c cs => exact ⟨c, cs, rfl, all c List.mem_cons_self⟩

/-! ## Numbers of a number of digits -/

theorem lt_of_digit? {c : Char} (digit_eq : digit? base c = some n) : n < base := by
  unfold digit? at digit_eq
  extract_lets value at digit_eq
  split at digit_eq
  next lt => exact Option.some.inj digit_eq ▸ lt
  next => cases digit_eq

theorem lt_of_readAfter? {m : Nat} {digits : List Char}
    (read_eq : readAfter? base m digits = some n) : n < (m + 1) * base ^ digits.length := by
  induction digits generalizing m with
  | nil =>
    cases read_eq
    rw [List.length_nil, Nat.pow_zero, Nat.mul_one]
    exact Nat.lt_succ_self _
  | cons c digits ih =>
    rw [readAfter?] at read_eq
    split at read_eq
    next d digit_eq =>
      have d_lt := lt_of_digit? digit_eq
      refine Nat.lt_of_lt_of_le (ih read_eq) ?_
      rw [List.length_cons, Nat.pow_succ', ← Nat.mul_assoc]
      refine Nat.mul_le_mul_right _ ?_
      rw [Nat.succ_mul]
      omega
    next => cases read_eq

theorem lt_of_read? {digits : List Char} (read_eq : read? base digits = some n) :
    n < base ^ digits.length := by
  cases digits with
  | nil => cases read_eq
  | cons c digits =>
    have n_lt := lt_of_readAfter? (m := 0) read_eq
    rwa [Nat.zero_add, Nat.one_mul] at n_lt

end AuditTrail.Numeral
