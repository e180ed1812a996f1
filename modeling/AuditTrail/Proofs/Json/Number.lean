import AuditTrail.Json.Parser
import AuditTrail.Json.Printer
import AuditTrail.Proofs.Decimal.Shortest

/-!
# Numbers of JSON read back

The text of a number is read digit by digit up to the first character that cannot belong to it.  An
integer is its digits.  A float is written in one of several layouts, and in each of them the digits
and the exponent that are read are those of its shortest decimal, but for an integral float in
positional form, of which a zero more is read behind the point.
-/

namespace AuditTrail

/-! ## Digits -/

namespace Numeral

theorem digit?_of_isDigit {c : Char} (digit : c.isDigit = true) :
    digit? 10 c = some (c.toNat - '0'.toNat) := by
  have bounds : '0' ≤ c ∧ c ≤ '9' := by
    rw [Char.isDigit, Bool.and_eq_true, decide_eq_true_eq, decide_eq_true_eq] at digit
    exact digit
  have lt : c.toNat - '0'.toNat < 10 := by
    have le : c.toNat ≤ '9'.toNat := bounds.2
    have toNat_eq : '9'.toNat = '0'.toNat + 9 := rfl
    omega
  simp only [digit?, if_pos bounds, if_pos lt]

/-- Digits are read as the number that they stand for. -/
theorem readAfter?_eq {digits : List Char} (all : ∀ c ∈ digits, c.isDigit = true) (n : Nat) :
    readAfter? 10 n digits = some (Nat.ofDigitChars 10 digits n) := by
  induction digits generalizing n with
  | nil => exact congrArg some Nat.ofDigitChars_nil.symm
  | cons c rest ih =>
    obtain ⟨digit, all⟩ := List.forall_mem_cons.mp all
    rw [readAfter?, digit?_of_isDigit digit, Nat.ofDigitChars_cons, Nat.mul_comm 10]
    exact ih all _

theorem read?_eq {digits : List Char} (ne : digits ≠ []) (all : ∀ c ∈ digits, c.isDigit = true) :
    read? 10 digits = some (Nat.ofDigitChars 10 digits 0) := by
  cases digits with
  | nil => exact absurd rfl ne
  | cons c rest => exact readAfter?_eq all 0

/-- Digits are taken up to the first character that is none. -/
theorem spanDigits_append {digits rest : List Char} (all : ∀ c ∈ digits, c.isDigit = true)
    (ends : ∀ c ∈ rest.head?, c.isDigit = false) :
    spanDigits (digits ++ rest) = (digits, rest) := by
  rw [spanDigits, List.takeWhile_append_of_pos all, List.dropWhile_append_of_pos all]
  cases rest with
  | nil => rw [List.takeWhile_nil, List.append_nil, List.dropWhile_nil]
  | cons c cs =>
    have no_digit : ¬ c.isDigit = true := by rw [ends c rfl]; exact Bool.false_ne_true
    rw [List.takeWhile_cons_of_neg no_digit, List.append_nil, List.dropWhile_cons_of_neg no_digit]

theorem isDigit_of_mem_toDigits {n : Nat} : ∀ c ∈ Nat.toDigits 10 n, c.isDigit = true :=
  fun _ ↦ Nat.isDigit_of_mem_toDigits (by decide) (by decide)

/-- The numeral of a number that is not zero does not begin with zero. -/
theorem head?_toDigits {n : Nat} (pos : 0 < n) : (Nat.toDigits 10 n).head? ≠ some '0' := by
  induction n using Nat.strongRecOn with
  | ind n ih =>
    rcases Nat.lt_or_ge n 10 with lt | ge
    · have digitChar_ne : ∀ n < 10, 0 < n → n.digitChar ≠ '0' := by decide
      rw [Nat.toDigits_of_lt_base lt, List.head?_cons]
      exact fun eq ↦ digitChar_ne n lt pos (Option.some_inj.mp eq)
    · rw [Nat.toDigits_of_base_le (by decide) ge, List.head?_append_of_ne_nil _ Nat.toDigits_ne_nil]
      exact ih (n / 10) (by omega) (by omega)

end Numeral

namespace Json

/-- What may follow a number: nothing, or a character that does not go on with it. -/
def EndsNumber (rest : List Char) : Prop :=
  ∀ c ∈ rest.head?, c.isDigit = false ∧ c ≠ '.' ∧ c ≠ 'e' ∧ c ≠ 'E'

/-- Digits that may stand before the point: one at least, and no zero before another one. -/
structure IsWhole (digits : List Char) : Prop where
  ne_nil : digits ≠ []
  all : ∀ c ∈ digits, c.isDigit = true
  leading : ∀ c cs, digits ≠ '0' :: c :: cs

theorem isWhole_toDigits (n : Nat) : IsWhole (Nat.toDigits 10 n) where
  ne_nil := Nat.toDigits_ne_nil
  all := Numeral.isDigit_of_mem_toDigits
  leading c cs digits_eq := by
    rcases Nat.eq_zero_or_pos n with rfl | pos
    · rw [Nat.toDigits_zero] at digits_eq
      cases digits_eq
    · exact Numeral.head?_toDigits pos (congrArg List.head? digits_eq)

section Parts

variable {rest places : List Char}

theorem fraction?_point (places_ne : places ≠ []) (all : ∀ c ∈ places, c.isDigit = true)
    (ends : ∀ c ∈ rest.head?, c.isDigit = false) :
    fraction? ('.' :: (places ++ rest)) = some (places, rest) := by
  rw [fraction?, Numeral.spanDigits_append all ends]
  split
  next eq => exact absurd (congrArg Prod.fst eq) places_ne
  next => rfl

theorem fraction?_none (ne : ∀ c ∈ rest.head?, c ≠ '.') : fraction? rest = some ([], rest) := by
  rw [fraction?.eq_def]
  split
  next => exact absurd rfl (ne '.' rfl)
  next => rfl

theorem exponent?_none (ne : ∀ c ∈ rest.head?, c ≠ 'e' ∧ c ≠ 'E') :
    exponent? rest = some (none, rest) := by
  cases rest with
  | nil => rfl
  | cons c cs =>
    rw [exponent?.eq_def]
    exact if_neg (not_or.mpr (ne c rfl))

theorem exponentDigits?_toDigits (sign : Int) (n : Nat)
    (ends : ∀ c ∈ rest.head?, c.isDigit = false) :
    exponentDigits? sign (Nat.toDigits 10 n ++ rest) = some (some (sign * n), rest) := by
  rw [exponentDigits?, Numeral.spanDigits_append Numeral.isDigit_of_mem_toDigits ends]
  split
  next eq => exact absurd (congrArg Prod.fst eq) Nat.toDigits_ne_nil
  next digits _ _ eq =>
    obtain ⟨rfl, rfl⟩ := Prod.mk.inj eq
    rw [Numeral.read?_eq Nat.toDigits_ne_nil Numeral.isDigit_of_mem_toDigits,
      Nat.ofDigitChars_ten_toDigits]
    rfl

/-- An exponent as it is written, always with its sign. -/
theorem exponent?_signed (leading : Int) (ends : ∀ c ∈ rest.head?, c.isDigit = false) :
    exponent? ('e' :: ((if leading < 0 then ['-'] else ['+']) ++
      (Nat.toDigits 10 leading.natAbs ++ rest))) = some (some leading, rest) := by
  rw [exponent?.eq_def]
  split_ifs with neg
  · have leading_eq : -1 * (leading.natAbs : Int) = leading := by omega
    exact (exponentDigits?_toDigits (-1) _ ends).trans (by rw [leading_eq])
  · have leading_eq : 1 * (leading.natAbs : Int) = leading := by omega
    exact (exponentDigits?_toDigits 1 _ ends).trans (by rw [leading_eq])

end Parts

/-- A number is read part by part. -/
theorem unsigned?_append {whole places rest after last : List Char} {exponent : Option Int}
    (isWhole : IsWhole whole) (ends : ∀ c ∈ rest.head?, c.isDigit = false)
    (fraction_eq : fraction? rest = some (places, after))
    (exponent_eq : exponent? after = some (exponent, last)) (negative : Bool) :
    unsigned? negative (whole ++ rest) =
      (if places = [] ∧ exponent = none then integerOf? negative whole
        else floatOf? negative (whole ++ places) (exponent.getD 0 - places.length)).map
          (·, last) := by
  rw [unsigned?, Numeral.spanDigits_append isWhole.all ends]
  split
  next eq => exact absurd (congrArg Prod.fst eq) isWhole.ne_nil
  next c cs _ eq => exact absurd (congrArg Prod.fst eq) (isWhole.leading c cs)
  next digits _ _ _ eq =>
    obtain ⟨rfl, rfl⟩ := Prod.mk.inj eq
    simp only [fraction_eq, exponent_eq, Option.bind_eq_bind, Option.bind_some]
    split_ifs <;> exact Option.map_eq_bind.symm

/-! ## Integers -/

/-- The integers that stay integers when they are read. -/
def IsExact (n : Int) : Prop :=
  -2 ^ 63 ≤ n ∧ n < 2 ^ 64

theorem unsigned?_toDigits (n : Nat) {rest : List Char} (ends : EndsNumber rest)
    (negative : Bool) :
    unsigned? negative (Nat.toDigits 10 n ++ rest) =
      (integerOf? negative (Nat.toDigits 10 n)).map (·, rest) := by
  rw [unsigned?_append (isWhole_toDigits n) (fun c c_mem ↦ (ends c c_mem).1)
    (fraction?_none fun c c_mem ↦ (ends c c_mem).2.1)
    (exponent?_none fun c c_mem ↦ (ends c c_mem).2.2)]
  rfl

/-- A number without a sign in front. -/
theorem number?_of_head? {cs : List Char} (ne : cs.head? ≠ some '-') :
    number? cs = unsigned? false cs := by
  rw [number?.eq_def]
  split
  next => exact absurd rfl ne
  next => rfl

theorem integerOf?_toDigits (n : Nat) (negative : Bool) :
    integerOf? negative (Nat.toDigits 10 n) =
      if negative then
        if 0 < n ∧ n ≤ Nat.pow 2 63 then some (int (-n)) else floatOf? true (Nat.toDigits 10 n) 0
      else if n < Nat.pow 2 64 then some (int n)
      else floatOf? false (Nat.toDigits 10 n) 0 := by
  rw [integerOf?, Numeral.read?_eq Nat.toDigits_ne_nil Numeral.isDigit_of_mem_toDigits,
    Nat.ofDigitChars_ten_toDigits]
  rfl

theorem head?_toDigits_append_ne (n : Nat) (rest : List Char) :
    (Nat.toDigits 10 n ++ rest).head? ≠ some '-' := by
  rw [List.head?_append_of_ne_nil _ Nat.toDigits_ne_nil]
  intro head_eq
  have digit := Numeral.isDigit_of_mem_toDigits '-' (List.mem_of_head? head_eq)
  exact absurd digit (by decide)

/-- An integer of at most 64 bits is read back. -/
theorem number?_ofInt {n : Int} (exact : IsExact n) {rest : List Char} (ends : EndsNumber rest) :
    number? (Numeral.ofInt n ++ rest) = some (int n, rest) := by
  cases n with
  | ofNat n =>
    have lt : n < Nat.pow 2 64 := by
      have := exact.2
      rw [Int.ofNat_eq_natCast] at this
      rw [Nat.pow_eq]
      omega
    rw [Numeral.ofInt, Numeral.ofNat, number?_of_head? (head?_toDigits_append_ne n rest),
      unsigned?_toDigits n ends, integerOf?_toDigits, if_neg Bool.false_ne_true, if_pos lt]
    rfl
  | negSucc n =>
    have le : n + 1 ≤ Nat.pow 2 63 := by
      have := exact.1
      rw [Nat.pow_eq]
      omega
    rw [Numeral.ofInt, Numeral.ofNat, List.cons_append, number?, unsigned?_toDigits (n + 1) ends,
      integerOf?_toDigits, if_pos rfl, if_pos ⟨Nat.succ_pos n, le⟩]
    rfl

/-! ## Floats -/

/-- Digits and an exponent that make up a finite float are read as it. -/
theorem floatOf?_eq {x : Binary64} (finite : x.isFinite = true) {digits : List Char}
    (ne : digits ≠ []) (all : ∀ c ∈ digits, c.isDigit = true) {exponent : Int}
    (x_eq : Binary64.ofDecimal x.negative (Nat.ofDigitChars 10 digits 0) exponent = x) :
    floatOf? x.negative digits exponent = some (float x) := by
  rw [floatOf?, Numeral.read?_eq ne all]
  simp only [Option.bind_eq_bind, Option.bind_some, x_eq, if_pos finite]

theorem IsWhole.take {digits : List Char} (isWhole : IsWhole digits) {n : Nat} (pos : 0 < n) :
    IsWhole (digits.take n) where
  ne_nil eq := (List.take_eq_nil_iff.mp eq).elim (absurd · pos.ne') isWhole.ne_nil
  all c c_mem := isWhole.all c (List.mem_of_mem_take c_mem)
  leading c cs eq := by
    have digits_eq := List.take_append_drop n digits
    rw [eq] at digits_eq
    exact isWhole.leading _ _ digits_eq.symm

/-- A float with digits behind the point is read back. -/
theorem unsigned?_point {x : Binary64} (finite : x.isFinite = true) {whole places rest : List Char}
    (isWhole : IsWhole whole) (places_ne : places ≠ []) (all : ∀ c ∈ places, c.isDigit = true)
    (x_eq : Binary64.ofDecimal x.negative (Nat.ofDigitChars 10 (whole ++ places) 0)
      (-places.length) = x) (ends : EndsNumber rest) :
    unsigned? x.negative (whole ++ '.' :: (places ++ rest)) = some (float x, rest) := by
  have digit_ends : ∀ c ∈ rest.head?, c.isDigit = false := fun c c_mem ↦ (ends c c_mem).1
  have all_digits : ∀ c ∈ whole ++ places, c.isDigit = true :=
    List.forall_mem_append.mpr ⟨isWhole.all, all⟩
  rw [unsigned?_append isWhole (by rintro _ ⟨⟩; rfl) (fraction?_point places_ne all digit_ends)
      (exponent?_none fun c c_mem ↦ (ends c c_mem).2.2),
    if_neg (fun h ↦ places_ne h.1),
    floatOf?_eq finite (List.append_ne_nil_of_left_ne_nil isWhole.ne_nil _) all_digits]
  · rfl
  · rwa [Option.getD_none, Int.zero_sub]

theorem IsWhole.append {digits more : List Char} (isWhole : IsWhole digits)
    (head_ne : digits.head? ≠ some '0') (all : ∀ c ∈ more, c.isDigit = true) :
    IsWhole (digits ++ more) where
  ne_nil := List.append_ne_nil_of_left_ne_nil isWhole.ne_nil more
  all := List.forall_mem_append.mpr ⟨isWhole.all, all⟩
  leading c cs eq := by
    have head_eq := congrArg List.head? eq
    rw [List.head?_append_of_ne_nil _ isWhole.ne_nil] at head_eq
    exact head_ne head_eq

theorem ofDigitChars_shortest (x : Binary64) :
    Nat.ofDigitChars 10 x.shortest.digits 0 = x.shortest.coefficient :=
  Nat.ofDigitChars_ten_toDigits

theorem isDigit_of_mem_zeros (zeros : Nat) :
    ∀ c ∈ List.replicate zeros '0', c.isDigit = true := by
  intro c c_mem
  rw [List.eq_of_mem_replicate c_mem]
  rfl

/-- The digits of a shortest decimal with the zeros up to the point. -/
theorem isWhole_shortest {x : Binary64} (finite : x.isFinite = true) {zeros : Nat}
    (exponent_eq : x.shortest.exponent = zeros) :
    IsWhole (x.shortest.digits ++ List.replicate zeros '0') := by
  rcases Nat.eq_zero_or_pos x.shortest.coefficient with zero | pos
  · rw [Binary64.shortest_eq_zero finite zero] at exponent_eq ⊢
    have zeros_eq : zeros = 0 := Int.natCast_eq_zero.mp exponent_eq.symm
    rw [zeros_eq, List.replicate_zero, List.append_nil]
    exact isWhole_toDigits 0
  · exact (isWhole_toDigits _).append (Numeral.head?_toDigits pos) (isDigit_of_mem_zeros zeros)

section Positional

variable {x : Binary64} (finite : x.isFinite = true) {rest : List Char} (ends : EndsNumber rest)

include finite ends

/-- All digits stand behind the point, and zeros before them. -/
theorem unsigned?_zeroPoint {zeros : Nat}
    (exponent_eq : x.shortest.exponent = -(zeros + x.shortest.digits.length : Nat)) :
    unsigned? x.negative ('0' :: '.' :: (List.replicate zeros '0' ++ x.shortest.digits ++ rest)) =
      some (float x, rest) := by
  have digits_whole : IsWhole x.shortest.digits := isWhole_toDigits _
  refine unsigned?_point finite (isWhole_toDigits 0)
    (List.append_ne_nil_of_right_ne_nil _ digits_whole.ne_nil)
    (List.forall_mem_append.mpr ⟨isDigit_of_mem_zeros zeros, digits_whole.all⟩) ?_ ends
  rw [Nat.ofDigitChars_append, Nat.ofDigitChars_append, Nat.ofDigitChars_ten_toDigits,
    Nat.ofDigitChars_replicate_zero, Nat.mul_zero, ofDigitChars_shortest, List.length_append,
    List.length_replicate, ← exponent_eq]
  exact Binary64.ofDecimal_shortest finite

/-- All digits stand before the point, and zeros behind them. -/
theorem unsigned?_integral {zeros : Nat} (exponent_eq : x.shortest.exponent = zeros)
    (le : zeros ≤ 400) :
    unsigned? x.negative
        (x.shortest.digits ++ List.replicate zeros '0' ++ '.' :: '0' :: rest) =
      some (float x, rest) := by
  refine unsigned?_point finite (isWhole_shortest finite exponent_eq) (List.cons_ne_nil '0' [])
    (isDigit_of_mem_zeros 1) ?_ ends
  have shift_eq := Binary64.ofDecimal_shift le x.negative x.shortest.coefficient
  rw [← exponent_eq, Binary64.ofDecimal_shortest finite] at shift_eq
  rw [Nat.ofDigitChars_append, Nat.ofDigitChars_append, ofDigitChars_shortest,
    Nat.ofDigitChars_replicate_zero, Nat.ofDigitChars_cons, Nat.ofDigitChars_nil, Nat.sub_self,
    Nat.add_zero, Nat.mul_comm 10, Nat.mul_comm (10 ^ _)]
  exact shift_eq

/-- The point stands among the digits. -/
theorem unsigned?_split {whole : Nat} (pos : 0 < whole) (lt : whole < x.shortest.digits.length)
    (exponent_eq : x.shortest.exponent = -(x.shortest.digits.length - whole : Nat)) :
    unsigned? x.negative
        (x.shortest.digits.take whole ++ '.' :: (x.shortest.digits.drop whole ++ rest)) =
      some (float x, rest) := by
  have digits_whole : IsWhole x.shortest.digits := isWhole_toDigits _
  refine unsigned?_point finite (digits_whole.take pos)
    (List.drop_eq_nil_iff.not.mpr (Nat.not_le.mpr lt))
    (fun c c_mem ↦ digits_whole.all c (List.mem_of_mem_drop c_mem)) ?_ ends
  rw [List.take_append_drop, ofDigitChars_shortest, List.length_drop, ← exponent_eq]
  exact Binary64.ofDecimal_shortest finite

/-- A float in positional form is read back. -/
theorem unsigned?_positionalDigits (small : x.shortest.leadingExponent < 16) :
    unsigned? x.negative
        (floatLayout.positionalDigits x.shortest.digits x.shortest.leadingExponent ++ rest) =
      some (float x, rest) := by
  have length_pos : 0 < x.shortest.digits.length := Nat.length_toDigits_pos
  have leading_eq : x.shortest.leadingExponent =
      x.shortest.exponent + (x.shortest.digits.length - 1 : Nat) := rfl
  have keeps : floatLayout.keepsFraction = true := rfl
  rw [FloatLayout.positionalDigits]
  by_cases neg : x.shortest.leadingExponent < 0
  · rw [if_pos neg]
    exact unsigned?_zeroPoint finite ends (by omega)
  · rw [if_neg neg]
    dsimp only
    by_cases integral : x.shortest.digits.length ≤ x.shortest.leadingExponent.toNat + 1
    · rw [if_pos integral, if_pos keeps, List.append_assoc]
      exact unsigned?_integral finite ends (by omega) (by omega)
    · rw [if_neg integral, List.append_assoc, List.cons_append]
      exact unsigned?_split finite ends (Nat.succ_pos _) (by omega) (by omega)

end Positional

/-- A float with one digit before the point and an exponent is read back. -/
theorem unsigned?_scientific {x : Binary64} (finite : x.isFinite = true)
    {digits tail rest : List Char} {exponent : Int} (isWhole : IsWhole digits)
    (head_eq : tail.head? = some 'e') (exponent_eq : exponent? tail = some (some exponent, rest))
    (x_eq : Binary64.ofDecimal x.negative (Nat.ofDigitChars 10 digits 0)
      (exponent - (digits.length - 1 : Nat)) = x) :
    unsigned? x.negative (digits.take 1 ++
        ((if digits.length ≤ 1 then [] else '.' :: digits.drop 1) ++ tail)) =
      some (float x, rest) := by
  have tail_ends {p : Char → Prop} (holds : p 'e') : ∀ c ∈ tail.head?, p c := by
    rw [head_eq]
    rintro _ ⟨⟩
    exact holds
  have float_eq : floatOf? x.negative (digits.take 1 ++ digits.drop 1)
      (exponent - (digits.drop 1).length) = some (float x) := by
    rw [List.take_append_drop, List.length_drop]
    exact floatOf?_eq finite isWhole.ne_nil isWhole.all x_eq
  have read {fraction : List Char}
      (fraction_ends : ∀ c ∈ (fraction ++ tail).head?, c.isDigit = false)
      (fraction_eq : fraction? (fraction ++ tail) = some (digits.drop 1, tail)) :
      unsigned? x.negative (digits.take 1 ++ (fraction ++ tail)) = some (float x, rest) := by
    rw [unsigned?_append (isWhole.take Nat.one_pos) fraction_ends fraction_eq exponent_eq,
      if_neg (fun h ↦ nomatch h.2), Option.getD_some, float_eq]
    rfl
  by_cases single : digits.length ≤ 1
  · rw [if_pos single]
    refine read (tail_ends rfl) ?_
    rw [List.drop_eq_nil_iff.mpr single]
    exact fraction?_none (tail_ends (by decide))
  · rw [if_neg single]
    refine read (by rintro _ ⟨⟩; rfl) ?_
    exact fraction?_point (List.drop_eq_nil_iff.not.mpr single)
      (fun c c_mem ↦ isWhole.all c (List.mem_of_mem_drop c_mem)) (tail_ends rfl)

/-- A float in exponent form is read back. -/
theorem unsigned?_exponentDigits {x : Binary64} (finite : x.isFinite = true) {rest : List Char}
    (ends : EndsNumber rest) :
    unsigned? x.negative
        (floatLayout.exponentDigits x.shortest.digits x.shortest.leadingExponent ++ rest) =
      some (float x, rest) := by
  have digits_whole : IsWhole x.shortest.digits := isWhole_toDigits _
  have digit_ends : ∀ c ∈ rest.head?, c.isDigit = false := fun c c_mem ↦ (ends c c_mem).1
  have signs : floatLayout.signsExponent = true := rfl
  have scientific := unsigned?_scientific finite digits_whole rfl
    (exponent?_signed x.shortest.leadingExponent digit_ends) ?_
  · simpa only [FloatLayout.exponentDigits, if_pos signs, List.append_assoc, List.cons_append]
      using scientific
  · rw [Decimal.leadingExponent, Int.add_sub_cancel]
    rw [ofDigitChars_shortest]
    exact Binary64.ofDecimal_shortest finite

/-- What is read without a sign may have one in front. -/
theorem number?_signed {negative : Bool} {body : List Char} {outcome : Json × List Char}
    (body_eq : unsigned? negative body = some outcome) :
    number? ((if negative then ['-'] else []) ++ body) = some outcome := by
  cases negative with
  | true => exact body_eq
  | false =>
    refine (number?_of_head? fun head_eq ↦ ?_).trans body_eq
    obtain ⟨cs, rfl⟩ := List.head?_eq_some_iff.mp head_eq
    cases body_eq

/-- A finite float is read back. -/
theorem number?_finiteText {x : Binary64} (finite : x.isFinite = true) {rest : List Char}
    (ends : EndsNumber rest) :
    number? ((floatLayout.finiteText x).toList ++ rest) = some (float x, rest) := by
  rw [FloatLayout.finiteText, String.toList_ofList, List.append_assoc]
  refine number?_signed ?_
  by_cases positional : floatLayout.positional x.shortest.leadingExponent = true
  · have small : x.shortest.leadingExponent < 16 := by
      have bounds := Bool.and_eq_true_iff.mp positional
      exact of_decide_eq_true bounds.2
    rw [if_pos positional]
    exact unsigned?_positionalDigits finite ends small
  · rw [if_neg positional]
    exact unsigned?_exponentDigits finite ends

end Json

end AuditTrail
