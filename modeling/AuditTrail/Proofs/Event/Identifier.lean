import AuditTrail.Proofs.Decimal.Numeral
import AuditTrail.Uuid

/-!
# Identifiers read back

An identifier has 32 digits, whatever its bits are, and its hyphens stand behind groups of them.
The written form is none of the others that are accepted: it does not begin with a brace or the
letter of a resource name, since it begins with a digit, and it is longer than its digits.
-/

namespace AuditTrail.Uuid

theorem digits_eq (id : Uuid) : id.digits = Numeral.filled 16 32 id.bits.toNat := rfl

theorem length_digits (id : Uuid) : id.digits.length = 32 :=
  Numeral.length_filled (by decide) (by decide) id.bits.isLt

/-- The digits of an identifier are those of its bits. -/
theorem ofDigits?_digits (id : Uuid) : ofDigits? id.digits = some id := by
  rw [ofDigits?, if_pos (length_digits id), digits_eq,
    Numeral.read?_filled (by decide) (by decide), Option.map_some, BitVec.ofNat_toNat,
    BitVec.setWidth_eq]

/-! ## Hyphens -/

theorem length_hyphenate (lengths : List Nat) (cs : List Char) :
    (hyphenate lengths cs).length = cs.length + (lengths.length - 1) := by
  fun_induction hyphenate lengths cs with
  | case1 => rfl
  | case2 => rfl
  | case3 n rest cs ne ih =>
    obtain ⟨m, rest, rfl⟩ := List.exists_cons_of_ne_nil ne
    rw [List.length_append, List.length_cons, ih]
    simp only [List.length_take, List.length_drop, List.length_cons]
    omega

/-- Groups of digits are joined again, if there are enough digits for all of them. -/
theorem joinGroups?_hyphenate {lengths : List Nat} {cs : List Char}
    (enough : lengths.sum ≤ cs.length) :
    joinGroups? lengths (hyphenate lengths cs) = some cs := by
  fun_induction hyphenate lengths cs with
  | case1 => rfl
  | case2 => rfl
  | case3 n rest cs ne ih =>
    rw [List.sum_cons] at enough
    have take_eq : (cs.take n).length = n := List.length_take_of_le (by omega)
    have rest_enough : rest.sum ≤ (cs.drop n).length := by
      rw [List.length_drop]
      omega
    rw [joinGroups?.eq_3 _ _ _ ne, List.drop_left' take_eq, List.take_left' take_eq]
    change (joinGroups? _ _).map _ = _
    rw [ih rest_enough, Option.map_some, List.take_append_drop]

/-! ## The written form -/

/-- What is written begins with a digit. -/
theorem exists_text_eq (id : Uuid) :
    ∃ c cs d, id.text.toList = c :: cs ∧ Numeral.digit? 16 c = some d := by
  have length_eq := length_digits id
  have read_eq := Numeral.read?_filled (by decide : 1 < 16) (by decide) 32 id.bits.toNat
  rw [← digits_eq] at read_eq
  rw [text, String.toList_ofList]
  generalize id.digits = digits at length_eq read_eq
  cases digits with
  | nil => cases length_eq
  | cons c cs =>
    rw [Numeral.read?.eq_2 _ _ (List.cons_ne_nil c cs), Numeral.readAfter?] at read_eq
    cases digit_eq : Numeral.digit? 16 c with
    | none =>
      rw [digit_eq] at read_eq
      cases read_eq
    | some d => exact ⟨c, _, d, rfl, digit_eq⟩

/-- The written form of an identifier is read back as the identifier. -/
theorem parse?_text (id : Uuid) : parse? id.text = some id := by
  have enough : groups.sum ≤ id.digits.length := (length_digits id).symm.le
  have hyphenated_eq : ofHyphenated? id.text.toList = some id := by
    rw [text, String.toList_ofList, ofHyphenated?, joinGroups?_hyphenate enough, Option.bind_some,
      ofDigits?_digits]
  have length_eq : id.text.toList.length = 36 := by
    rw [text, String.toList_ofList, length_hyphenate, length_digits]
    rfl
  obtain ⟨c, cs, d, text_eq, digit_eq⟩ := exists_text_eq id
  rw [parse?]
  rw [text_eq] at hyphenated_eq length_eq ⊢
  split
  next cs_eq =>
    cases cs_eq
    cases digit_eq
  next =>
    have no_urn : ¬ urnHead <+: c :: cs := by
      rintro ⟨rest, cs_eq⟩
      cases cs_eq
      cases digit_eq
    rw [if_neg no_urn, if_neg (by omega), hyphenated_eq]

end AuditTrail.Uuid
