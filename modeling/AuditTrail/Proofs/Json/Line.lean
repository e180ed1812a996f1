import AuditTrail.Json.Printer
import AuditTrail.Proofs.Json.Number
import AuditTrail.Proofs.Text.Utf8

/-!
# Documents on one line

The compact text of a document has no control characters: strings escape theirs, and nothing else
that is written is one.  In particular it has no line breaks, so that a document is one line of a
file.  This holds of the bytes too, because no other character has the byte of a line break in its
encoding.
-/

namespace AuditTrail

/-! ## Texts without control characters -/

/-- No character of a text stands before the space. -/
def HasNoControls (cs : List Char) : Prop :=
  ∀ c ∈ cs, 0x20 ≤ c.toNat

namespace HasNoControls

variable {c : Char} {cs ds : List Char}

instance (cs : List Char) : Decidable (HasNoControls cs) :=
  List.decidableBAll (fun c : Char ↦ 0x20 ≤ c.toNat) cs

@[simp] theorem nil : HasNoControls [] :=
  fun _ mem ↦ absurd mem List.not_mem_nil

@[simp] theorem cons_iff : HasNoControls (c :: cs) ↔ 0x20 ≤ c.toNat ∧ HasNoControls cs :=
  List.forall_mem_cons

@[simp] theorem append_iff : HasNoControls (cs ++ ds) ↔ HasNoControls cs ∧ HasNoControls ds :=
  List.forall_mem_append

theorem of_subset (none : HasNoControls cs) (subset : ds ⊆ cs) : HasNoControls ds :=
  fun c mem ↦ none c (subset mem)

theorem replicate (le : 0x20 ≤ c.toNat) (n : Nat) : HasNoControls (List.replicate n c) :=
  fun _ mem ↦ List.eq_of_mem_replicate mem ▸ le

theorem of_digits (all : ∀ c ∈ cs, c.isDigit = true) : HasNoControls cs := by
  intro c mem
  have digit := all c mem
  rw [Char.isDigit, Bool.and_eq_true, decide_eq_true_eq] at digit
  exact Nat.le_trans (by decide) (show '0'.toNat ≤ c.toNat from digit.1)

theorem toDigits (n : Nat) : HasNoControls (Nat.toDigits 10 n) :=
  of_digits Numeral.isDigit_of_mem_toDigits

end HasNoControls

/-! ## Numbers -/

theorem Numeral.hasNoControls_ofInt : ∀ n : Int, HasNoControls (Numeral.ofInt n)
  | .ofNat n => HasNoControls.toDigits n
  | .negSucc n => HasNoControls.cons_iff.mpr ⟨by decide, HasNoControls.toDigits (n + 1)⟩

namespace FloatLayout

variable {layout : FloatLayout} {digits : List Char} {leading : Int}

/-- The positional form adds zeros and a point to the digits. -/
theorem hasNoControls_positionalDigits (none : HasNoControls digits) :
    HasNoControls (layout.positionalDigits digits leading) := by
  have zeros (n : Nat) : HasNoControls (List.replicate n '0') := .replicate (by decide) n
  have front (n : Nat) : HasNoControls (digits.take n) := none.of_subset (List.take_subset n digits)
  have back (n : Nat) : HasNoControls (digits.drop n) := none.of_subset (List.drop_subset n digits)
  simp only [positionalDigits]
  split_ifs <;> simp only [HasNoControls.append_iff, HasNoControls.cons_iff, HasNoControls.nil,
    none, zeros, front, back, and_true, true_and] <;> decide

/-- The exponent form adds a point, the sign of the exponent and its numeral to the digits. -/
theorem hasNoControls_exponentDigits (none : HasNoControls digits) :
    HasNoControls (layout.exponentDigits digits leading) := by
  have front : HasNoControls (digits.take 1) := none.of_subset (List.take_subset 1 digits)
  have back : HasNoControls (digits.drop 1) := none.of_subset (List.drop_subset 1 digits)
  have exponent := HasNoControls.toDigits leading.natAbs
  simp only [exponentDigits]
  split_ifs <;> simp only [HasNoControls.append_iff, HasNoControls.cons_iff, HasNoControls.nil,
    front, back, exponent, and_true, true_and] <;> decide

theorem hasNoControls_finiteText (x : Binary64) :
    HasNoControls (layout.finiteText x).toList := by
  have digits : HasNoControls x.shortest.digits := HasNoControls.toDigits _
  have sign : HasNoControls (if x.negative then ['-'] else []) := by split_ifs <;> decide
  simp only [finiteText, String.toList_ofList, HasNoControls.append_iff]
  refine ⟨sign, ?_⟩
  split_ifs
  · exact hasNoControls_positionalDigits digits
  · exact hasNoControls_exponentDigits digits

end FloatLayout

namespace Json

/-! ## Documents -/

theorem hasNoControls_escapeChar (c : Char) : HasNoControls (escapeChar c) := by
  -- The two digits of an escaped control are those of numbers up to fifteen.
  have digitChar_le : ∀ n < 16, 0x20 ≤ n.digitChar.toNat := by decide
  rw [escapeChar.eq_def]
  split <;> try decide
  split_ifs with control
  · have high := digitChar_le (c.toNat / 16) (by omega)
    have low := digitChar_le (c.toNat % 16) (by omega)
    simp only [HasNoControls.cons_iff, HasNoControls.nil, high, low, and_true]
    decide
  · exact HasNoControls.cons_iff.mpr ⟨Nat.le_of_not_lt control, HasNoControls.nil⟩

theorem hasNoControls_stringChars (s : String) : HasNoControls (stringChars s) := by
  have escaped : HasNoControls (s.toList.flatMap escapeChar) := by
    intro c mem
    obtain ⟨d, -, mem⟩ := List.mem_flatMap.mp mem
    exact hasNoControls_escapeChar d c mem
  simp only [stringChars, HasNoControls.append_iff, HasNoControls.cons_iff, escaped]
  decide

mutual

theorem hasNoControls_chars (j : Json) : HasNoControls (chars j) := by
  cases j with
  | null => decide
  | bool b => cases b <;> decide
  | int n => exact Numeral.hasNoControls_ofInt n
  | float x =>
    rw [chars]
    split_ifs
    · exact FloatLayout.hasNoControls_finiteText x
    · decide
  | str s => exact hasNoControls_stringChars s
  | arr items =>
    have inner := hasNoControls_itemChars items
    simp only [chars, HasNoControls.append_iff, HasNoControls.cons_iff, inner]
    decide
  | obj members =>
    have inner := hasNoControls_memberChars members
    simp only [chars, HasNoControls.append_iff, HasNoControls.cons_iff, inner]
    decide

theorem hasNoControls_itemChars : (items : List Json) → HasNoControls (itemChars items)
  | [] => HasNoControls.nil
  | [item] => hasNoControls_chars item
  | item :: next :: rest =>
    HasNoControls.append_iff.mpr ⟨hasNoControls_chars item,
      HasNoControls.cons_iff.mpr ⟨by decide, hasNoControls_itemChars (next :: rest)⟩⟩

theorem hasNoControls_memberChars :
    (members : List (String × Json)) → HasNoControls (memberChars members)
  | [] => HasNoControls.nil
  | [(name, value)] =>
    HasNoControls.append_iff.mpr ⟨hasNoControls_stringChars name,
      HasNoControls.cons_iff.mpr ⟨by decide, hasNoControls_chars value⟩⟩
  | (name, value) :: next :: rest => by
    have inner := hasNoControls_memberChars (next :: rest)
    have name_none := hasNoControls_stringChars name
    have value_none := hasNoControls_chars value
    simp only [memberChars, HasNoControls.append_iff, HasNoControls.cons_iff, inner, name_none,
      value_none]
    decide

end

end Json

/-! ## Bytes -/

namespace Text.Utf8

/-- The encoding of a character of ASCII is its code, and all bytes of others have the first bit
set. -/
theorem newline_not_mem_utf8EncodeChar {c : Char} (ne : c ≠ '\n') :
    10 ∉ String.utf8EncodeChar c := by
  have valid : c.toNat < 0xD800 ∨ 0xDFFF < c.toNat ∧ c.toNat < 0x110000 := c.valid
  have toNat_ne : c.toNat ≠ 10 := fun eq ↦ ne (Char.toNat_inj.mp eq)
  have byte_ne {n : Nat} (lt : n < 256) (ne : n ≠ 10) : (10 : UInt8) ≠ UInt8.ofNat n :=
    fun eq ↦ ne (toNat_ofNat_of_lt lt ▸ (congrArg UInt8.toNat eq).symm)
  rw [String.utf8EncodeChar, show c.val.toNat = c.toNat from rfl]
  generalize c.toNat = v at valid toNat_ne ⊢
  split_ifs
  all_goals
    simp only [List.mem_cons, List.not_mem_nil, or_false, not_or]
    repeat' constructor
  all_goals exact byte_ne (by omega) (by omega)

/-- The bytes of a text without line breaks are without the byte of one. -/
theorem newline_not_mem_encode {cs : List Char} (no_break : '\n' ∉ cs) : 10 ∉ encode cs := by
  intro mem
  obtain ⟨c, c_mem, mem⟩ := List.mem_flatMap.mp mem
  exact newline_not_mem_utf8EncodeChar (fun eq ↦ no_break (eq ▸ c_mem)) mem

end Text.Utf8

/-- The text of a document is without the byte of a line break. -/
theorem Json.newline_not_mem_render (j : Json) : 10 ∉ Text.Utf8.ofString j.render := by
  refine Text.Utf8.newline_not_mem_encode fun mem ↦ ?_
  rw [Json.render, String.toList_ofList] at mem
  exact absurd (Json.hasNoControls_chars j '\n' mem) (by decide)

end AuditTrail
