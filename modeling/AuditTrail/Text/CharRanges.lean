/-!
# Sets of characters by code point ranges
-/

namespace AuditTrail.Text

/-- A set of characters, given by inclusive ranges of code points. -/
abbrev CharRanges := List (Nat × Nat)

namespace CharRanges

/-- Some range holds the character. -/
def contains (ranges : CharRanges) (c : Char) : Bool :=
  ranges.any fun r ↦ r.1 ≤ c.toNat && c.toNat ≤ r.2

@[simp] theorem contains_nil (c : Char) : contains [] c = false := rfl

@[simp] theorem contains_cons (r : Nat × Nat) (ranges : CharRanges) (c : Char) :
    contains (r :: ranges) c =
      ((decide (r.1 ≤ c.toNat) && decide (c.toNat ≤ r.2)) || contains ranges c) :=
  rfl

end CharRanges

end AuditTrail.Text
