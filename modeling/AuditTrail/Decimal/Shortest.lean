import AuditTrail.Decimal.Binary64

/-!
# The shortest decimal that reads back

The decimal of a finite float lies on the coarsest grid `10 ^ p` that has a point which rounds to
the float, and is the nearer one where two neighbouring points do.
-/

namespace AuditTrail

/-- The number `coefficient * 10 ^ exponent`. -/
structure Decimal where
  coefficient : Nat
  exponent : Int
  deriving DecidableEq, Repr, Inhabited

namespace Decimal

/-- The decimal digits of the coefficient. -/
def digits (d : Decimal) : List Char :=
  Nat.toDigits 10 d.coefficient

/-- The power of ten of the first digit. -/
def leadingExponent (d : Decimal) : Int :=
  d.exponent + (d.digits.length - 1 : Nat)

end Decimal

namespace Binary64

/-- How many whole steps of `10 ^ p` fit into `num / den`. -/
def gridFloor (num den : Nat) (p : Int) : Nat :=
  num * Nat.pow 10 (-p).toNat / (den * Nat.pow 10 p.toNat)

/-- A power of ten above every grid that can have a point nearest to the float. -/
def coarsestGrid (x : Binary64) : Int :=
  (x.significand.log2 + x.scale + 1) * 30103 / 100000 + 1

/-- All digits of a finite float. -/
def exactDecimal (x : Binary64) : Decimal :=
  if 0 ≤ x.scale then ⟨x.numerator, 0⟩
  else ⟨x.significand * Nat.pow 5 (-x.scale).toNat, x.scale⟩

/-- The first grid of `p`, `p - 1`, … with a point that reads back, among the next `steps`. -/
def searchGrid (x : Binary64) : (steps : Nat) → (p : Int) → Decimal
  | 0, _ => x.exactDecimal
  | steps + 1, p =>
    let c := gridFloor x.numerator x.denominator p
    let below := ofDecimal x.negative c p = x
    let above := ofDecimal x.negative (c + 1) p = x
    if below ∧ (¬above ∨ gridFloor (2 * x.numerator) x.denominator p = 2 * c) then ⟨c, p⟩
    else if above then ⟨c + 1, p⟩
    else searchGrid x steps (p - 1)

/-- The shortest decimal that reads back as the magnitude of a finite float. -/
def shortest (x : Binary64) : Decimal :=
  if x.significand = 0 then ⟨0, 0⟩ else searchGrid x 24 x.coarsestGrid

end Binary64

end AuditTrail
