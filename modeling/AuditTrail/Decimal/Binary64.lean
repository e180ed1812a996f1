/-!
# Binary floating point with 64 bits

Floats are kept as their bits, so that equality is equality of representations and every operation
below is arithmetic on natural numbers. A finite float is `significand * 2 ^ scale`; rounding takes
the nearest float and, between two, the one with the even significand.
-/

namespace AuditTrail

/-- A binary floating point number with a sign bit, 11 exponent bits and 52 fraction bits. -/
structure Binary64 where
  bits : UInt64
  deriving DecidableEq, Repr, Inhabited

namespace Binary64

/-- The sign bit is set. -/
def negative (x : Binary64) : Bool :=
  Nat.pow 2 63 ≤ x.bits.toNat

/-- The biased exponent. -/
def exponentField (x : Binary64) : Nat :=
  x.bits.toNat / Nat.pow 2 52 % Nat.pow 2 11

/-- The fraction bits. -/
def fraction (x : Binary64) : Nat :=
  x.bits.toNat % Nat.pow 2 52

/-- Neither an infinity nor a NaN. -/
def isFinite (x : Binary64) : Bool :=
  x.exponentField != 0x7FF

/-- Not a number. -/
def isNaN (x : Binary64) : Bool :=
  x.exponentField == 0x7FF && x.fraction != 0

/-- The integer that a finite float scales by a power of two. -/
def significand (x : Binary64) : Nat :=
  if x.exponentField = 0 then x.fraction else x.fraction + Nat.pow 2 52

/-- The power of two that scales the significand of a finite float. -/
def scale (x : Binary64) : Int :=
  (max x.exponentField 1 : Nat) - 1075

/-- Numerator of the magnitude of a finite float. -/
def numerator (x : Binary64) : Nat :=
  x.significand * Nat.pow 2 x.scale.toNat

/-- Denominator of the magnitude of a finite float. -/
def denominator (x : Binary64) : Nat :=
  Nat.pow 2 (-x.scale).toNat

/-- The magnitude bits of infinity. -/
def infinityBits : Nat :=
  0x7FF * Nat.pow 2 52

/-- The float with a sign and the 63 bits below it. -/
def ofParts (negative : Bool) (magnitude : Nat) : Binary64 :=
  ⟨.ofNat (magnitude + if negative then Nat.pow 2 63 else 0)⟩

/-- The integer nearest to `num / den`; half way between two, the even one. -/
def roundHalfEven (num den : Nat) : Nat :=
  let floor := num / den
  let rest := num % den
  if 2 * rest < den ∨ 2 * rest = den ∧ floor % 2 = 0 then floor else floor + 1

/-- `num / den / 2 ^ e` as a fraction. -/
def unscale (num den : Nat) (e : Int) : Nat × Nat :=
  (num * Nat.pow 2 (-e).toNat, den * Nat.pow 2 e.toNat)

/-- The scale at which the significand of `num / den` has 53 bits, or the least scale there is. -/
def fittingScale (num den : Nat) : Int :=
  let e : Int := num.log2 - den.log2 - 53
  let (n, d) := unscale num den e
  max (-1074) (if n / d < Nat.pow 2 53 then e else e + 1)

/-- The float nearest to `num / den`. -/
def ofRatio (negative : Bool) (num den : Nat) : Binary64 :=
  if num = 0 then ofParts negative 0
  else
    let e := fittingScale num den
    let (n, d) := unscale num den e
    ofParts negative (min infinityBits ((e + 1074).toNat * Nat.pow 2 52 + roundHalfEven n d))

/-- The float nearest to `coefficient * 10 ^ exponent`. Exponents that lead out of the range of
all floats are answered without computing the power. -/
def ofDecimal (negative : Bool) (coefficient : Nat) (exponent : Int) : Binary64 :=
  if coefficient ≠ 0 ∧ 400 < exponent then ofParts negative infinityBits
  else if exponent < -1200 - (coefficient.log2 : Int) then ofParts negative 0
  else if 0 ≤ exponent then ofRatio negative (coefficient * Nat.pow 10 exponent.toNat) 1
  else ofRatio negative coefficient (Nat.pow 10 (-exponent).toNat)

/-- The float nearest to an integer. -/
def ofInt (n : Int) : Binary64 :=
  ofRatio (n < 0) n.natAbs 1

/-- What an operation without a value gives. -/
def indefinite : Binary64 :=
  ofParts true (infinityBits + Nat.pow 2 51)

/-- The quotient of two finite floats that are not negative. Zero divides zero to no number, and
anything else to infinity. -/
def quotient (x y : Binary64) : Binary64 :=
  if y.significand ≠ 0 then
    ofRatio false (x.numerator * y.denominator) (x.denominator * y.numerator)
  else if x.significand ≠ 0 then ofParts false infinityBits
  else indefinite

/-- One less a float that is not negative. -/
def oneMinus (x : Binary64) : Binary64 :=
  if x.isNaN then x
  else if x.isFinite then
    ofRatio (x.denominator < x.numerator) ((x.denominator : Int) - x.numerator).natAbs x.denominator
  else ofParts true infinityBits

end Binary64

end AuditTrail
