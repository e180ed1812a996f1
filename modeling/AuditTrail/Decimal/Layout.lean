import AuditTrail.Decimal.Shortest

/-!
# Layouts of floats

What a text form of floats decides for itself: where the exponent form begins, whether an integral
value keeps a fraction and whether a positive exponent is signed. The digits are the shortest that
read back in every layout.
-/

namespace AuditTrail

/-- The decisions of a text form of floats. -/
structure FloatLayout where
  /-- Powers of ten of the first digit that are written without an exponent. -/
  positional : Int → Bool
  /-- An integral value in positional form ends in `.0`. -/
  keepsFraction : Bool
  /-- A positive exponent has a plus sign. -/
  signsExponent : Bool

namespace FloatLayout

/-- Digits with the point behind the digit of the power of ten zero. -/
def positionalDigits (layout : FloatLayout) (digits : List Char) (leading : Int) : List Char :=
  if leading < 0 then
    ['0', '.'] ++ List.replicate (-leading - 1).toNat '0' ++ digits
  else
    let whole := leading.toNat + 1
    if digits.length ≤ whole then
      digits ++ List.replicate (whole - digits.length) '0' ++
        (if layout.keepsFraction then ['.', '0'] else [])
    else digits.take whole ++ '.' :: digits.drop whole

/-- Digits with the point behind the first one and a power of ten. -/
def exponentDigits (layout : FloatLayout) (digits : List Char) (leading : Int) : List Char :=
  digits.take 1 ++ (if digits.length ≤ 1 then [] else '.' :: digits.drop 1) ++
    'e' :: (if leading < 0 then ['-'] else if layout.signsExponent then ['+'] else []) ++
    Nat.toDigits 10 leading.natAbs

/-- Text of a finite float. -/
def finiteText (layout : FloatLayout) (x : Binary64) : String :=
  let d := x.shortest
  let leading := d.leadingExponent
  String.ofList <|
    (if x.negative then ['-'] else []) ++
      if layout.positional leading then layout.positionalDigits d.digits leading
      else layout.exponentDigits d.digits leading

/-- Text of a float; infinities are `inf` and `-inf`, and no NaN has a sign. -/
def text (layout : FloatLayout) (x : Binary64) : String :=
  if x.isFinite then layout.finiteText x
  else if x.isNaN then "NaN"
  else if x.negative then "-inf"
  else "inf"

/-- Every power of ten is written out and an integral value has no fraction. -/
def plain : FloatLayout :=
  ⟨fun _ ↦ true, false, false⟩

/-- Powers of ten from -4 to 15 are written out and an integral value shows that it is a float. -/
def marked : FloatLayout :=
  ⟨fun n ↦ -4 ≤ n && n < 16, true, false⟩

end FloatLayout

end AuditTrail
