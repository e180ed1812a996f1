import AuditTrail.Decimal.Binary64
import AuditTrail.Decimal.Numeral

/-!
# Numbers and null in YAML

Which plain scalars are numbers or null.
-/

namespace AuditTrail.Yaml

/-- The texts of the null value. -/
def isNullText (s : String) : Bool :=
  s = "null" || s = "Null" || s = "NULL" || s = "~"

/-- Decimal digits that write no number because the first of several is a zero. -/
def hasLeadingZero (cs : List Char) : Bool :=
  match cs with
  | '0' :: _ :: _ => cs.all Char.isDigit
  | _ => false

/-- The characters without a sign in front. -/
def unsigned : List Char → List Char
  | '+' :: cs => cs
  | '-' :: cs => cs
  | cs => cs

/-- The natural number that characters write: decimal, or hexadecimal, octal or binary behind its
mark. -/
def nat? : List Char → Option Nat
  | '0' :: 'x' :: digits => Numeral.read? 16 digits
  | '0' :: 'o' :: digits => Numeral.read? 8 digits
  | '0' :: 'b' :: digits => Numeral.read? 2 digits
  | cs => if hasLeadingZero cs then none else Numeral.read? 10 cs

/-- A natural number below a bound, with an optional plus sign. -/
def natBelow? (bound : Nat) (s : String) : Option Nat :=
  let cs := match s.toList with
    | '+' :: cs => cs
    | cs => cs
  (nat? cs).filter (· < bound)

/-- The characters write an integer of 128 bits. -/
def isIntegerText (cs : List Char) : Bool :=
  match cs with
  | '-' :: digits => (nat? digits).any (· ≤ Nat.pow 2 127)
  | cs => (nat? (unsigned cs)).any (· < Nat.pow 2 128)

/-- The exponent of a float, which may be missing. -/
def exponent? : List Char → Option Int
  | [] => some 0
  | e :: rest =>
    if e = 'e' || e = 'E' then
      match rest with
      | '-' :: digits => (Numeral.read? 10 digits).map fun n ↦ -(n : Int)
      | '+' :: digits => (Numeral.read? 10 digits).map Int.ofNat
      | digits => (Numeral.read? 10 digits).map Int.ofNat
    else none

/-- The finite float that characters without a sign write. -/
def isFiniteFloatText (cs : List Char) : Bool :=
  let (whole, rest) := Numeral.spanDigits cs
  let (places, rest) := match rest with
    | '.' :: rest => Numeral.spanDigits rest
    | rest => ([], rest)
  match Numeral.read? 10 (whole ++ places), exponent? rest with
  | some n, some e => (Binary64.ofDecimal false n (e - places.length)).isFinite
  | _, _ => false

/-- The special floats, without a sign. -/
def isInfinityText (s : String) : Bool :=
  s = ".inf" || s = ".Inf" || s = ".INF"

/-- The texts of the float that is no number. -/
def isNaNText (s : String) : Bool :=
  s = ".nan" || s = ".NaN" || s = ".NAN"

/-- The characters write a float. -/
def isFloatText (cs : List Char) : Bool :=
  isNaNText (String.ofList cs) || isInfinityText (String.ofList (unsigned cs)) ||
    isFiniteFloatText (unsigned cs)

/-- The characters write a number; decimal digits behind a needless zero count as one. -/
def isNumberText (cs : List Char) : Bool :=
  isIntegerText cs || hasLeadingZero (unsigned cs) || isFloatText cs

end AuditTrail.Yaml
