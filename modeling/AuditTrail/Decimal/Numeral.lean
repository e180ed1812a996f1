/-!
# Numerals

Decimal numerals of natural numbers and integers, and the reading of digits.
-/

namespace AuditTrail.Numeral

/-- Decimal digits of a natural number. -/
def ofNat (n : Nat) : List Char :=
  Nat.toDigits 10 n

/-- Decimal digits of an integer, after a minus sign if it is negative. -/
def ofInt : Int → List Char
  | .ofNat n => ofNat n
  | .negSucc n => '-' :: ofNat (n + 1)

/-- Digits filled up with zeros on the left to at least `width` characters. -/
def padded (width n : Nat) : List Char :=
  List.replicate (width - (ofNat n).length) '0' ++ ofNat n

/-- The value of a digit of a base up to 36, of either case. -/
def digit? (base : Nat) (c : Char) : Option Nat :=
  let value :=
    if '0' ≤ c ∧ c ≤ '9' then c.toNat - '0'.toNat
    else if 'a' ≤ c ∧ c ≤ 'z' then c.toNat - 'a'.toNat + 10
    else if 'A' ≤ c ∧ c ≤ 'Z' then c.toNat - 'A'.toNat + 10
    else base
  if value < base then some value else none

/-- The number that digits of a base stand for after those that stand for `n`. -/
def readAfter? (base : Nat) (n : Nat) : List Char → Option Nat
  | [] => some n
  | c :: cs =>
    match digit? base c with
    | some d => readAfter? base (n * base + d) cs
    | none => none

/-- The number that one or more digits of a base stand for. -/
def read? (base : Nat) : List Char → Option Nat
  | [] => none
  | cs => readAfter? base 0 cs

/-- The digits at the start of a text and what follows them. -/
def spanDigits (cs : List Char) : List Char × List Char :=
  (cs.takeWhile Char.isDigit, cs.dropWhile Char.isDigit)

/-- A natural number below `bound`, with an optional plus sign in front. -/
def natBelow? (bound : Nat) (s : String) : Option Nat :=
  let digits := match s.toList with
    | '+' :: cs => cs
    | cs => cs
  (read? 10 digits).filter (· < bound)

/-- An integer from `-bound` up to and without `bound`, with an optional sign in front. -/
def intWithin? (bound : Nat) (s : String) : Option Int :=
  match s.toList with
  | '-' :: cs => (read? 10 cs).bind fun n ↦ if n ≤ bound then some (-n) else none
  | _ => (natBelow? bound s).map Int.ofNat

end AuditTrail.Numeral
