import AuditTrail.Decimal.Numeral

/-!
# Universally unique identifiers

Numbers of 128 bits that are written as 32 hexadecimal digits in groups of 8, 4, 4, 4 and 12.
Reading also accepts the digits without hyphens, and the hyphenated form in braces or behind
`urn:uuid:`.
-/

namespace AuditTrail

/-- A universally unique identifier. -/
structure Uuid where
  bits : BitVec 128
  deriving DecidableEq, Repr, Inhabited

namespace Uuid

/-- The 32 hexadecimal digits of an identifier. -/
def digits (id : Uuid) : List Char :=
  let cs := Nat.toDigits 16 id.bits.toNat
  List.replicate (32 - cs.length) '0' ++ cs

/-- The lengths of the groups of digits. -/
def groups : List Nat :=
  [8, 4, 4, 4, 12]

/-- Digits in groups of some lengths, with hyphens between the groups. -/
def hyphenate : List Nat → List Char → List Char
  | [], cs => cs
  | [_], cs => cs
  | n :: rest, cs => cs.take n ++ '-' :: hyphenate rest (cs.drop n)

/-- The digits of hyphenated groups of some lengths. -/
def joinGroups? : List Nat → List Char → Option (List Char)
  | [], cs => some cs
  | [_], cs => some cs
  | n :: rest, cs =>
    match cs.drop n with
    | '-' :: tail => (joinGroups? rest tail).map (cs.take n ++ ·)
    | _ => none

/-- The written form of an identifier. -/
def text (id : Uuid) : String :=
  String.ofList (hyphenate groups id.digits)

/-- The identifier with 32 digits. -/
def ofDigits? (cs : List Char) : Option Uuid :=
  if cs.length = 32 then (Numeral.read? 16 cs).map fun n ↦ ⟨.ofNat 128 n⟩ else none

/-- The identifier of a hyphenated form. -/
def ofHyphenated? (cs : List Char) : Option Uuid :=
  (joinGroups? groups cs).bind ofDigits?

/-- What stands before the hyphenated form in a resource name. -/
def urnHead : List Char :=
  "urn:uuid:".toList

/-- The identifier that a text writes. -/
def parse? (s : String) : Option Uuid :=
  match s.toList with
  | '\x7b' :: rest => if rest.getLast? = some '\x7d' then ofHyphenated? rest.dropLast else none
  | cs =>
    if urnHead <+: cs then ofHyphenated? (cs.drop urnHead.length)
    else if cs.length = 32 then ofDigits? cs
    else ofHyphenated? cs

/-- The version that an identifier says it has. -/
def version (id : Uuid) : Nat :=
  (id.bits.extractLsb' 76 4).toNat

/-- The identifier of version 4 with some random bits, six of which make way for the version and
the variant. -/
def ofRandom (random : BitVec 128) : Uuid :=
  ⟨random.extractLsb' 80 48 ++ (4#4) ++ random.extractLsb' 64 12 ++ (2#2) ++
    random.extractLsb' 0 62⟩

end Uuid

end AuditTrail
