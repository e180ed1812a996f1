import AuditTrail.Decimal.Numeral

/-!
# Messages of document errors

An error of a document keeps the place of the error apart from its message.  A message that already
ends with a place is taken apart, and its numbers are written anew; a place on line zero is none.
-/

namespace AuditTrail.Json

/-- A place in a text. -/
structure Place where
  line : Nat
  column : Nat
  deriving DecidableEq, Repr

namespace Place

/-- The end of a message that names a place. -/
def chars (place : Place) : List Char :=
  " at line ".toList ++ Numeral.ofNat place.line ++ " column ".toList ++
    Numeral.ofNat place.column

/-- The number that 64 bits hold and that one or more digits stand for. -/
def number? (digits : List Char) : Option Nat :=
  (Numeral.read? 10 digits).filter (· < Nat.pow 2 64)

/-- The place that some characters name from the first one to the last one. Zeros may stand before
its numbers. -/
def ofChars? (cs : List Char) : Option Place := do
  let cs ← " at line ".toList.isPrefixOf? cs
  let (line, cs) := Numeral.spanDigits cs
  let column ← " column ".toList.isPrefixOf? cs
  return ⟨← number? line, ← number? column⟩

end Place

/-- A message without the place that it ends with, and the place. -/
def splitPlace? : List Char → Option (List Char × Place)
  | [] => none
  | c :: rest =>
    match Place.ofChars? (c :: rest) with
    | some place => some ([], place)
    | none => (splitPlace? rest).map fun (message, place) ↦ (c :: message, place)

/-- The text of an error with a message. -/
def errorText (message : String) : String :=
  match splitPlace? message.toList with
  | some (message, place) =>
    String.ofList (if place.line = 0 then message else message ++ place.chars)
  | none => message

end AuditTrail.Json
