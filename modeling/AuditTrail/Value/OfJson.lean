import AuditTrail.Value.Basic
import AuditTrail.Json.Basic

/-!
# Values of JSON documents

An integer that 64 signed bits hold stays an integer; a greater one becomes the nearest float. The
members of an object become a map.
-/

namespace AuditTrail.Value

/-- The value of a JSON integer. -/
def ofJsonInt (n : Int) : Value :=
  if -(Nat.pow 2 63 : Int) ≤ n ∧ n < Nat.pow 2 63 then int n else float (.ofInt n)

mutual

/-- The value of a JSON document. -/
def ofJson : Json → Value
  | .null => null
  | .bool b => bool b
  | .int n => ofJsonInt n
  | .float x => float x
  | .str s => text s
  | .arr items => list (ofItems items)
  | .obj members => map (Entries.ofList (ofMembers members))

/-- The values of the items of an array. -/
def ofItems : List Json → List Value
  | [] => []
  | item :: rest => ofJson item :: ofItems rest

/-- The values of the members of an object. -/
def ofMembers : List (String × Json) → List (String × Value)
  | [] => []
  | (name, value) :: rest => (name, ofJson value) :: ofMembers rest

end

end AuditTrail.Value
