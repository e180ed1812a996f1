import AuditTrail.Decimal.Binary64

/-!
# JSON documents

Members of an object keep their order, and one name may occur more than once.
-/

namespace AuditTrail

/-- A JSON document. -/
inductive Json where
  | null
  | bool (b : Bool)
  | int (n : Int)
  | float (x : Binary64)
  | str (s : String)
  | arr (items : List Json)
  | obj (members : List (String × Json))
  deriving Repr, Inhabited

namespace Json

/-- The first member of an object under a name. -/
def get? (name : String) : Json → Option Json
  | obj members => (members.find? fun member ↦ member.1 = name).map (·.2)
  | _ => none

/-- The text of a string. -/
def text? : Json → Option String
  | str s => some s
  | _ => none

/-- A natural number below `bound`. -/
def natBelow? (bound : Nat) : Json → Option Nat
  | int (.ofNat n) => if n < bound then some n else none
  | _ => none

/-- The name of a variant without content: a string, or an object whose only member is null. -/
def variant? : Json → Option String
  | str s => some s
  | obj [(name, null)] => some name
  | _ => none

/-- The null document. -/
def isNull : Json → Bool
  | null => true
  | _ => false

/-- The items of an array that `read` accepts one and all. -/
def list? {α : Type} (read : Json → Option α) : Json → Option (List α)
  | arr items => items.mapM read
  | _ => none

end Json

end AuditTrail
