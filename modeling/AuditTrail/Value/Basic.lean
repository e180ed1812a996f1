import AuditTrail.Decimal.Binary64
import AuditTrail.Time.Timestamp
import AuditTrail.Entries

/-!
# Audit values

Everything that reaches the audit trail is a tree of values. The tree is finite, but its objects
are only named: what an object shows is looked up when it is met, and may name further objects, so
that object graphs can be cyclic.
-/

namespace AuditTrail

/-- The identity of an object. -/
structure ObjectId where
  index : Nat
  deriving DecidableEq, Repr

/-- A node of an auditable object graph. The entries of a map are in the order of their keys; the
fields of a record keep their order and may repeat a name. -/
inductive Value where
  | null
  | bool (b : Bool)
  | int (n : Int)
  | float (x : Binary64)
  | text (s : String)
  | bytes (data : List UInt8)
  | timestamp (t : Timestamp)
  | list (items : List Value)
  | map (entries : List (String × Value))
  | record (typeName : String) (fields : List (String × Value))
  | object (id : ObjectId)
  deriving Repr, Inhabited

/-- Named values in output order. -/
abbrev Fields := List (String × Value)

namespace Value

/-- The binary payload of a value. -/
def payload? : Value → Option (List UInt8)
  | bytes data => some data
  | _ => none

/-- The text of a value. -/
def text? : Value → Option String
  | text s => some s
  | _ => none

/-- The value stands for nothing. -/
def isNull : Value → Bool
  | null => true
  | _ => false

/-- The list of some texts. -/
def ofTexts (texts : List String) : Value :=
  list (texts.map text)

/-- The map of some texts, of which a later one replaces an earlier one under the same key. -/
def ofTextMap (entries : Entries String) : Value :=
  map (entries.map fun entry ↦ (entry.1, text entry.2))

/-- The text, or nothing. -/
def ofText? : Option String → Value
  | some s => text s
  | none => null

end Value

namespace Fields

/-- The first field with a name. -/
def get? (name : String) (fields : Fields) : Option Value :=
  (fields.find? fun field ↦ field.1 = name).map (·.2)

/-- The fields whose names pass. -/
def keeping (keep : String → Bool) (fields : Fields) : Fields :=
  fields.filter fun field ↦ keep field.1

section Keeping

variable {keep : String → Bool} {field : String × Value}

@[simp] theorem keeping_nil : keeping keep [] = [] := rfl

theorem keeping_cons_of_kept (kept : keep field.1 = true) (fields : Fields) :
    keeping keep (field :: fields) = field :: keeping keep fields :=
  List.filter_cons_of_pos kept

theorem keeping_cons_of_excluded (excluded : keep field.1 = false) (fields : Fields) :
    keeping keep (field :: fields) = keeping keep fields :=
  List.filter_cons_of_neg (excluded ▸ Bool.false_ne_true)

end Keeping

end Fields

end AuditTrail
