import AuditTrail.Value.OfJson
import AuditTrail.Json.ErrorText
import AuditTrail.Json.Printer

/-!
# Objects

An object presents itself in up to three views: its fields, which it may fail to expose, a text of
its own, which it may not have or fail to write, and a flat description, which always exists.
-/

namespace AuditTrail

/-- The text that an object writes for itself. -/
inductive TextHook where
  | writes (text : String)
  /-- Fails after a part of the text. -/
  | breaksOff (text : String)
  deriving DecidableEq, Repr

/-- The views of an object. -/
structure Object where
  typeName : String
  fields : Except String Fields
  hook : Option TextHook
  description : List (String × String)

instance : Inhabited Object :=
  ⟨⟨"", .ok [], none, []⟩⟩

/-- The objects that values name. -/
abbrev ObjectTable := ObjectId → Object

namespace TextHook

/-- What a hook writes. -/
def text : TextHook → String
  | writes s => s
  | breaksOff s => s

/-- The hook writes its text to the end. -/
def succeeds : TextHook → Bool
  | writes _ => true
  | breaksOff _ => false

end TextHook

/-! ## Objects of serializable values -/

/-- A value of a type that can be serialized and nothing else. -/
inductive Foreign where
  | document (j : Json)
  /-- Fails when it is serialized. -/
  | fails (message : String)
  | float (x : Binary64)
  | bytes (data : List UInt8)
  /-- A variant without content. -/
  | unit (name : String)
  | variant (name : String) (content : Foreign)
  | seq (items : List Foreign)
  | map (entries : List (Foreign × Foreign))
  deriving Inhabited

namespace Foreign

/-- The document of a float, which is null unless the float is finite. -/
def floatJson (x : Binary64) : Json :=
  if x.isFinite then .float x else .null

/-- The key of a map entry: texts, integers, booleans, finite floats and variants without content
have one. -/
def key : Foreign → Except String String
  | document (.str s) => .ok s
  | document (.int n) => .ok (String.ofList (Numeral.ofInt n))
  | document (.bool b) => .ok (toString b)
  | document (.float x) => floatKey x
  | float x => floatKey x
  | unit name => .ok name
  | fails message => .error (Json.errorText message)
  | _ => .error "key must be a string"
where
  /-- The key of a float. -/
  floatKey (x : Binary64) : Except String String :=
    if x.isFinite then .ok (Json.floatLayout.finiteText x) else .error "float key must be finite"

mutual

/-- The document that a value is serialized to. -/
def toJson : Foreign → Except String Json
  | document j => .ok j
  | fails message => .error (Json.errorText message)
  | float x => .ok (floatJson x)
  | bytes data => .ok (.arr (data.map fun b ↦ .int b.toNat))
  | unit name => .ok (.str name)
  | variant name content => do return .obj [(name, ← toJson content)]
  | seq items => do return .arr (← itemsToJson items)
  | map entries => do return .obj (Entries.ofList (← entriesToJson entries))

/-- The documents of the items of a sequence. -/
def itemsToJson : List Foreign → Except String (List Json)
  | [] => .ok []
  | item :: rest => do return (← toJson item) :: (← itemsToJson rest)

/-- The members of a map, each the key before the value. -/
def entriesToJson : List (Foreign × Foreign) → Except String (List (String × Json))
  | [] => .ok []
  | (k, v) :: rest => do return (← k.key, ← toJson v) :: (← entriesToJson rest)

end

/-- The text of a document in a description: a string as it is, anything else as JSON text. -/
def describedJson : Json → String
  | .str s => s
  | j => j.render

/-- The fields of a document: the members of an object, or a single field `value`. -/
def fieldsOfJson : Json → Fields
  | .obj members => Value.ofMembers members
  | j => [("value", Value.ofJson j)]

/-- The description of a document, by the same names as its fields. -/
def descriptionOfJson : Json → List (String × String)
  | .obj members => members.map fun member ↦ (member.1, describedJson member.2)
  | j => [("value", describedJson j)]

/-- The object that presents a serializable value under a type name. -/
def toObject (typeName : String) (value : Foreign) : Object :=
  { typeName
    fields := value.toJson.map fieldsOfJson
    hook := none
    description := match value.toJson with
      | .ok j => descriptionOfJson j
      | .error message => [("error", message)] }

end Foreign

end AuditTrail
