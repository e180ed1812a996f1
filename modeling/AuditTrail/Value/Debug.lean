import AuditTrail.Object
import AuditTrail.Time.Rfc3339

/-!
# Diagnostic form of values

The diagnostic form shows the kind of every value and quotes texts. A payload shows its size and an
object its type name only.
-/

namespace AuditTrail.Value

/-- Texts between brackets. -/
def bracketed (opening : String) (parts : List String) (closing : String) : String :=
  opening ++ ", ".intercalate parts ++ closing

/-- A text that may be missing, in diagnostic form. -/
def debugText? : Option String → String
  | none => "None"
  | some s => "Some(" ++ s ++ ")"

mutual

/-- The diagnostic form of a value. -/
def debugText (objects : ObjectTable) : Value → String
  | null => "Null"
  | bool b => "Bool(" ++ toString b ++ ")"
  | int n => "Integer(" ++ String.ofList (Numeral.ofInt n) ++ ")"
  | float x => "Float(" ++ FloatLayout.marked.text x ++ ")"
  | text s => "Text(" ++ Text.quote s ++ ")"
  | bytes data => "Bytes(<" ++ toString data.length ++ " bytes>)"
  | timestamp t => "Timestamp(" ++ t.exactText ++ ")"
  | list items => "List(" ++ bracketed "[" (debugItems objects items) "]" ++ ")"
  | map entries => "Map(" ++ bracketed "\x7b" (debugEntries objects entries) "\x7d" ++ ")"
  | record typeName fields =>
    "Struct(StructValue \x7b type_name: " ++ Text.quote typeName ++ ", fields: " ++
      bracketed "[" (debugFields objects fields) "]" ++ " \x7d)"
  | object id => "Object(" ++ (objects id).typeName ++ ")"

/-- The diagnostic forms of some values. -/
def debugItems (objects : ObjectTable) : List Value → List String
  | [] => []
  | item :: rest => debugText objects item :: debugItems objects rest

/-- The diagnostic forms of the entries of a map. -/
def debugEntries (objects : ObjectTable) : List (String × Value) → List String
  | [] => []
  | (key, value) :: rest =>
    (Text.quote key ++ ": " ++ debugText objects value) :: debugEntries objects rest

/-- The diagnostic forms of the fields of a record. -/
def debugFields (objects : ObjectTable) : List (String × Value) → List String
  | [] => []
  | (name, value) :: rest =>
    ("AuditField \x7b name: " ++ Text.quote name ++ ", value: " ++ debugText objects value ++
      " \x7d") ::
      debugFields objects rest

end

end AuditTrail.Value
