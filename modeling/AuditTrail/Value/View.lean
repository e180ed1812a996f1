import AuditTrail.Object
import AuditTrail.Time.Rfc3339
import AuditTrail.Value.Written

/-!
# Text views of values

A value as a line of text: `Type{field=value, …}`, `[a, b]`, `{k=v}`. Fields, map keys and described
entries whose names do not pass are left out at every depth. The two views differ only in how they
show an object: by its own text where it has one, or always by its description.
-/

namespace AuditTrail.Value

/-- A plain value as text; compound values have none here. -/
def scalarText : Value → String
  | null => "null"
  | bool b => toString b
  | int n => String.ofList (Numeral.ofInt n)
  | float x => FloatLayout.plain.text x
  | text s => s
  | bytes data => "<" ++ toString data.length ++ " bytes>"
  | timestamp t => t.rfc3339
  | _ => ""

/-- Parts between a head and a closing mark. -/
def enclose (head : String) (parts : List Written) (close : String) : Written :=
  Written.whole head ++ Written.join ", " parts ++ Written.whole close

mutual

/-- A value as text, with objects shown by `showObject`. -/
def view (showObject : ObjectId → Written) (keep : String → Bool) : Value → Written
  | list items => enclose "[" (viewItems showObject keep items) "]"
  | map entries => enclose "\x7b" (viewFields showObject keep entries) "\x7d"
  | record typeName fields =>
    enclose (typeName ++ "\x7b") (viewFields showObject keep fields) "\x7d"
  | object id => showObject id
  | value => .whole value.scalarText

/-- The texts of some values. -/
def viewItems (showObject : ObjectId → Written) (keep : String → Bool) :
    List Value → List Written
  | [] => []
  | item :: rest => view showObject keep item :: viewItems showObject keep rest

/-- The texts of the fields whose names pass, each with its name. -/
def viewFields (showObject : ObjectId → Written) (keep : String → Bool) :
    List (String × Value) → List Written
  | [] => []
  | (name, value) :: rest =>
    if keep name then
      (.whole (name ++ "=") ++ view showObject keep value) :: viewFields showObject keep rest
    else viewFields showObject keep rest

end

end AuditTrail.Value

namespace AuditTrail.Object

/-- The entries of the description whose names pass. -/
def describe (object : Object) (keep : String → Bool) : List (String × String) :=
  object.description.filter fun entry ↦ keep entry.1

/-- The description as a line of text. -/
def describedText (object : Object) (keep : String → Bool) : String :=
  object.typeName ++ "\x7b" ++
    ", ".intercalate ((object.describe keep).map fun entry ↦ entry.1 ++ "=" ++ entry.2) ++ "\x7d"

/-- The text that a hook writes. -/
def hookText : TextHook → Written
  | .writes s => .whole s
  | .breaksOff s => .broken s

/-- The own text of the object, or its description if it has none. -/
def ownText (object : Object) (keep : String → Bool) : Written :=
  match object.hook with
  | some hook => hookText hook
  | none => .whole (object.describedText keep)

end AuditTrail.Object

namespace AuditTrail.Value

/-- The view with the objects' own texts. -/
def written (objects : ObjectTable) (keep : String → Bool) (value : Value) : Written :=
  value.view (fun id ↦ (objects id).ownText keep) keep

/-- The view with the objects' descriptions. -/
def describedText (objects : ObjectTable) (keep : String → Bool) (value : Value) : String :=
  (value.view (fun id ↦ .whole ((objects id).describedText keep)) keep).text

/-- Every name passes. -/
def keepAll : String → Bool :=
  fun _ ↦ true

end AuditTrail.Value
