import AuditTrail.Object
import AuditTrail.Render.Settings
import AuditTrail.Text.Base64

/-!
# Documents of values

The document that a value becomes under some settings. Excluded names are left out at every depth,
payloads are base64 texts and timestamps have the date format. What lies too deep is null, and so is
an object that is met again inside of itself, which keeps the document of a cyclic graph finite.
-/

namespace AuditTrail

/-- What keeps a value from having a document. -/
inductive Obstacle where
  /-- An object does not expose its fields. -/
  | fields (typeName reason : String)
  /-- The date format has no text for a timestamp. -/
  | timestamp
  deriving DecidableEq, Repr

namespace RenderSettings

/-- The document of a timestamp. -/
def timestampDocument (settings : RenderSettings) (t : Timestamp) : Except Obstacle Json :=
  match settings.dateFormat.pattern.text? t with
  | some s => .ok (.str s)
  | none => .error .timestamp

/-- Documents of the fields whose names pass, where `document` gives the document of a value. -/
def fieldDocuments (settings : RenderSettings) (document : Value → Except Obstacle Json)
    (fields : Fields) : Except Obstacle Json := do
  let members ← (fields.keeping settings.filter.includes).mapM fun field ↦
    return (field.1, ← document field.2)
  return .obj members

/-- The document of a value that has `room` levels for itself and what it holds, inside of the
objects of `path`. -/
def project (settings : RenderSettings) (objects : ObjectTable) :
    (room : Nat) → (path : List ObjectId) → Value → Except Obstacle Json
  | 0, _, _ => .ok .null
  | room + 1, path, value =>
    match value with
    | .null => .ok .null
    | .bool b => .ok (.bool b)
    | .int n => .ok (.int n)
    | .float x => .ok (if x.isFinite then .float x else .null)
    | .text s => .ok (.str s)
    | .bytes data => .ok (.str (Text.Base64.encode data))
    | .timestamp t => settings.timestampDocument t
    | .list items => do return .arr (← items.mapM (project settings objects room path))
    | .map entries => settings.fieldDocuments (project settings objects room path) entries
    | .record _ fields => settings.fieldDocuments (project settings objects room path) fields
    | .object id =>
      if id ∈ path then .ok .null
      else
        match (objects id).fields with
        | .ok fields => settings.fieldDocuments (project settings objects room (id :: path)) fields
        | .error reason => .error (.fields (objects id).typeName reason)

/-- The document of a value. -/
def document (settings : RenderSettings) (objects : ObjectTable) (value : Value) :
    Except Obstacle Json :=
  settings.project objects (settings.maxDepth + 1) [] value

end RenderSettings

end AuditTrail
