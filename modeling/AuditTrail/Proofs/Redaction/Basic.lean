import AuditTrail.Render.Serialized

/-!
# Redaction

The redaction of a value drops everything that stands under a name that does not pass, at every
depth.  Two records that differ only in what is stored under such names are records with the same
redaction, so that "the text does not depend on excluded values" is the statement that equal
redactions have equal texts.

Redaction follows the tree of a value and never enters an object, which a value only names.  The
fields and the description of an object are redacted in the object table, once for all places at
which the object is met; this is what makes the notion meaningful for cyclic graphs.

The point of the module is that each of the two walks over a value, the projection to a document
and the view as a line of text, gives the same answer for a value and for its redaction.
-/

namespace AuditTrail

namespace Value

mutual

/-- The value without anything under a name that does not pass. -/
def redact (keep : String → Bool) : Value → Value
  | list items => list (redactItems keep items)
  | map entries => map (redactFields keep entries)
  | record typeName fields => record typeName (redactFields keep fields)
  | value => value

/-- The items of a list, each redacted. -/
def redactItems (keep : String → Bool) : List Value → List Value
  | [] => []
  | item :: rest => redact keep item :: redactItems keep rest

/-- The fields whose names pass, each redacted. -/
def redactFields (keep : String → Bool) : List (String × Value) → List (String × Value)
  | [] => []
  | (name, value) :: rest =>
    if keep name then (name, redact keep value) :: redactFields keep rest
    else redactFields keep rest

end

variable (keep : String → Bool)

theorem redactItems_eq_map (items : List Value) :
    redactItems keep items = items.map (redact keep) := by
  induction items with
  | nil => rfl
  | cons item rest ih => rw [redactItems, ih, List.map_cons]

theorem redactFields_eq_map (fields : Fields) :
    redactFields keep fields =
      (fields.keeping keep).map fun field ↦ (field.1, field.2.redact keep) := by
  induction fields with
  | nil => rfl
  | cons field rest ih =>
    obtain ⟨name, value⟩ := field
    by_cases h : keep name = true
    · simpa [redactFields, Fields.keeping, h] using ih
    · simpa [redactFields, Fields.keeping, h] using ih

/-- Redaction leaves no name behind that does not pass. -/
theorem keeping_redactFields (fields : Fields) :
    Fields.keeping keep (redactFields keep fields) = redactFields keep fields := by
  rw [redactFields_eq_map, Fields.keeping, List.filter_eq_self]
  intro field field_mem
  obtain ⟨original, original_mem, rfl⟩ := List.mem_map.mp field_mem
  exact (List.mem_filter.mp original_mem).2

@[simp] theorem redact_object (id : ObjectId) : redact keep (object id) = object id := rfl

/-- A payload is not touched, so that limits measure the same bytes. -/
@[simp] theorem payload?_redact (value : Value) :
    (value.redact keep).payload? = value.payload? := by
  cases value <;> rfl

mutual

/-- What is redacted has nothing left to redact. -/
theorem redact_redact : ∀ value : Value, (value.redact keep).redact keep = value.redact keep
  | list items => congrArg list (redactItems_redactItems items)
  | map entries => congrArg map (redactFields_redactFields entries)
  | record typeName fields => congrArg (record typeName) (redactFields_redactFields fields)
  | null | bool _ | int _ | float _ | text _ | bytes _ | timestamp _ | object _ => rfl

theorem redactItems_redactItems : ∀ items : List Value,
    redactItems keep (redactItems keep items) = redactItems keep items
  | [] => rfl
  | item :: rest => by
    simp only [redactItems, redact_redact item, redactItems_redactItems rest]

theorem redactFields_redactFields : ∀ fields : List (String × Value),
    redactFields keep (redactFields keep fields) = redactFields keep fields
  | [] => rfl
  | (name, value) :: rest => by
    by_cases h : keep name = true
    · rw [redactFields, if_pos h, redactFields, if_pos h, redact_redact value,
        redactFields_redactFields rest]
    · rw [redactFields, if_neg h]
      exact redactFields_redactFields rest

end

end Value

/-! ## Objects and data -/

/-- An object whose fields and description are redacted; its type name, its own text and the reason
for which it does not expose its fields stay. -/
def Object.redact (keep : String → Bool) (object : Object) : Object :=
  { object with
    fields := object.fields.map (Value.redactFields keep)
    description := object.description.filter fun entry ↦ keep entry.1 }

/-- The object table with every object redacted. -/
def ObjectTable.redact (keep : String → Bool) (objects : ObjectTable) : ObjectTable :=
  fun id ↦ (objects id).redact keep

/-- A request whose parts are redacted, without the fields of its own whose names do not pass. -/
def Request.redact (keep : String → Bool) (request : Request) : Request where
  parts := if keep "request" then request.parts.map (Value.redact keep) else []
  method := request.method.filter fun _ ↦ keep "method"
  uri := request.uri.filter fun _ ↦ keep "uri"
  headers := if keep "headers" then request.headers.filter fun entry ↦ keep entry.1 else []
  attachments := if keep "attachmentTextList" then request.attachments else []

/-- A response whose object is redacted, or without it if the name of the field does not pass. -/
def Response.redact (keep : String → Bool) (response : Option Value) : Option Value :=
  if keep "response" then response.map (Value.redact keep) else none

/-- The data without anything under a name that does not pass. -/
def AuditData.redact (keep : String → Bool) : AuditData → AuditData
  | request r => request (r.redact keep)
  | response r => response (Response.redact keep r)
  | custom id => custom id

end AuditTrail
