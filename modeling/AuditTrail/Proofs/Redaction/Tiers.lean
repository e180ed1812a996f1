import AuditTrail.Proofs.Redaction.Basic

/-!
# The text of a record depends on its redaction only

Names are excluded in four places: among the fields of records and objects and among the entries of
maps in the projection to a document, among the same in the view as a line of text, among the
entries of a description, and among the fields of a container that the flat dump shows.  Each of
them gets one lemma of the same form, that redacting its input changes nothing, and the three tiers
are put together from these.

The limiter comes before the tiers and works on data that has not been redacted, so that it has to
commute with redaction.  It does, because it looks at payloads only and a payload has no names.
-/

namespace AuditTrail

variable {keep : String → Bool}

/-! ## The view as text -/

namespace Value

section View

variable (showObject : ObjectId → Written) (keep : String → Bool)

mutual

/-- The view of a value is the view of its redaction. -/
theorem view_redact : ∀ value : Value,
    view showObject keep (value.redact keep) = view showObject keep value
  | list items => by simp only [redact, view, viewItems_redactItems items]
  | map entries => by simp only [redact, view, viewFields_redactFields entries]
  | record typeName fields => by simp only [redact, view, viewFields_redactFields fields]
  | null | bool _ | int _ | float _ | text _ | bytes _ | timestamp _ | object _ => rfl

theorem viewItems_redactItems : ∀ items : List Value,
    viewItems showObject keep (redactItems keep items) = viewItems showObject keep items
  | [] => rfl
  | item :: rest => by
    simp only [redactItems, viewItems, view_redact item, viewItems_redactItems rest]

theorem viewFields_redactFields : ∀ fields : List (String × Value),
    viewFields showObject keep (redactFields keep fields) = viewFields showObject keep fields
  | [] => rfl
  | (name, value) :: rest => by
    by_cases h : keep name = true
    · rw [redactFields, if_pos h, viewFields, if_pos h, viewFields, if_pos h, view_redact value,
        viewFields_redactFields rest]
    · rw [redactFields, if_neg h, viewFields, if_neg h, viewFields_redactFields rest]

end

end View

end Value

/-! ## The projection to a document -/

namespace RenderSettings

variable (settings : RenderSettings)

/-- The documents of some fields are those of the redacted fields, once this holds of the values in
them. -/
theorem fieldDocuments_redactFields {document redacted : Value → Except Obstacle Json}
    (same : ∀ value, redacted (value.redact settings.filter.includes) = document value)
    (fields : Fields) :
    settings.fieldDocuments redacted (Value.redactFields settings.filter.includes fields) =
      settings.fieldDocuments document fields := by
  rw [fieldDocuments, fieldDocuments, Value.keeping_redactFields, Value.redactFields_eq_map,
    List.mapM_map]
  simp only [Function.comp_def, same]

/-- The projection of a value is the projection of its redaction under any objects with the same
type names and redacted fields.  The induction is on the levels that are left, since a value under
an object is no part of the value that names it. -/
theorem project_redact (objects redacted : ObjectTable)
    (typeName_eq : ∀ id, (redacted id).typeName = (objects id).typeName)
    (fields_eq : ∀ id, (redacted id).fields =
      (objects id).fields.map (Value.redactFields settings.filter.includes))
    (room : Nat) (path : List ObjectId) (value : Value) :
    settings.project redacted room path (value.redact settings.filter.includes) =
      settings.project objects room path value := by
  induction room generalizing path value with
  | zero => rfl
  | succ room ih =>
    cases value with
    | list items =>
      rw [Value.redact, Value.redactItems_eq_map, project, project, List.mapM_map]
      simp only [Function.comp_def, ih path]
    | map entries =>
      rw [Value.redact, project, project]
      exact settings.fieldDocuments_redactFields (ih path) entries
    | record typeName fields =>
      rw [Value.redact, project, project]
      exact settings.fieldDocuments_redactFields (ih path) fields
    | object id =>
      rw [Value.redact_object, project, project, fields_eq, typeName_eq]
      split
      · rfl
      · cases (objects id).fields with
        | error reason => rfl
        | ok fields => exact settings.fieldDocuments_redactFields (ih (id :: path)) fields
    | null | bool | int | float | text | bytes | timestamp => rfl

variable (objects : ObjectTable) (value : Value)

/-- The document of a value is the document of its redaction under redacted objects. -/
theorem document_redact_redact :
    settings.document (objects.redact settings.filter.includes)
        (value.redact settings.filter.includes) =
      settings.document objects value :=
  settings.project_redact objects (objects.redact _) (fun _ ↦ rfl) (fun _ ↦ rfl) _ _ value

/-- Redacting the value alone does not change the document, since redacting twice is redacting
once. -/
theorem document_redact :
    settings.document objects (value.redact settings.filter.includes) =
      settings.document objects value := by
  rw [← document_redact_redact, Value.redact_redact, document_redact_redact]

/-- Redacting the objects alone does not change the document. -/
theorem document_redactObjects :
    settings.document (objects.redact settings.filter.includes) value =
      settings.document objects value := by
  rw [← document_redact, document_redact_redact]

/-- Documents depend on the type names and on the redacted fields of the objects only. -/
theorem document_eq_of_redactFields_eq {objects others : ObjectTable}
    (typeName_eq : ∀ id, (others id).typeName = (objects id).typeName)
    (fields_eq : ∀ id, (others id).fields.map (Value.redactFields settings.filter.includes) =
      (objects id).fields.map (Value.redactFields settings.filter.includes))
    (value : Value) :
    settings.document others value = settings.document objects value := by
  rw [← document_redact_redact]
  exact settings.project_redact objects (others.redact _) typeName_eq fields_eq _ _ value

end RenderSettings

/-! ## Descriptions and own texts -/

namespace Object

variable (object : Object)

@[simp] theorem describe_redact : (object.redact keep).describe keep = object.describe keep := by
  simp only [describe, redact, List.filter_filter, Bool.and_self]

@[simp] theorem describedText_redact :
    (object.redact keep).describedText keep = object.describedText keep := by
  rw [describedText, describedText, describe_redact]
  rfl

@[simp] theorem ownText_redact : (object.redact keep).ownText keep = object.ownText keep := by
  rw [ownText, ownText, describedText_redact]
  rfl

end Object

namespace Value

variable (objects : ObjectTable) (value : Value)

/-- The view with the objects' own texts shows nothing that redaction drops. -/
theorem written_redact : (value.redact keep).written objects keep = value.written objects keep :=
  view_redact _ keep value

theorem written_redactObjects :
    value.written (objects.redact keep) keep = value.written objects keep := by
  simp only [written, ObjectTable.redact, Object.ownText_redact]

/-- The view with the objects' descriptions shows nothing that redaction drops. -/
theorem describedText_redact :
    (value.redact keep).describedText objects keep = value.describedText objects keep := by
  rw [describedText, describedText, view_redact]

theorem describedText_redactObjects :
    value.describedText (objects.redact keep) keep = value.describedText objects keep := by
  simp only [describedText, ObjectTable.redact, Object.describedText_redact]

end Value

/-! ## Data -/

namespace Value

theorem redactFields_append (fields more : Fields) :
    redactFields keep (fields ++ more) = redactFields keep fields ++ redactFields keep more := by
  simp only [redactFields_eq_map, Fields.keeping, List.filter_append, List.map_append]

/-- A field whose value has been redacted or replaced in any way under a name that does not pass
leaves the same redacted field. -/
theorem redactFields_singleton {name : String} {value other : Value}
    (same : keep name = true → other.redact keep = value.redact keep) :
    redactFields keep [(name, other)] = redactFields keep [(name, value)] := by
  by_cases h : keep name = true
  · simp only [redactFields, if_pos h, same h]
  · simp only [redactFields, if_neg h]

/-- The field of a text that may be missing. -/
theorem redactFields_ofOption (name : String) (text? : Option String) :
    redactFields keep ((text?.filter fun _ ↦ keep name).toList.map fun s ↦ (name, text s)) =
      redactFields keep (text?.toList.map fun s ↦ (name, text s)) := by
  cases text? with
  | none => rfl
  | some s =>
    by_cases h : keep name = true
    · rw [Option.filter_some, if_pos h]
    · rw [Option.filter_some, if_neg h]
      simp only [Option.toList, List.map_cons, List.map_nil, redactFields, if_neg h]

/-- The entries of a map of texts have texts only, of which redaction keeps all or nothing. -/
theorem redact_ofTextMap (entries : Entries String) :
    (ofTextMap (entries.filter fun entry ↦ keep entry.1)).redact keep =
      (ofTextMap entries).redact keep := by
  simp only [ofTextMap, redact, redactFields_eq_map, Fields.keeping, List.filter_map,
    Function.comp_def, List.filter_filter, Bool.and_self]

end Value

namespace Request

/-- The fields of a redacted request are those of the request, once both are redacted. -/
theorem redactFields_fields (request : Request) :
    Value.redactFields keep (request.redact keep).fields =
      Value.redactFields keep request.fields := by
  have parts : Value.redactFields keep [("request", .list (request.redact keep).parts)] =
      Value.redactFields keep [("request", .list request.parts)] := by
    refine Value.redactFields_singleton fun h ↦ ?_
    simp only [redact, if_pos h, Value.redact, Value.redactItems_eq_map, List.map_map,
      Function.comp_def, Value.redact_redact]
  have headers : Value.redactFields keep [("headers", .ofTextMap (request.redact keep).headers)] =
      Value.redactFields keep [("headers", .ofTextMap request.headers)] := by
    refine Value.redactFields_singleton fun h ↦ ?_
    rw [redact, if_pos h, Value.redact_ofTextMap]
  have attachments : Value.redactFields keep (if (request.redact keep).attachments = [] then []
        else [("attachmentTextList", .ofTexts (request.redact keep).attachments)]) =
      Value.redactFields keep (if request.attachments = [] then []
        else [("attachmentTextList", .ofTexts request.attachments)]) := by
    by_cases h : keep "attachmentTextList" = true
    · rw [redact, if_pos h]
    · rw [redact, if_neg h, if_pos rfl]
      split
      · rfl
      · rw [Value.redactFields, Value.redactFields, if_neg h, Value.redactFields]
  rw [fields, fields]
  simp only [Value.redactFields_append, parts, headers, attachments]
  rw [redact, Value.redactFields_ofOption, Value.redactFields_ofOption]

end Request

/-- The field of a redacted response is that of the response, once both are redacted. -/
theorem Response.redactFields_fields (response : Option Value) :
    Value.redactFields keep (Response.fields (Response.redact keep response)) =
      Value.redactFields keep (Response.fields response) := by
  refine Value.redactFields_singleton fun h ↦ ?_
  rw [Response.redact, if_pos h]
  cases response with
  | none => rfl
  | some value => exact value.redact_redact keep

namespace AuditData

variable (objects : ObjectTable) (data : AuditData)

/-- The value that stands for redacted data is that of the data, once both are redacted. -/
theorem redact_toValue_redact :
    (data.redact keep).toValue.redact keep = data.toValue.redact keep := by
  cases data with
  | request r => exact congrArg (Value.record _) r.redactFields_fields
  | response r => exact congrArg (Value.record _) (Response.redactFields_fields r)
  | custom id => rfl

@[simp] theorem typeName_redact :
    (data.redact keep).typeName (objects.redact keep) = data.typeName objects := by
  cases data <;> rfl

/-- The text that data write for themselves shows nothing that redaction drops. -/
theorem ownText_redact :
    (data.redact keep).ownText (objects.redact keep) keep = data.ownText objects keep := by
  have container : (data.redact keep).toValue.written (objects.redact keep) keep =
      data.toValue.written objects keep := by
    rw [Value.written_redactObjects, ← Value.written_redact, redact_toValue_redact,
      Value.written_redact]
  cases data with
  | request r => exact congrArg some container
  | response r => exact congrArg some container
  | custom id => rfl

/-- The described fields are those of the redacted fields. -/
theorem describeFields_redact (fields : Fields) :
    describeFields objects keep (Value.redactFields keep fields) =
      describeFields objects keep fields := by
  rw [describeFields, describeFields, Value.keeping_redactFields, Value.redactFields_eq_map,
    List.map_map]
  simp only [Function.comp_def, Value.describedText_redact]

theorem describeFields_redactObjects (fields : Fields) :
    describeFields (objects.redact keep) keep fields = describeFields objects keep fields := by
  simp only [describeFields, Value.describedText_redactObjects]

/-- The flat description shows nothing that redaction drops. -/
theorem describe_redact :
    (data.redact keep).describe (objects.redact keep) keep = data.describe objects keep := by
  cases data with
  | request r =>
    change describeFields _ keep (r.redact keep).fields = describeFields objects keep r.fields
    rw [describeFields_redactObjects, ← describeFields_redact, r.redactFields_fields,
      describeFields_redact]
  | response r =>
    change describeFields _ keep (Response.fields (Response.redact keep r)) =
      describeFields objects keep (Response.fields r)
    rw [describeFields_redactObjects, ← describeFields_redact, Response.redactFields_fields,
      describeFields_redact]
  | custom id => exact (objects id).describe_redact

end AuditData

end AuditTrail
