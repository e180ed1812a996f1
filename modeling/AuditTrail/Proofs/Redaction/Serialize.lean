import AuditTrail.Proofs.Projection.Obstacle
import AuditTrail.Proofs.Redaction.Tiers

/-!
# Excluded values do not reach the text

Records with the same redaction have the same text, tier and failures, whatever tier the text comes
from.  The payload limit comes first: it commutes with redaction, so that limited records still have
the same redaction.  Then the tiers are compared one after the other, with the lemmas of
`Redaction.Tiers` applied on both sides.
-/

namespace AuditTrail

/-! ## The payload limit -/

namespace PayloadLimit

variable {f : Value → Value} (payload?_eq : ∀ value, (f value).payload? = value.payload?)

include payload?_eq in
theorem measureFrom_map (sizer : PayloadSizer) (n : Nat) (values : List Value) :
    measureFrom sizer n (values.map f) = measureFrom sizer n values := by
  induction values generalizing n with
  | nil => rfl
  | cons value rest ih =>
    rw [List.map_cons, measureFrom, measureFrom, payload?_eq]
    simp only [ih]

variable (limit : PayloadLimit)
  (placeholder_eq : f (placeholder limit.limit) = placeholder limit.limit)

include placeholder_eq in
theorem apply_map (value : Value) (size : Option Nat) :
    limit.apply (f value) size = (limit.apply value size).map f := by
  cases size with
  | none => rfl
  | some size =>
    simp only [apply]
    split
    · rw [Option.map_some, placeholder_eq]
    · cases limit.policy <;> rfl

include payload?_eq placeholder_eq in
/-- A limit commutes with whatever changes neither payloads nor its placeholder. -/
theorem run_map (values : List Value) : limit.run (values.map f) = (limit.run values).map f := by
  have zip_map (sizes : List (Option Nat)) :
      ((values.map f).zip sizes).filterMap (fun entry ↦ limit.apply entry.1 entry.2) =
        ((values.zip sizes).filterMap fun entry ↦ limit.apply entry.1 entry.2).map f := by
    rw [List.zip_map_left, List.filterMap_map, List.map_filterMap]
    refine congrArg (List.filterMap · (values.zip sizes)) (funext fun entry ↦ ?_)
    exact limit.apply_map placeholder_eq entry.1 entry.2
  rw [run, run, limited, limited, measureFrom_map payload?_eq]
  cases measureFrom limit.sizer 0 values with
  | error message => rfl
  | ok sizes => exact zip_map sizes

end PayloadLimit

/-- Limited records have the same redaction if the records have. -/
theorem AuditData.limitPayloads_redact {keep : String → Bool} (limit : PayloadLimit)
    (data : AuditData) :
    (data.redact keep).limitPayloads limit.run = (data.limitPayloads limit.run).redact keep := by
  have run_redact (values : List Value) :
      limit.run (values.map (Value.redact keep)) = (limit.run values).map (Value.redact keep) :=
    limit.run_map (Value.payload?_redact keep) rfl values
  have run_nil : limit.run [] = [] := rfl
  cases data with
  | request r =>
    by_cases h : keep "request" = true
    · simp only [redact, Request.redact, limitPayloads, if_pos h, run_redact]
    · simp only [redact, Request.redact, limitPayloads, if_neg h, run_nil]
  | response r =>
    by_cases h : keep "response" = true
    · simp only [redact, Response.redact, limitPayloads, if_pos h]
      rw [← List.head?_map, ← run_redact]
      cases r <;> rfl
    · simp only [redact, Response.redact, limitPayloads, if_neg h, Option.toList, run_nil,
        List.head?_nil]
  | custom id => rfl

/-! ## The tiers -/

namespace RenderSettings

variable (settings : RenderSettings) (objects : ObjectTable) (data : AuditData)

theorem structuredText?_redact :
    settings.structuredText? (objects.redact settings.filter.includes)
        (data.redact settings.filter.includes).toValue =
      settings.structuredText? objects data.toValue := by
  have same : settings.document (objects.redact settings.filter.includes)
      (data.redact settings.filter.includes).toValue = settings.document objects data.toValue := by
    rw [document_redactObjects, ← document_redact, data.redact_toValue_redact, document_redact]
  rw [structuredText?, structuredText?, same]

theorem customText_redact :
    settings.customText (objects.redact settings.filter.includes)
        (data.redact settings.filter.includes) =
      settings.customText objects data := by
  rw [customText, customText, data.ownText_redact, data.typeName_redact]

theorem fieldDump_redact :
    settings.fieldDump (objects.redact settings.filter.includes)
        (data.redact settings.filter.includes) =
      settings.fieldDump objects data := by
  rw [fieldDump, fieldDump, dumpDocument, dumpDocument, data.describe_redact]

/-- A record has the text, the tier and the failures of its redaction. -/
theorem serialize?_redact :
    settings.serialize? (objects.redact settings.filter.includes)
        (data.redact settings.filter.includes) =
      settings.serialize? objects data := by
  rw [serialize?, serialize?, AuditData.limitPayloads_redact, serializeUnlimited?,
    serializeUnlimited?, structuredText?_redact]
  simp only [fallback, customText_redact, fieldDump_redact, AuditData.typeName_redact]

/-- **Excluded values do not reach the text.**  Two records with the same redaction under objects
with the same redactions have the same text, tier and failures, whichever tier the text comes from.
Nothing is asked of the sizer, of the depth of the values or of the object graph, and under a total
date format there is such a text. -/
theorem serialization_eq_of_redact_eq (objects₁ objects₂ : ObjectTable) (data₁ data₂ : AuditData)
    (same_objects : objects₁.redact settings.filter.includes =
      objects₂.redact settings.filter.includes)
    (same_data : data₁.redact settings.filter.includes = data₂.redact settings.filter.includes) :
    settings.serialize? objects₁ data₁ = settings.serialize? objects₂ data₂ ∧
      (settings.dateFormat.IsTotal → ∃ serialized,
        settings.serialize? objects₁ data₁ = some serialized ∧
          settings.serialize? objects₂ data₂ = some serialized) := by
  have same : settings.serialize? objects₁ data₁ = settings.serialize? objects₂ data₂ := by
    rw [← serialize?_redact, same_objects, same_data, serialize?_redact]
  refine ⟨same, fun total ↦ ?_⟩
  obtain ⟨serialized, serialized_eq⟩ :=
    Option.isSome_iff_exists.mp (isSome_serialize? total objects₁ data₁)
  exact ⟨serialized, serialized_eq, same ▸ serialized_eq⟩

/-! A record that reaches the last tier, with the same secret under an excluded name in a record, in
a header, in the fields and in the description of an object on a cycle. -/

/-- An object that points at itself and at one that neither exposes its fields nor finishes its
text. -/
def sessionObjects (secret : String) : ObjectTable := fun id ↦
  if id.index = 0 then
    { typeName := "Session"
      fields := .ok [("LOGGER", .text secret), ("self", .object ⟨0⟩), ("proxy", .object ⟨1⟩)]
      hook := none
      description := [("id", "7"), ("Logger", secret)] }
  else
    { typeName := "Proxy"
      fields := .error "detached"
      hook := some (.breaksOff "Pro")
      description := [("logger", secret), ("state", "lazy")] }

/-- A request with the two objects next to a secret. -/
def sessionRequest (secret : String) : AuditData :=
  .request
    { parts := [.record "Context" [("Logger", .text secret), ("user", .text "ada")],
        .object ⟨0⟩, .object ⟨1⟩]
      method := some "GET"
      uri := none
      headers := [("Accept", "text"), ("Logger", secret)]
      attachments := [] }

theorem serialization_sessionRequest :
    (sessionObjects "a").redact FieldFilter.standard.includes =
        (sessionObjects "b").redact FieldFilter.standard.includes ∧
      (sessionRequest "a").redact FieldFilter.standard.includes =
        (sessionRequest "b").redact FieldFilter.standard.includes ∧
      ({} : RenderSettings).serialize? (sessionObjects "a") (sessionRequest "a") =
        ({} : RenderSettings).serialize? (sessionObjects "b") (sessionRequest "b") := by
  have lower : FieldFilter.standard.includes "logger" = false := by decide
  have title : FieldFilter.standard.includes "Logger" = false := by decide
  have upper : FieldFilter.standard.includes "LOGGER" = false := by decide
  have same_objects : (sessionObjects "a").redact FieldFilter.standard.includes =
      (sessionObjects "b").redact FieldFilter.standard.includes := by
    funext id
    by_cases h : id.index = 0
    · simp [ObjectTable.redact, Object.redact, sessionObjects, h, Except.map, Value.redactFields,
        List.filter_cons, upper, title]
    · simp [ObjectTable.redact, Object.redact, sessionObjects, h, List.filter_cons, lower]
  have same_data : (sessionRequest "a").redact FieldFilter.standard.includes =
      (sessionRequest "b").redact FieldFilter.standard.includes := by
    simp [sessionRequest, AuditData.redact, Request.redact, Value.redact, Value.redactFields,
      List.filter_cons, title]
  exact ⟨same_objects, same_data,
    (serialization_eq_of_redact_eq {} _ _ _ _ same_objects same_data).1⟩

end RenderSettings

end AuditTrail
