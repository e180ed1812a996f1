import AuditTrail.Proofs.Projection.Walk
import AuditTrail.Proofs.View.Fallback

/-!
# Serializing comes to an end

The first tier walks over an object graph, which may be cyclic and may be built anew at every call.
The walk is inside of each object at most once at a time and goes no deeper than its limit, so that
it ends whatever objects answer.

The other tiers ask no object for its fields.  They see the values of the data themselves, which are
a finite tree, and of the objects in it the name, the text and the description.
-/

namespace AuditTrail

/-- Two objects that differ in nothing but their fields. -/
structure Object.SameTexts (a b : Object) : Prop where
  typeName : a.typeName = b.typeName
  hook : a.hook = b.hook
  description : a.description = b.description

namespace Object.SameTexts

variable {a b : Object} (same : a.SameTexts b) (keep : String → Bool)

include same

theorem describe_eq : a.describe keep = b.describe keep := by
  rw [describe, describe, same.description]

theorem describedText_eq : a.describedText keep = b.describedText keep := by
  rw [describedText, describedText, same.typeName, same.describe_eq]

theorem ownText_eq : a.ownText keep = b.ownText keep := by
  rw [ownText, ownText, same.hook, same.describedText_eq]

end Object.SameTexts

/-! ## Tiers that ask no object for its fields -/

namespace AuditData

variable {objects others : ObjectTable} {keep : String → Bool} {data : AuditData}
  (same : ∀ id ∈ data.toValue.shown keep, (others id).SameTexts (objects id))

include same

theorem typeName_congr : data.typeName others = data.typeName objects := by
  cases data with
  | request | response => rfl
  | custom id => exact (same id List.mem_cons_self).typeName

theorem ownText_congr : data.ownText others keep = data.ownText objects keep := by
  have written_eq : data.toValue.written others keep = data.toValue.written objects keep :=
    Value.view_congr fun id id_mem ↦ (same id id_mem).ownText_eq keep
  cases data with
  | request | response => exact congrArg some written_eq
  | custom id => rw [ownText, ownText, (same id List.mem_cons_self).hook]

theorem describe_congr : data.describe others keep = data.describe objects keep := by
  cases data with
  | request | response =>
    exact describeFields_congr fun id id_mem ↦ (same id id_mem).describedText_eq keep
  | custom id => exact (same id List.mem_cons_self).describe_eq keep

end AuditData

namespace RenderSettings

variable {settings : RenderSettings} {objects others : ObjectTable} {data : AuditData}

/-- What comes of data after the walk of the first tier. -/
def conclude? (settings : RenderSettings) (objects : ObjectTable) (data : AuditData) :
    Except Obstacle Json → Option Serialized
  | .ok document => some ⟨document.render, .structured, []⟩
  | .error (.fields typeName reason) =>
    some (settings.fallback objects data
      (.structured (Json.errorText (typeName ++ ": " ++ reason))))
  | .error .timestamp => none

theorem serializeUnlimited?_eq (settings : RenderSettings) (objects : ObjectTable)
    (data : AuditData) :
    settings.serializeUnlimited? objects data =
      settings.conclude? objects data (settings.document objects data.toValue) := by
  rw [serializeUnlimited?, structuredText?]
  rcases settings.document objects data.toValue with (⟨typeName, reason⟩ | _) | document <;> rfl

/-- What comes after the walk has nothing to do with the fields of objects. -/
theorem conclude?_congr
    (same : ∀ id ∈ data.toValue.shown settings.filter.includes,
      (others id).SameTexts (objects id)) (result : Except Obstacle Json) :
    settings.conclude? others data result = settings.conclude? objects data result := by
  have fallback_eq (error : RenderError) :
      settings.fallback others data error = settings.fallback objects data error := by
    have customText_eq : settings.customText others data = settings.customText objects data := by
      rw [customText, customText, AuditData.ownText_congr same, AuditData.typeName_congr same]
    have fieldDump_eq : settings.fieldDump others data = settings.fieldDump objects data := by
      rw [fieldDump, fieldDump, dumpDocument, dumpDocument, AuditData.describe_congr same]
    rw [fallback, fallback, customText_eq, fieldDump_eq, AuditData.typeName_congr same]
  rcases result with (⟨typeName, reason⟩ | _) | document
  · exact congrArg some (fallback_eq _)
  · rfl
  · rfl

/-- **Serializing comes to an end.**  Whatever objects answer when they are asked for their fields,
anew at every call, the walk of the first tier ends within as many nested calls as the depth limit
allows, however much fuel it has beyond that.  It has left every object that it was inside of; on
the path to any value that it met no object occurs twice; and its document is nested no deeper than
the limit.  If objects have the same fields at every call, this is how data are serialized.  What
comes after the walk is the same for all tables in which the objects that the tree of the data shows
have the same texts, so that it depends on no object's fields, and on no object behind another one.
-/
theorem serialization_ends (settings : RenderSettings) (objects : ObjectTable)
    (source : FieldSource) (data : AuditData) :
    let limited := data.limitPayloads settings.limit.run
    ∃ result after,
      (∀ fuel, settings.maxDepth + 2 ≤ fuel →
        settings.walk objects source fuel 0 [] limited.toValue {} = some (result, after)) ∧
      after.visiting = [] ∧ (∀ path ∈ after.paths, path.Nodup) ∧
      (∀ document, result = .ok document → document.nesting ≤ settings.maxDepth + 1) ∧
      (source = objects.source →
        settings.serialize? objects data = settings.conclude? objects limited result) ∧
      ∀ others : ObjectTable,
        (∀ id ∈ data.toValue.shown settings.filter.includes,
          (others id).SameTexts (objects id)) →
        ∀ outcome, settings.conclude? others limited outcome =
          settings.conclude? objects limited outcome := by
  intro limited
  obtain ⟨result, after, walk_eq, gives, sound⟩ :=
    exists_walk settings objects source limited.toValue
  refine ⟨result, after, fun fuel fuel_le ↦ ?_, sound.visiting, sound.nodup, gives.bounded,
    fun same ↦ ?_, fun others same ↦ conclude?_congr ?_⟩
  · have fuel_eq : settings.walk objects source fuel 0 =
        settings.walk objects source (settings.maxDepth + 2) 0 :=
      walk_eq_walk fuel_le le_rfl (Nat.lt_of_lt_of_le (Nat.succ_pos _) fuel_le) (Nat.succ_pos _)
    rw [fuel_eq]
    exact walk_eq
  · rw [gives.eq_expected same]
    exact settings.serializeUnlimited?_eq objects limited
  · rwa [AuditData.shown_limitPayloads]

end RenderSettings

end AuditTrail
