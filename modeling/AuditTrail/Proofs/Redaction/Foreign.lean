import AuditTrail.Proofs.Redaction.Hidden
import AuditTrail.Proofs.Redaction.Serialize
import AuditTrail.Proofs.View.Fallback

/-!
# Objects made from documents

An object made from a serializable value exposes one document in two ways: as fields, which the
first tier filters at every depth, and as a description, whose entries are texts of whole members.
So the first tier never depends on hidden values, but the two fallback tiers show them wherever the
object is shown and a described member hides something below itself.

The module makes this exact.  The text of a container is independent of the values that a document
has under excluded names if and only if the text comes from the first tier, or the object is not
shown, or nothing is hidden inside of a described entry.
-/

namespace AuditTrail

/-! ## The fields of a document -/

namespace Entries

variable {α β : Type} (f : String → α → β)

theorem insert_map (key : String) (value : α) (entries : Entries α) :
    insert key (f key value) (entries.map fun entry ↦ (entry.1, f entry.1 entry.2)) =
      (insert key value entries).map fun entry ↦ (entry.1, f entry.1 entry.2) := by
  induction entries with
  | nil => rfl
  | cons entry rest ih =>
    obtain ⟨k, v⟩ := entry
    rw [List.map_cons, insert, insert]
    split
    · rfl
    · split
      · rfl
      · rw [ih, List.map_cons]

/-- A change of the values that looks at their keys commutes with sorting the entries. -/
theorem ofList_map (entries : List (String × α)) :
    ofList (entries.map fun entry ↦ (entry.1, f entry.1 entry.2)) =
      (ofList entries).map fun entry ↦ (entry.1, f entry.1 entry.2) := by
  suffices ∀ map : Entries α,
      (entries.map fun entry ↦ (entry.1, f entry.1 entry.2)).foldl
          (fun map entry ↦ insert entry.1 entry.2 map)
          (map.map fun entry ↦ (entry.1, f entry.1 entry.2)) =
        (entries.foldl (fun map entry ↦ insert entry.1 entry.2 map) map).map
          fun entry ↦ (entry.1, f entry.1 entry.2) from this []
  induction entries with
  | nil => exact fun map ↦ rfl
  | cons entry rest ih =>
    intro map
    rw [List.map_cons, List.foldl_cons, List.foldl_cons, insert_map]
    exact ih _

end Entries

namespace Value

variable (keep : String → Bool)

/-- Fields that are redacted in place: what does not pass is null. -/
def mask (fields : Fields) : Fields :=
  fields.map fun field ↦ (field.1, if keep field.1 then field.2.redact keep else null)

theorem redactFields_mask (fields : Fields) :
    redactFields keep (mask keep fields) = redactFields keep fields := by
  induction fields with
  | nil => rfl
  | cons field rest ih =>
    obtain ⟨name, value⟩ := field
    rw [mask] at ih
    by_cases h : keep name = true
    · simp only [mask, List.map_cons, redactFields, if_pos h, redact_redact, ih]
    · simp only [mask, List.map_cons, redactFields, if_neg h, ih]

theorem mask_ofList (fields : Fields) :
    mask keep (Entries.ofList fields) = Entries.ofList (mask keep fields) :=
  (Entries.ofList_map (fun name value ↦ if keep name then redact keep value else null) fields).symm

mutual

/-- The value of a document depends on its blank form only, once it is redacted. -/
theorem redact_ofJson_blank : ∀ j : Json,
    (ofJson (j.blank keep)).redact keep = (ofJson j).redact keep
  | .arr items => congrArg list (redactItems_ofItems_blank items)
  | .obj members => by
    rw [Json.blank, Json.replaceHidden, ofJson, ofJson, redact, redact, ← redactFields_mask,
      mask_ofList, mask_ofMembers_blank members, ← mask_ofList, redactFields_mask]
  | .null | .bool _ | .int _ | .float _ | .str _ => rfl

theorem redactItems_ofItems_blank : ∀ items : List Json,
    redactItems keep (ofItems (Json.replaceHiddenItems keep (fun _ ↦ .null) items)) =
      redactItems keep (ofItems items)
  | [] => rfl
  | item :: rest => by
    have item_eq := redact_ofJson_blank item
    rw [Json.blank] at item_eq
    rw [Json.replaceHiddenItems, ofItems, ofItems, redactItems, redactItems, item_eq,
      redactItems_ofItems_blank rest]

theorem mask_ofMembers_blank : ∀ members : List (String × Json),
    mask keep (ofMembers (Json.replaceHiddenMembers keep (fun _ ↦ .null) members)) =
      mask keep (ofMembers members)
  | [] => rfl
  | (name, value) :: rest => by
    have value_eq := redact_ofJson_blank value
    have rest_eq := mask_ofMembers_blank rest
    rw [Json.blank] at value_eq
    rw [mask, mask] at rest_eq
    by_cases h : keep name = true
    · simp only [Json.replaceHiddenMembers, ofMembers, mask, List.map_cons, if_pos h, value_eq,
        rest_eq]
    · simp only [Json.replaceHiddenMembers, ofMembers, mask, List.map_cons, if_neg h, rest_eq]

end

end Value

namespace Foreign

variable {keep : String → Bool}

theorem redactFields_fieldsOfJson_blank (j : Json) :
    Value.redactFields keep (fieldsOfJson (j.blank keep)) =
      Value.redactFields keep (fieldsOfJson j) := by
  cases j with
  | obj members =>
    rw [Json.blank, Json.replaceHidden, fieldsOfJson, fieldsOfJson, ← Value.redactFields_mask,
      Value.mask_ofMembers_blank, Value.redactFields_mask]
  | null | bool | int | float | str | arr =>
    exact Value.redactFields_singleton fun _ ↦ Value.redact_ofJson_blank keep _

/-- The redacted fields of an object made from a document depend on its blank form only. -/
theorem redactFields_fields_toObject {a b : Foreign} {j k : Json} (a_eq : a.toJson = .ok j)
    (b_eq : b.toJson = .ok k) (same : k.blank keep = j.blank keep) (typeName : String) :
    (b.toObject typeName).fields.map (Value.redactFields keep) =
      (a.toObject typeName).fields.map (Value.redactFields keep) := by
  rw [toObject, toObject, a_eq, b_eq]
  change Except.ok (Value.redactFields keep (fieldsOfJson k)) =
    Except.ok (Value.redactFields keep (fieldsOfJson j))
  rw [← redactFields_fieldsOfJson_blank k, same, redactFields_fieldsOfJson_blank]

end Foreign

/-! ## Text and hidden values -/

/-- The objects with one that presents a serializable value. -/
def ObjectTable.present (objects : ObjectTable) (id : ObjectId) (typeName : String) (a : Foreign) :
    ObjectTable := fun other ↦
  if other = id then a.toObject typeName else objects other

@[simp] theorem ObjectTable.present_self (objects : ObjectTable) (id : ObjectId)
    (typeName : String) (a : Foreign) : objects.present id typeName a id = a.toObject typeName :=
  if_pos rfl

theorem ObjectTable.present_of_ne {objects : ObjectTable} {id other : ObjectId}
    (other_ne : other ≠ id) (typeName : String) (a : Foreign) :
    objects.present id typeName a other = objects other :=
  if_neg other_ne

/-- Tables that present different values are related object by object if the presenting objects are
related. -/
theorem ObjectTable.present_induction {motive : Object → Object → Prop} {objects : ObjectTable}
    {id : ObjectId} {typeName : String} {a b : Foreign}
    (own : motive (a.toObject typeName) (b.toObject typeName))
    (others : ∀ object, motive object object) (other : ObjectId) :
    motive (objects.present id typeName a other) (objects.present id typeName b other) := by
  by_cases h : other = id
  · rw [h, present_self, present_self]
    exact own
  · rw [present_of_ne h, present_of_ne h]
    exact others _

namespace RenderSettings

variable {settings : RenderSettings} {objects : ObjectTable} {data : AuditData} {id : ObjectId}
  {typeName : String} {a b : Foreign} {j k : Json}

/-- The first tier does not depend on hidden values. -/
theorem structuredText?_present (a_eq : a.toJson = .ok j) (b_eq : b.toJson = .ok k)
    (same : k.blank settings.filter.includes = j.blank settings.filter.includes) (value : Value) :
    settings.structuredText? (objects.present id typeName b) value =
      settings.structuredText? (objects.present id typeName a) value := by
  have document_eq : settings.document (objects.present id typeName b) value =
      settings.document (objects.present id typeName a) value := by
    have fields_eq := Foreign.redactFields_fields_toObject a_eq b_eq same typeName
    refine settings.document_eq_of_redactFields_eq (fun other ↦ ?_) (fun other ↦ ?_) value
    · refine ObjectTable.present_induction (motive := fun x y ↦ y.typeName = x.typeName)
        ?_ (fun _ ↦ rfl) other
      rfl
    · exact ObjectTable.present_induction (motive := fun x y ↦
        y.fields.map (Value.redactFields settings.filter.includes) =
          x.fields.map (Value.redactFields settings.filter.includes))
        fields_eq (fun _ ↦ rfl) other
  rw [structuredText?, structuredText?, document_eq]

/-- The fallback tiers do not depend on hidden values if the object is not shown or its description
hides nothing. -/
theorem fallbackText_present (container : data.IsContainer) (a_eq : a.toJson = .ok j)
    (b_eq : b.toJson = .ok k)
    (same : k.blank settings.filter.includes = j.blank settings.filter.includes)
    (opened : id ∈ data.toValue.shown settings.filter.includes →
      Foreign.IsOpen settings.filter.includes j) :
    settings.fallbackText (objects.present id typeName b) data =
      settings.fallbackText (objects.present id typeName a) data := by
  refine fallbackText_congr container fun other other_mem ↦ ?_
  by_cases h : other = id
  · subst h
    have text_eq := Foreign.describedText_eq_of_blank a_eq b_eq (opened other_mem) same typeName
    rw [ObjectTable.present_self, ObjectTable.present_self]
    exact ⟨congrArg Written.whole text_eq, text_eq⟩
  · rw [ObjectTable.present_of_ne h, ObjectTable.present_of_ne h]
    exact ⟨rfl, rfl⟩

/-- If the object is shown and its description hides something, then wrapping what is hidden changes
the fallback text. -/
theorem fallbackText_present_wrap_ne (container : data.IsContainer) (a_eq : a.toJson = .ok j)
    (id_mem : id ∈ data.toValue.shown settings.filter.includes)
    (leaks : ¬ Foreign.IsOpen settings.filter.includes j) :
    settings.fallbackText
        (objects.present id typeName (.document (j.wrap settings.filter.includes))) data ≠
      settings.fallbackText (objects.present id typeName a) data := by
  have text_lt := Foreign.brackets_describedText_wrap a_eq leaks typeName
  intro text_eq
  refine absurd (congrArg brackets text_eq) (Nat.ne_of_gt
    (brackets_fallbackText_lt container (fun other ↦ ?_) (fun other ↦ ?_) id_mem ?_ ?_))
  · refine ObjectTable.present_induction (motive := fun x y ↦ x.hook = y.hook)
      ?_ (fun _ ↦ rfl) other
    rfl
  · exact ObjectTable.present_induction (motive := fun x y ↦
      brackets (x.describedText settings.filter.includes) ≤
        brackets (y.describedText settings.filter.includes))
      text_lt.le (fun _ ↦ le_rfl) other
  · rw [ObjectTable.present_self]
    rfl
  · rw [ObjectTable.present_self, ObjectTable.present_self]
    exact text_lt

/-- The text of data, by the outcome of the first tier. -/
theorem text_serialize? (settings : RenderSettings) (objects : ObjectTable) (data : AuditData) :
    (settings.serialize? objects data).map (·.text) =
      (settings.structuredText? objects (data.limitPayloads settings.limit.run).toValue).map
        fun
        | .ok text => text
        | .error _ => settings.fallbackText objects (data.limitPayloads settings.limit.run) := by
  rw [serialize?, serializeUnlimited?, Option.map_map]
  refine congrArg (Option.map · _) (funext fun outcome ↦ ?_)
  cases outcome with
  | ok text => rfl
  | error error => exact settings.text_fallback _ _ error

/-- The text after a failure of the first tier. -/
theorem text_serialize?_of_error {error : RenderError}
    (failed : settings.structuredText? objects (data.limitPayloads settings.limit.run).toValue =
      some (.error error)) :
    (settings.serialize? objects data).map (·.text) =
      some (settings.fallbackText objects (data.limitPayloads settings.limit.run)) := by
  rw [text_serialize?, failed, Option.map_some]

/-- The text comes from a fallback tier exactly if the first tier fails. -/
theorem exists_isFallback_iff (settings : RenderSettings) (objects : ObjectTable)
    (data : AuditData) :
    (∃ serialized, settings.serialize? objects data = some serialized ∧
        serialized.isFallback = true) ↔
      ∃ error, settings.structuredText? objects (data.limitPayloads settings.limit.run).toValue =
        some (.error error) := by
  have isFallback_fallback (error : RenderError) : (settings.fallback objects
      (data.limitPayloads settings.limit.run) error).isFallback = true := by
    rw [fallback]
    cases settings.customText objects (data.limitPayloads settings.limit.run) <;> rfl
  rw [serialize?, serializeUnlimited?]
  rcases settings.structuredText? objects (data.limitPayloads settings.limit.run).toValue with
    _ | error | text
  · simp
  · simpa using isFallback_fallback error
  · simp [Serialized.isFallback]

/-- **When a container's text depends on hidden values.**  The text of a request or a response is
the same for all documents with the blank form of a presented one if and only if, whenever the text
comes from a fallback tier and the presenting object is shown in the container, no described entry
of the document hides anything. -/
theorem text_independent_iff_isOpen (settings : RenderSettings) (objects : ObjectTable)
    (data : AuditData) (container : data.IsContainer) (id : ObjectId) (typeName : String)
    (a : Foreign) (j : Json) (a_eq : a.toJson = .ok j) :
    (∀ b k, b.toJson = .ok k →
        k.blank settings.filter.includes = j.blank settings.filter.includes →
        (settings.serialize? (objects.present id typeName b) data).map (·.text) =
          (settings.serialize? (objects.present id typeName a) data).map (·.text)) ↔
      ((∃ serialized, settings.serialize? (objects.present id typeName a) data = some serialized ∧
          serialized.isFallback = true) →
        id ∈ data.toValue.shown settings.filter.includes →
        Foreign.IsOpen settings.filter.includes j) := by
  have limited_container :=
    (AuditData.isContainer_limitPayloads settings.limit.run data).mpr container
  rw [exists_isFallback_iff, ← data.shown_limitPayloads settings.filter.includes settings.limit]
  constructor
  · rintro independent ⟨error, failed⟩ id_mem
    by_contra leaks
    have wrapped_eq : (Foreign.document (j.wrap settings.filter.includes)).toJson =
        .ok (j.wrap settings.filter.includes) := rfl
    have blank_eq : (j.wrap settings.filter.includes).blank settings.filter.includes =
        j.blank settings.filter.includes := Json.blank_replaceHidden _ _ j
    have wrapped_failed := (structuredText?_present a_eq wrapped_eq blank_eq _).trans failed
    have text_eq := independent _ _ wrapped_eq blank_eq
    rw [text_serialize?_of_error wrapped_failed, text_serialize?_of_error failed] at text_eq
    exact fallbackText_present_wrap_ne limited_container a_eq id_mem leaks
      (Option.some_inj.mp text_eq)
  · intro opened b k b_eq same
    have structured_eq : settings.structuredText? (objects.present id typeName b)
          (data.limitPayloads settings.limit.run).toValue =
        settings.structuredText? (objects.present id typeName a)
          (data.limitPayloads settings.limit.run).toValue :=
      structuredText?_present a_eq b_eq same _
    rcases outcome : settings.structuredText? (objects.present id typeName a)
      (data.limitPayloads settings.limit.run).toValue with _ | error | text
    · rw [text_serialize?, text_serialize?, structured_eq, outcome, Option.map_none]
      rfl
    · rw [text_serialize?_of_error (structured_eq.trans outcome), text_serialize?_of_error outcome,
        fallbackText_present limited_container a_eq b_eq same (opened ⟨error, outcome⟩)]
    · rw [text_serialize?, text_serialize?, structured_eq, outcome, Option.map_some,
        Option.map_some]

/-- Objects of which none exposes its fields. -/
def proxyObjects : ObjectTable := fun _ ↦
  { typeName := "Proxy"
    fields := .error "detached"
    hook := some (.writes "proxy")
    description := [] }

/-- A document with a secret below a described member. -/
def loggerDocument : Json :=
  .obj [("context", .obj [("logger", .str "secret")])]

/-- A request that shows the document next to an object without fields. -/
def proxyRequest : AuditData :=
  .request
    { parts := [.object ⟨0⟩, .object ⟨1⟩], method := none, uri := none, headers := [],
      attachments := [] }

/-- The secret is in the text, since the proxy makes the first tier fail. -/
theorem text_proxyRequest_depends :
    proxyRequest.IsContainer ∧
      (Foreign.document loggerDocument).toJson = .ok loggerDocument ∧
      (({} : RenderSettings).serialize?
          (proxyObjects.present ⟨0⟩ "Session" (.document loggerDocument)) proxyRequest).map
            (·.text) =
        some ("RequestAuditData\x7brequest=[Session\x7bcontext=\x7b\"logger\":\"secret\"" ++
          "\x7d\x7d, proxy], headers=\x7b\x7d\x7d") ∧
      ¬ ∀ b k, b.toJson = .ok k →
        k.blank FieldFilter.standard.includes = loggerDocument.blank FieldFilter.standard.includes →
        (({} : RenderSettings).serialize? (proxyObjects.present ⟨0⟩ "Session" b) proxyRequest).map
            (·.text) =
          (({} : RenderSettings).serialize?
            (proxyObjects.present ⟨0⟩ "Session" (.document loggerDocument)) proxyRequest).map
              (·.text) := by
  have isFallback : (({} : RenderSettings).serialize?
      (proxyObjects.present ⟨0⟩ "Session" (.document loggerDocument)) proxyRequest).any
        (·.isFallback) = true := by decide +kernel
  have shown : ⟨0⟩ ∈ proxyRequest.toValue.shown FieldFilter.standard.includes := by decide
  have leaks : ¬ Foreign.IsOpen FieldFilter.standard.includes loggerDocument := by decide
  refine ⟨trivial, rfl, by decide +kernel, fun independent ↦ leaks ?_⟩
  obtain ⟨serialized, serialized_eq, serialized_isFallback⟩ :=
    Option.any_eq_true _ _ |>.mp isFallback
  exact (text_independent_iff_isOpen {} proxyObjects proxyRequest trivial ⟨0⟩ "Session"
    (.document loggerDocument) loggerDocument rfl).mp independent
    ⟨serialized, serialized_eq, serialized_isFallback⟩ shown

end RenderSettings

end AuditTrail
