import Mathlib
import AuditTrail.Proofs.View.Brackets
import AuditTrail.Render.Serialized

/-!
# The fallback text of a container

When a container has no document, its text is made from the texts of the objects that its fields
show, and from nothing else of any object.  The custom text shows them by their own texts and is
used if all of these are complete; the dump shows them by their descriptions.

Payload limits come before the tiers.  They touch payloads only and leave the shown objects as they
are.
-/

namespace AuditTrail

/-- Objects that show more brackets in one place and no less elsewhere show more brackets
together. -/
theorem Value.shownBrackets_lt {f g : ObjectId → String}
    (le : ∀ id, brackets (f id) ≤ brackets (g id)) {id : ObjectId} {ids : List ObjectId}
    (id_mem : id ∈ ids) (lt : brackets (f id) < brackets (g id)) :
    shownBrackets f ids < shownBrackets g ids :=
  List.sum_lt_sum _ _ (fun i _ ↦ le i) ⟨id, id_mem, lt⟩

/-- The objects that some values show are those that each of them shows. -/
theorem Value.shownItems_eq_flatMap (keep : String → Bool) (items : List Value) :
    shownItems keep items = items.flatMap (shown keep) := by
  induction items with
  | nil => rfl
  | cons item rest ih => rw [shownItems, ih, List.flatMap_cons]

/-! ## Payload limits -/

namespace PayloadLimit

/-- The sizes of some values are the size of the first one, if it is a payload, and those of the
rest. -/
theorem measureFrom_cons {sizer : PayloadSizer} {n : Nat} {value : Value} {rest : List Value}
    {sizes : List (Option Nat)} (measured : measureFrom sizer n (value :: rest) = .ok sizes) :
    ∃ size tail m, sizes = size :: tail ∧ (size ≠ none → value.payload? ≠ none) ∧
      measureFrom sizer m rest = .ok tail := by
  rw [measureFrom] at measured
  cases payload_eq : value.payload? with
  | some payload =>
    rw [payload_eq] at measured
    cases size_eq : sizer n payload with
    | error message =>
      simp only [size_eq] at measured
      cases measured
    | ok size =>
      cases tail_eq : measureFrom sizer (n + 1) rest with
      | error message =>
        simp only [size_eq, tail_eq] at measured
        cases measured
      | ok tail =>
        simp only [size_eq, tail_eq] at measured
        cases measured
        exact ⟨some size, tail, n + 1, rfl, fun _ ↦ Option.some_ne_none payload, tail_eq⟩
  | none =>
    rw [payload_eq] at measured
    cases tail_eq : measureFrom sizer n rest with
    | error message =>
      simp only [tail_eq] at measured
      cases measured
    | ok tail =>
      simp only [tail_eq] at measured
      cases measured
      exact ⟨none, tail, n, rfl, fun some_ne ↦ absurd rfl some_ne, tail_eq⟩

section FlatMap

variable {β : Type} {f : Value → List β} (f_bytes : ∀ data, f (.bytes data) = [])
  (limit : PayloadLimit)

include f_bytes

/-- Where payloads have nothing, what is left of a measured value has what the value has. -/
theorem flatMap_apply {value : Value} {size : Option Nat}
    (measured : size ≠ none → value.payload? ≠ none) :
    (limit.apply value size).toList.flatMap f = f value := by
  cases size with
  | none => exact List.flatMap_singleton f value
  | some size =>
    have is_payload := measured (Option.some_ne_none size)
    cases value with
    | bytes data =>
      rw [f_bytes, apply]
      split
      · rw [Option.toList_some, List.flatMap_singleton, placeholder, f_bytes]
      · cases limit.policy with
        | passThrough => rw [Option.toList_some, List.flatMap_singleton, f_bytes]
        | drop => rfl
    | null | bool | int | float | text | timestamp | list | map | record | object =>
      exact absurd rfl is_payload

/-- Where payloads have nothing, what is left of measured values has what the values have. -/
theorem flatMap_limited (n : Nat) {values : List Value} {sizes : List (Option Nat)}
    (measured : measureFrom limit.sizer n values = .ok sizes) :
    ((values.zip sizes).filterMap fun (value, size) ↦ limit.apply value size).flatMap f =
      values.flatMap f := by
  induction values generalizing n sizes with
  | nil => rfl
  | cons value rest ih =>
    obtain ⟨size, tail, m, rfl, is_payload, tail_eq⟩ := measureFrom_cons measured
    have value_eq := flatMap_apply f_bytes limit is_payload
    have rest_eq := ih m tail_eq
    rw [List.zip_cons_cons, List.filterMap_cons, List.flatMap_cons, ← value_eq, ← rest_eq]
    dsimp only
    cases limit.apply value size with
    | none => rfl
    | some limited => rw [Option.toList_some, List.flatMap_singleton, List.flatMap_cons]

/-- Where payloads have nothing, what a limit leaves of values has what the values have. -/
theorem flatMap_run (values : List Value) : (limit.run values).flatMap f = values.flatMap f := by
  rw [run, limited]
  cases measured : measureFrom limit.sizer 0 values with
  | error message => rfl
  | ok sizes => exact flatMap_limited f_bytes limit 0 measured

end FlatMap

variable (keep : String → Bool) (limit : PayloadLimit)

/-- A limit keeps the objects that the values show. -/
theorem shownItems_run (values : List Value) :
    Value.shownItems keep (limit.run values) = Value.shownItems keep values := by
  rw [Value.shownItems_eq_flatMap, Value.shownItems_eq_flatMap]
  exact flatMap_run (fun _ ↦ rfl) limit values

/-- A limit adds no value. -/
theorem length_run_le (values : List Value) : (limit.run values).length ≤ values.length := by
  rw [run, limited]
  cases measureFrom limit.sizer 0 values with
  | error message => exact le_rfl
  | ok sizes =>
    refine (List.length_filterMap_le _ _).trans ?_
    rw [List.length_zip]
    exact Nat.min_le_left _ _

end PayloadLimit

/-- Where null has nothing, the first of at most one value has what the values have. -/
theorem Value.flatMap_eq_head {β : Type} {f : Value → List β} (f_null : f .null = [])
    {values : List Value} (length_le : values.length ≤ 1) :
    f (values.head?.getD .null) = values.flatMap f := by
  rcases values with _ | ⟨value, _ | ⟨other, rest⟩⟩
  · exact f_null
  · exact (List.flatMap_singleton f value).symm
  · exact absurd length_le (by simp)

/-- Where payloads and null have nothing, what a limit leaves of at most one value has what the
value has. -/
theorem PayloadLimit.head_run {β : Type} {f : Value → List β}
    (f_bytes : ∀ data, f (.bytes data) = []) (f_null : f .null = []) (limit : PayloadLimit)
    (value : Option Value) :
    f ((limit.run value.toList).head?.getD .null) = f (value.getD .null) := by
  have length_le : (limit.run value.toList).length ≤ 1 :=
    (limit.length_run_le value.toList).trans Option.length_toList_le
  rw [Value.flatMap_eq_head f_null length_le, flatMap_run f_bytes]
  cases value with
  | none => exact f_null.symm
  | some value => exact List.flatMap_singleton f value

namespace AuditData

/-- Limiting the payloads of data keeps the objects that the data show. -/
theorem shown_limitPayloads (keep : String → Bool) (limit : PayloadLimit) (data : AuditData) :
    (data.limitPayloads limit.run).toValue.shown keep = data.toValue.shown keep := by
  cases data with
  | request r =>
    simp only [limitPayloads, toValue, Value.shown, Request.fields, List.cons_append,
      Value.shownFields, limit.shownItems_run]
  | response r =>
    have head_eq : Value.shown keep ((limit.run r.toList).head?.getD .null) =
        Value.shown keep (r.getD .null) := limit.head_run (fun _ ↦ rfl) rfl r
    simp only [limitPayloads, toValue, Value.shown, Response.fields, Value.shownFields, head_eq]
  | custom id => rfl

/-! ## Containers -/

/-- Requests and responses, which have fields of their own. -/
def IsContainer : AuditData → Prop
  | custom _ => False
  | _ => True

theorem isContainer_limitPayloads (limit : List Value → List Value) (data : AuditData) :
    (data.limitPayloads limit).IsContainer ↔ data.IsContainer := by
  cases data <;> rfl

/-- The texts of a container are those of a record of its fields. -/
theorem IsContainer.exists_fields {data : AuditData} (container : data.IsContainer) :
    ∃ typeName fields, data.toValue = .record typeName fields ∧
      (∀ objects keep, data.ownText objects keep = some (data.toValue.written objects keep)) ∧
      ∀ objects keep, data.describe objects keep = describeFields objects keep fields := by
  cases data with
  | request r => exact ⟨_, _, rfl, fun _ _ ↦ rfl, fun _ _ ↦ rfl⟩
  | response r => exact ⟨_, _, rfl, fun _ _ ↦ rfl, fun _ _ ↦ rfl⟩
  | custom id => exact container.elim

section Describe

variable (keep : String → Bool) (objects objects₁ objects₂ : ObjectTable)

theorem describeFields_cons (name : String) (value : Value) (rest : Fields) :
    describeFields objects keep ((name, value) :: rest) =
      if keep name then
        (name, value.describedText objects keep) :: describeFields objects keep rest
      else describeFields objects keep rest := by
  by_cases h : keep name = true
  · simp only [describeFields, Fields.keeping, List.filter_cons, if_pos h, List.map_cons]
  · simp only [describeFields, Fields.keeping, List.filter_cons, if_neg h]

variable {keep objects₁ objects₂} in
/-- Fields are described by the descriptions of the objects that they show. -/
theorem describeFields_congr {fields : Fields}
    (same : ∀ id ∈ Value.shownFields keep fields,
      (objects₁ id).describedText keep = (objects₂ id).describedText keep) :
    describeFields objects₁ keep fields = describeFields objects₂ keep fields := by
  induction fields with
  | nil => rfl
  | cons field rest ih =>
    obtain ⟨name, value⟩ := field
    rw [Value.shownFields] at same
    rw [describeFields_cons, describeFields_cons]
    by_cases h : keep name = true
    · rw [if_pos h] at same
      have value_eq : value.describedText objects₁ keep = value.describedText objects₂ keep :=
        congrArg (·.text) (Value.view_congr fun id id_mem ↦
          congrArg Written.whole (same id (List.mem_append_left _ id_mem)))
      rw [if_pos h, if_pos h, value_eq, ih fun id id_mem ↦ same id (List.mem_append_right _ id_mem)]
    · rw [if_neg h] at same
      rw [if_neg h, if_neg h, ih same]

/-- Two descriptions of fields differ in their brackets as the shown objects do. -/
theorem brackets_describeFields (fields : Fields) :
    ((describeFields objects₁ keep fields).map fun e ↦ brackets e.1 + brackets e.2).sum +
        Value.shownBrackets (fun id ↦ (objects₂ id).describedText keep)
          (Value.shownFields keep fields) =
      ((describeFields objects₂ keep fields).map fun e ↦ brackets e.1 + brackets e.2).sum +
        Value.shownBrackets (fun id ↦ (objects₁ id).describedText keep)
          (Value.shownFields keep fields) := by
  induction fields with
  | nil => rfl
  | cons field rest ih =>
    obtain ⟨name, value⟩ := field
    have value_eq := Value.brackets_view (fun id ↦ (objects₁ id).describedText keep)
      (fun id ↦ (objects₂ id).describedText keep) keep value
    rw [describeFields_cons, describeFields_cons, Value.shownFields]
    by_cases h : keep name = true
    · simp only [if_pos h, List.map_cons, List.sum_cons, Value.shownBrackets_append,
        Value.describedText]
      omega
    · simp only [if_neg h, ih]

end Describe

end AuditData

/-! ## The text -/

namespace RenderSettings

variable (settings : RenderSettings)

/-- The text after a failure of the first tier. -/
def fallbackText (objects : ObjectTable) (data : AuditData) : String :=
  match settings.customText objects data with
  | .ok text => text
  | .error _ => settings.fieldDump objects data

theorem text_fallback (objects : ObjectTable) (data : AuditData) (error : RenderError) :
    (settings.fallback objects data error).text = settings.fallbackText objects data := by
  rw [fallback, fallbackText]
  cases settings.customText objects data <;> rfl

/-- The dump has the brackets of the described entries. -/
theorem brackets_fieldDump (objects : ObjectTable) (data : AuditData) :
    brackets (settings.fieldDump objects data) =
      ((data.describe objects settings.filter.includes).map
        fun e ↦ brackets e.1 + brackets e.2).sum := by
  rw [fieldDump, brackets, Json.render, String.toList_ofList, dumpDocument, Json.count_chars_obj,
    List.map_map]
  refine congrArg List.sum (List.map_congr_left fun entry _ ↦ ?_)
  rw [Function.comp_apply, Json.chars, count_stringChars]

variable {settings} {objects₁ objects₂ : ObjectTable} {data : AuditData}

/-- The custom text of a container, which is never empty, is its text if this is complete. -/
theorem customText_of_isContainer (container : data.IsContainer) (objects : ObjectTable) :
    settings.customText objects data =
      if (data.toValue.written objects settings.filter.includes).complete then
        .ok (data.toValue.written objects settings.filter.includes).text
      else .error (.customText (data.typeName objects)) := by
  obtain ⟨typeName, fields, toValue_eq, ownText_eq, -⟩ := container.exists_fields
  have text_ne
      (complete : (data.toValue.written objects settings.filter.includes).complete = true) :
      (data.toValue.written objects settings.filter.includes).text ≠ "" := by
    rw [toValue_eq, Value.written, Value.view] at complete ⊢
    rw [Value.complete_enclose, List.all_eq_true] at complete
    rw [Value.text_enclose complete]
    intro empty
    have length_eq := congrArg String.length empty
    simp at length_eq
  rw [customText, ownText_eq]
  cases written_eq : data.toValue.written objects settings.filter.includes with
  | mk text complete =>
    rw [written_eq] at text_ne
    cases complete with
    | true => simp only [if_neg (text_ne rfl), if_pos]
    | false => rfl

/-- The text of a container is its custom text if this is complete and the dump otherwise. -/
theorem fallbackText_of_isContainer (container : data.IsContainer) (objects : ObjectTable) :
    settings.fallbackText objects data =
      if (data.toValue.written objects settings.filter.includes).complete then
        (data.toValue.written objects settings.filter.includes).text
      else settings.fieldDump objects data := by
  rw [fallbackText, customText_of_isContainer container]
  by_cases complete : (data.toValue.written objects settings.filter.includes).complete = true
  · rw [if_pos complete, if_pos complete]
  · rw [if_neg complete, if_neg complete]

/-- The fallback text of a container depends on the texts of the shown objects only. -/
theorem fallbackText_congr (container : data.IsContainer)
    (same : ∀ id ∈ data.toValue.shown settings.filter.includes,
      (objects₁ id).ownText settings.filter.includes =
          (objects₂ id).ownText settings.filter.includes ∧
        (objects₁ id).describedText settings.filter.includes =
          (objects₂ id).describedText settings.filter.includes) :
    settings.fallbackText objects₁ data = settings.fallbackText objects₂ data := by
  obtain ⟨typeName, fields, toValue_eq, -, describe_eq⟩ := container.exists_fields
  have written_eq : data.toValue.written objects₁ settings.filter.includes =
      data.toValue.written objects₂ settings.filter.includes :=
    Value.view_congr fun id id_mem ↦ (same id id_mem).1
  have fieldDump_eq : settings.fieldDump objects₁ data = settings.fieldDump objects₂ data := by
    rw [toValue_eq, Value.shown] at same
    rw [fieldDump, fieldDump, dumpDocument, dumpDocument, describe_eq, describe_eq,
      AuditData.describeFields_congr fun id id_mem ↦ (same id id_mem).2]
  rw [fallbackText_of_isContainer container, fallbackText_of_isContainer container, written_eq,
    fieldDump_eq]

/-- A custom text that is complete shows every object by a whole text. -/
theorem written_whole {objects : ObjectTable} {keep : String → Bool} {value : Value}
    (complete : (value.written objects keep).complete = true) :
    value.written objects keep =
      value.view (fun id ↦ .whole ((objects id).ownText keep).text) keep := by
  rw [Value.written, Value.complete_view, List.all_eq_true] at complete
  refine Value.view_congr fun id id_mem ↦ ?_
  rw [Written.whole, ← complete id id_mem]

/-- If the objects have the same hooks and none of them loses brackets, but a shown one without a
hook gains some, then the fallback text of a container gains some. -/
theorem brackets_fallbackText_lt (container : data.IsContainer)
    (hook_eq : ∀ id, (objects₁ id).hook = (objects₂ id).hook)
    (le : ∀ id, brackets ((objects₁ id).describedText settings.filter.includes) ≤
      brackets ((objects₂ id).describedText settings.filter.includes))
    {id : ObjectId} (id_mem : id ∈ data.toValue.shown settings.filter.includes)
    (hook_none : (objects₁ id).hook = none)
    (lt : brackets ((objects₁ id).describedText settings.filter.includes) <
      brackets ((objects₂ id).describedText settings.filter.includes)) :
    brackets (settings.fallbackText objects₁ data) <
      brackets (settings.fallbackText objects₂ data) := by
  obtain ⟨typeName, fields, toValue_eq, -, describe_eq⟩ := container.exists_fields
  have complete_eq : (data.toValue.written objects₁ settings.filter.includes).complete =
      (data.toValue.written objects₂ settings.filter.includes).complete := by
    rw [Value.written, Value.written, Value.complete_view, Value.complete_view]
    refine congrArg (List.all _) (funext fun i ↦ ?_)
    rw [Object.ownText, Object.ownText, hook_eq]
    cases (objects₂ i).hook <;> rfl
  have ownText_le (i : ObjectId) :
      brackets ((objects₁ i).ownText settings.filter.includes).text ≤
        brackets ((objects₂ i).ownText settings.filter.includes).text := by
    rw [Object.ownText, Object.ownText, hook_eq]
    cases (objects₂ i).hook with
    | none => exact le i
    | some hook => exact le_rfl
  have ownText_lt : brackets ((objects₁ id).ownText settings.filter.includes).text <
      brackets ((objects₂ id).ownText settings.filter.includes).text := by
    rw [Object.ownText, Object.ownText, ← hook_eq, hook_none]
    exact lt
  rw [fallbackText_of_isContainer container, fallbackText_of_isContainer container, ← complete_eq]
  split
  next complete =>
    have text_eq := Value.brackets_view
      (fun id ↦ ((objects₁ id).ownText settings.filter.includes).text)
      (fun id ↦ ((objects₂ id).ownText settings.filter.includes).text)
      settings.filter.includes data.toValue
    have shown_lt := Value.shownBrackets_lt ownText_le id_mem ownText_lt
    rw [written_whole complete, written_whole (complete_eq ▸ complete)]
    omega
  next =>
    have text_eq :=
      AuditData.brackets_describeFields settings.filter.includes objects₁ objects₂ fields
    have shown_lt := Value.shownBrackets_lt le id_mem lt
    rw [toValue_eq, Value.shown] at shown_lt
    rw [brackets_fieldDump, brackets_fieldDump, describe_eq, describe_eq]
    omega

end RenderSettings

end AuditTrail
