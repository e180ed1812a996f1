import AuditTrail.Proofs.Serialize.Structured
import AuditTrail.Proofs.Serialize.Tiers

/-!
# The bound on payloads

The limit is applied to the parts of a request and to the response object before anything is
rendered, and to nothing that these hold.  So the payloads that a document shows are bounded down to
the level of the parts, and those below are shown at whatever length they have.

A payload counts as it is read back from the document.  The bound depends on the sizer if the policy
keeps what does not exceed the limit: a payload that is taken for short is kept, however long it is.
Under the policy that drops it, no part that is a payload is left but in the form of zeros.
-/

namespace AuditTrail

/-! ## Payloads by levels -/

namespace Value

/-- The payloads that stand in a value under some number of lists, maps and records, behind names
that pass.  Objects show none. -/
def payloadsAt (keep : String → Bool) : (level : Nat) → Value → List (List UInt8)
  | 0, bytes data => [data]
  | level + 1, list items => items.flatMap (payloadsAt keep level)
  | level + 1, map entries =>
    (Fields.keeping keep entries).flatMap fun field ↦ payloadsAt keep level field.2
  | level + 1, record _ fields =>
    (Fields.keeping keep fields).flatMap fun field ↦ payloadsAt keep level field.2
  | _, _ => []

/-- The payloads that are read in the document of a value, in the places in which the value has
payloads under some number of lists, maps and records. -/
def payloadsReadAt (keep : String → Bool) : (level : Nat) → Value → Json → List (List UInt8)
  | 0, bytes _, .str s => (Text.Base64.decode? s).toList
  | level + 1, list items, .arr documents =>
    (items.zip documents).flatMap fun pair ↦ payloadsReadAt keep level pair.1 pair.2
  | level + 1, map entries, .obj members =>
    ((Fields.keeping keep entries).zip members).flatMap fun pair ↦
      payloadsReadAt keep level pair.1.2 pair.2.2
  | level + 1, record _ fields, .obj members =>
    ((Fields.keeping keep fields).zip members).flatMap fun pair ↦
      payloadsReadAt keep level pair.1.2 pair.2.2
  | _, _, _ => []

@[simp] theorem payloadsReadAt_null (keep : String → Bool) (level : Nat) (value : Value) :
    payloadsReadAt keep level value .null = [] := by
  cases level <;> cases value <;> rfl

theorem mem_payloadsAt_zero {keep : String → Bool} {value : Value} {payload : List UInt8} :
    payload ∈ value.payloadsAt keep 0 ↔ value.payload? = some payload := by
  cases value with
  | bytes data =>
    rw [payloadsAt, List.mem_singleton, payload?, Option.some_inj, eq_comm]
  | _ =>
    constructor
    · intro payload_mem
      cases payload_mem
    · intro payload_eq
      cases payload_eq

/-! Texts, and lists and maps of texts, have no payloads at any level. -/

@[simp] theorem payloadsAt_text (keep : String → Bool) (level : Nat) (s : String) :
    (text s).payloadsAt keep level = [] := by
  cases level <;> rfl

@[simp] theorem payloadsAt_ofTexts (keep : String → Bool) (level : Nat) (texts : List String) :
    (ofTexts texts).payloadsAt keep level = [] := by
  cases level with
  | zero => rfl
  | succ level =>
    refine List.flatMap_eq_nil_iff.mpr fun item item_mem ↦ ?_
    obtain ⟨s, -, rfl⟩ := List.mem_map.mp item_mem
    exact payloadsAt_text keep level s

@[simp] theorem payloadsAt_ofTextMap (keep : String → Bool) (level : Nat)
    (entries : Entries String) : (ofTextMap entries).payloadsAt keep level = [] := by
  cases level with
  | zero => rfl
  | succ level =>
    refine List.flatMap_eq_nil_iff.mpr fun field field_mem ↦ ?_
    obtain ⟨entry, -, rfl⟩ := List.mem_map.mp (List.mem_filter.mp field_mem).1
    exact payloadsAt_text keep level entry.2

/-- The integers of some items have 64 bits if those of each item have. -/
theorem itemsFit_iff {items : List Value} : ItemsFit items ↔ ∀ item ∈ items, item.IntsFit := by
  induction items with
  | nil => exact ⟨fun _ ↦ List.forall_mem_nil _, fun _ ↦ trivial⟩
  | cons item rest ih => rw [ItemsFit, ih, List.forall_mem_cons]

end Value

namespace RenderSettings

variable {settings : RenderSettings} {objects : ObjectTable} {depth : Nat} {path : List ObjectId}

/-- Each document of a list represents the item in its place. -/
theorem representedBy_of_mem_zip {items : List Value} {documents : List Json}
    (items_by : settings.ItemsRepresentedBy objects depth path items documents)
    {pair : Value × Json} (pair_mem : pair ∈ items.zip documents) :
    settings.RepresentedBy objects depth path pair.1 pair.2 := by
  induction items generalizing documents with
  | nil => cases pair_mem
  | cons item rest ih =>
    rcases items_by with _ | ⟨item_by, rest_by⟩
    rcases List.mem_cons.mp pair_mem with rfl | rest_mem
    · exact item_by
    · exact ih rest_by rest_mem

/-- Each member of an object represents the kept field in its place. -/
theorem representedBy_of_mem_keeping_zip {fields : Fields} {members : List (String × Json)}
    (fields_by : settings.FieldsRepresentedBy objects depth path fields members)
    {pair : (String × Value) × (String × Json)}
    (pair_mem : pair ∈ (fields.keeping settings.filter.includes).zip members) :
    settings.RepresentedBy objects depth path pair.1.2 pair.2.2 := by
  induction fields generalizing members with
  | nil => cases pair_mem
  | cons field rest ih =>
    rcases fields_by with _ | ⟨excluded, rest_by⟩ | ⟨included, value_by, rest_by⟩
    · rw [Fields.keeping_cons_of_excluded excluded] at pair_mem
      exact ih rest_by pair_mem
    · rw [Fields.keeping_cons_of_kept included] at pair_mem
      rcases List.mem_cons.mp pair_mem with rfl | rest_mem
      · exact value_by
      · exact ih rest_by rest_mem

/-- What is read in a document that represents a value are payloads of the value. -/
theorem payloadsReadAt_subset {level : Nat} {value : Value} {document : Json}
    (represented : settings.RepresentedBy objects depth path value document) :
    value.payloadsReadAt settings.filter.includes level document ⊆
      value.payloadsAt settings.filter.includes level := by
  induction level generalizing depth path value document with
  | zero =>
    rcases represented with _ | ⟨_, node_by⟩
    · rw [Value.payloadsReadAt_null]
      exact List.nil_subset _
    cases node_by with
    | bytes decode_eq =>
      rw [Value.payloadsReadAt, decode_eq]
      exact List.Subset.refl _
    | _ => exact List.nil_subset _
  | succ level ih =>
    have in_fields {path : List ObjectId} {fields : Fields} {members : List (String × Json)}
        (fields_by : settings.FieldsRepresentedBy objects (depth + 1) path fields members) :
        (((fields.keeping settings.filter.includes).zip members).flatMap fun pair ↦
            pair.1.2.payloadsReadAt settings.filter.includes level pair.2.2) ⊆
          (fields.keeping settings.filter.includes).flatMap fun field ↦
            field.2.payloadsAt settings.filter.includes level := by
      intro payload payload_mem
      obtain ⟨pair, pair_mem, read⟩ := List.mem_flatMap.mp payload_mem
      exact List.mem_flatMap.mpr ⟨pair.1, (List.of_mem_zip pair_mem).1,
        ih (representedBy_of_mem_keeping_zip fields_by pair_mem) read⟩
    rcases represented with _ | ⟨_, node_by⟩
    · rw [Value.payloadsReadAt_null]
      exact List.nil_subset _
    cases node_by with
    | list items_by =>
      intro payload payload_mem
      obtain ⟨pair, pair_mem, read⟩ := List.mem_flatMap.mp payload_mem
      exact List.mem_flatMap.mpr ⟨pair.1, (List.of_mem_zip pair_mem).1,
        ih (representedBy_of_mem_zip items_by pair_mem) read⟩
    | map entries_by => exact in_fields entries_by
    | record fields_by => exact in_fields fields_by
    | _ => exact List.nil_subset _

end RenderSettings

/-! ## Limited parts -/

namespace PayloadLimit

/-- Every payload among some values has a size in its place.  If the policy keeps what does not
exceed the limit, a payload that is longer than the limit has a size that exceeds it. -/
def Covers (limit : PayloadLimit) (values : List Value) (sizes : List (Option Nat)) : Prop :=
  List.Forall₂ (fun value size ↦ ∀ payload, value.payload? = some payload →
    ∃ k, size = some k ∧
      (limit.policy = .passThrough → limit.limit < payload.length → limit.limit < k)) values sizes

/-- No measurement among some values fails.  If the policy keeps what does not exceed the limit, no
payload that is longer than the limit is measured at the limit or below it. -/
def Measures (limit : PayloadLimit) (values : List Value) : Prop :=
  ∃ sizes, measureFrom limit.sizer 0 values = .ok sizes ∧ limit.Covers values sizes

variable {limit : PayloadLimit} {values : List Value}

/-- What is kept in place of a value is the placeholder, or the value itself.  If it has a size,
then this does not exceed the limit, and the policy keeps what does not. -/
theorem eq_placeholder_or_eq_of_apply {value kept : Value} {size : Option Nat}
    (apply_eq : limit.apply value size = some kept) :
    kept = placeholder limit.limit ∨
      kept = value ∧ ∀ k, size = some k → k ≤ limit.limit ∧ limit.policy = .passThrough := by
  cases size with
  | none =>
    cases apply_eq
    exact .inr ⟨rfl, fun _ none_eq ↦ nomatch none_eq⟩
  | some size =>
    rw [apply] at apply_eq
    split at apply_eq
    · cases apply_eq
      exact .inl rfl
    next not_lt =>
      split at apply_eq
      next passes =>
        cases apply_eq
        refine .inr ⟨rfl, ?_⟩
        rintro _ ⟨⟩
        exact ⟨Nat.not_lt.mp not_lt, passes⟩
      next => cases apply_eq

/-- What is kept of values are placeholders, and values whose payload is within the limit if the
sizes cover it. -/
theorem Covers.eq_placeholder_or_mem {sizes : List (Option Nat)}
    (covers : limit.Covers values sizes) {kept : Value}
    (kept_mem : kept ∈ (values.zip sizes).filterMap fun (value, size) ↦ limit.apply value size) :
    kept = placeholder limit.limit ∨
      kept ∈ values ∧ ∀ payload, kept.payload? = some payload → payload.length ≤ limit.limit := by
  induction covers with
  | nil => cases kept_mem
  | @cons value size rest sizes covered _ ih =>
    obtain ⟨⟨v, k⟩, pair_mem, apply_eq⟩ := List.mem_filterMap.mp kept_mem
    rcases List.mem_cons.mp pair_mem with pair_eq | rest_mem
    · cases pair_eq
      refine (eq_placeholder_or_eq_of_apply apply_eq).imp_right ?_
      rintro ⟨rfl, of_size⟩
      refine ⟨List.mem_cons_self, fun payload payload_eq ↦ ?_⟩
      obtain ⟨k, size_eq, exceeds⟩ := covered payload payload_eq
      obtain ⟨size_le, passes⟩ := of_size k size_eq
      exact Nat.le_of_not_lt fun longer ↦ (exceeds passes longer).not_ge size_le
    · refine (ih (List.mem_filterMap.mpr ⟨_, rest_mem, apply_eq⟩)).imp_right ?_
      rintro ⟨kept_mem, bounded⟩
      exact ⟨List.mem_cons_of_mem value kept_mem, bounded⟩

namespace Measures

variable (measures : limit.Measures values) {kept : Value} (kept_mem : kept ∈ limit.run values)

include measures kept_mem

theorem eq_placeholder_or_mem :
    kept = placeholder limit.limit ∨
      kept ∈ values ∧ ∀ payload, kept.payload? = some payload → payload.length ≤ limit.limit := by
  obtain ⟨sizes, sizes_eq, covers⟩ := measures
  rw [run, limited, sizes_eq] at kept_mem
  exact covers.eq_placeholder_or_mem kept_mem

/-- No payload that is left is longer than the limit. -/
theorem length_payload_le {payload : List UInt8} (payload_eq : kept.payload? = some payload) :
    payload.length ≤ limit.limit := by
  rcases measures.eq_placeholder_or_mem kept_mem with rfl | ⟨-, bounded⟩
  · cases payload_eq
    exact List.length_replicate.le
  · exact bounded payload payload_eq

/-- The integers of what is left have 64 bits if all had. -/
theorem intsFit (fits : ∀ value ∈ values, value.IntsFit) : kept.IntsFit := by
  rcases measures.eq_placeholder_or_mem kept_mem with rfl | ⟨mem, -⟩
  · trivial
  · exact fits kept mem

end Measures

end PayloadLimit

/-! ## Data -/

namespace AuditData

/-- What the limit is applied to. -/
def parts : AuditData → List Value
  | request r => r.parts
  | response r => r.toList
  | custom _ => []

/-- How many lists and records the parts stand under. -/
def partLevel : AuditData → Nat
  | request _ => 2
  | response _ => 1
  | custom _ => 0

/-- The fields of a request are its parts and some texts. -/
theorem eq_list_or_payloadsAt_eq_nil {request : Request} {field : String × Value}
    (field_mem : field ∈ request.fields) (keep : String → Bool) :
    field.2 = .list request.parts ∨ ∀ level, field.2.payloadsAt keep level = [] := by
  simp only [Request.fields, List.mem_append, List.mem_singleton, List.mem_map,
    Option.mem_toList] at field_mem
  rcases field_mem with (((rfl | ⟨s, -, rfl⟩) | ⟨s, -, rfl⟩) | rfl) | attachments_mem
  · exact .inl rfl
  · exact .inr fun level ↦ Value.payloadsAt_text keep level s
  · exact .inr fun level ↦ Value.payloadsAt_text keep level s
  · exact .inr fun level ↦ Value.payloadsAt_ofTextMap keep level request.headers
  · split at attachments_mem
    · cases attachments_mem
    · cases List.mem_singleton.mp attachments_mem
      exact .inr fun level ↦ Value.payloadsAt_ofTexts keep level request.attachments

/-- Down to the level of the parts the payloads of data are parts. -/
theorem exists_part_of_mem_payloadsAt {data : AuditData} {keep : String → Bool} {level : Nat}
    (level_le : level ≤ data.partLevel) {payload : List UInt8}
    (payload_mem : payload ∈ data.toValue.payloadsAt keep level) :
    ∃ part ∈ data.parts, part.payload? = some payload := by
  cases level with
  | zero => cases data <;> cases payload_mem
  | succ level =>
    cases data with
    | request r =>
      obtain ⟨field, field_mem, payload_mem⟩ := List.mem_flatMap.mp payload_mem
      have field_mem := (List.mem_filter.mp field_mem).1
      rcases eq_list_or_payloadsAt_eq_nil field_mem keep with list_eq | none_eq
      · rw [list_eq] at payload_mem
        match level, level_le with
        | 0, _ => cases payload_mem
        | 1, _ =>
          obtain ⟨part, part_mem, payload_mem⟩ := List.mem_flatMap.mp payload_mem
          exact ⟨part, part_mem, Value.mem_payloadsAt_zero.mp payload_mem⟩
      · rw [none_eq] at payload_mem
        cases payload_mem
    | response r =>
      obtain rfl : level = 0 := Nat.le_zero.mp (Nat.le_of_succ_le_succ level_le)
      obtain ⟨field, field_mem, payload_mem⟩ := List.mem_flatMap.mp payload_mem
      obtain rfl := List.mem_singleton.mp (List.mem_filter.mp field_mem).1
      cases r with
      | none => cases payload_mem
      | some value =>
        exact ⟨value, List.mem_singleton.mpr rfl, Value.mem_payloadsAt_zero.mp payload_mem⟩
    | custom id => cases level_le

variable {limit : PayloadLimit}

theorem partLevel_limitPayloads (limit : List Value → List Value) (data : AuditData) :
    (data.limitPayloads limit).partLevel = data.partLevel := by
  cases data <;> rfl

/-- The parts of limited data are what is left of the parts. -/
theorem parts_limitPayloads_subset (limit : PayloadLimit) (data : AuditData) :
    (data.limitPayloads limit.run).parts ⊆ limit.run data.parts := by
  cases data with
  | request r => exact List.Subset.refl _
  | response r =>
    intro part part_mem
    exact List.mem_of_mem_head? (Option.mem_toList.mp part_mem)
  | custom id => exact List.nil_subset _

/-- Below the level of the parts limited data have the payloads that the data have. -/
theorem payloadsAt_limitPayloads (limit : PayloadLimit) {data : AuditData} {level : Nat}
    (lt_level : data.partLevel < level) (keep : String → Bool) :
    (data.limitPayloads limit.run).toValue.payloadsAt keep level =
      data.toValue.payloadsAt keep level := by
  cases data with
  | request r =>
    obtain ⟨level, rfl⟩ : ∃ k, level = k + 3 := Nat.exists_eq_add_of_le' lt_level
    have parts_eq : (Value.list (limit.run r.parts)).payloadsAt keep (level + 2) =
        (Value.list r.parts).payloadsAt keep (level + 2) :=
      PayloadLimit.flatMap_run (fun _ ↦ rfl) limit r.parts
    simp only [limitPayloads, toValue, Value.payloadsAt, Request.fields, List.cons_append,
      List.nil_append, Fields.keeping, List.filter_cons]
    split
    · simp only [List.flatMap_cons, parts_eq]
    · rfl
  | response r =>
    obtain ⟨level, rfl⟩ : ∃ k, level = k + 2 := Nat.exists_eq_add_of_le' lt_level
    have head_eq : ((limit.run r.toList).head?.getD .null).payloadsAt keep (level + 1) =
        (r.getD .null).payloadsAt keep (level + 1) := limit.head_run (fun _ ↦ rfl) rfl r
    simp only [limitPayloads, toValue, Value.payloadsAt, Response.fields, Fields.keeping,
      List.filter_cons]
    split
    · simp only [List.flatMap_cons, head_eq, List.filter_nil]
    · rfl
  | custom id => rfl

variable {data : AuditData} (measures : limit.Measures data.parts)

include measures

/-- Down to the level of the parts no payload of limited data is longer than the limit. -/
theorem length_le_of_mem_payloadsAt {keep : String → Bool} {level : Nat}
    (level_le : level ≤ data.partLevel) {payload : List UInt8}
    (payload_mem : payload ∈ (data.limitPayloads limit.run).toValue.payloadsAt keep level) :
    payload.length ≤ limit.limit := by
  rw [← data.partLevel_limitPayloads limit.run] at level_le
  obtain ⟨part, part_mem, payload_eq⟩ := exists_part_of_mem_payloadsAt level_le payload_mem
  exact measures.length_payload_le (data.parts_limitPayloads_subset limit part_mem) payload_eq

/-- The integers of limited data have 64 bits if those of the data have. -/
theorem intsFit_limitPayloads (fits : data.toValue.IntsFit) :
    (data.limitPayloads limit.run).toValue.IntsFit := by
  cases data with
  | request r =>
    refine ⟨Value.itemsFit_iff.mpr fun part part_mem ↦ ?_, fits.2⟩
    exact measures.intsFit part_mem (Value.itemsFit_iff.mp fits.1)
  | response r =>
    refine ⟨?_, trivial⟩
    have parts_fit : ∀ value ∈ r.toList, value.IntsFit := by
      intro value value_mem
      cases Option.mem_toList.mp value_mem
      exact fits.1
    cases head_eq : (limit.run r.toList).head? with
    | none => trivial
    | some value => exact measures.intsFit (List.mem_of_mem_head? head_eq) parts_fit
  | custom id => trivial

end AuditData

/-! ## The bound -/

/-- The sizer that counts bytes measures everything at its length. -/
theorem PayloadLimit.measures_of_counting {limit : PayloadLimit}
    (counting : limit.sizer = .counting) (values : List Value) : limit.Measures values := by
  rw [Measures, counting]
  generalize 0 = n
  induction values generalizing n with
  | nil => exact ⟨[], rfl, .nil⟩
  | cons value rest ih =>
    cases payload_eq : value.payload? with
    | none =>
      obtain ⟨sizes, sizes_eq, covers⟩ := ih n
      refine ⟨none :: sizes, ?_, .cons ?_ covers⟩
      · simp only [measureFrom, payload_eq, sizes_eq]
        rfl
      · intro payload some_eq
        cases payload_eq.symm.trans some_eq
    | some payload =>
      obtain ⟨sizes, sizes_eq, covers⟩ := ih (n + 1)
      refine ⟨some payload.length :: sizes, ?_, .cons ?_ covers⟩
      · simp only [measureFrom, payload_eq, PayloadSizer.counting, sizes_eq]
        rfl
      · intro other some_eq
        cases payload_eq.symm.trans some_eq
        exact ⟨payload.length, rfl, fun _ longer ↦ longer⟩

namespace RenderSettings

/-- **Payloads of parts are bounded.**  If no measurement among the parts fails and, under the
policy that keeps what does not exceed the limit, no payload over the limit is taken for one that
does not exceed it, the text of the first tier is a document of the limited data, and no payload
that is read in it as a part of the request or as the response object is longer than the limit.
Payloads below the parts are those of the data before they were limited, whatever their length. -/
theorem length_part_payload_le (settings : RenderSettings) (objects : ObjectTable)
    (data : AuditData) {serialized : Serialized} (measures : settings.limit.Measures data.parts)
    (fits : data.toValue.IntsFit) (objects_fit : objects.IntsFit)
    (serialized_eq : settings.serialize? objects data = some serialized)
    (tier_eq : serialized.tier = .structured) :
    let limited := (data.limitPayloads settings.limit.run).toValue
    ∃ document, Json.parse? serialized.text = some document ∧
      settings.RepresentedBy objects 0 [] limited document ∧
      (∀ level ≤ data.partLevel,
        ∀ payload ∈ limited.payloadsReadAt settings.filter.includes level document,
          payload.length ≤ settings.limit.limit) ∧
      ∀ level > data.partLevel, limited.payloadsAt settings.filter.includes level =
        data.toValue.payloadsAt settings.filter.includes level := by
  intro limited
  have text_eq := (serialize?_eq_some_iff.mp serialized_eq).text
  rw [tier_eq, attempt?] at text_eq
  obtain ⟨document, document_eq, render_eq⟩ := structuredText?_eq_ok.mp text_eq
  have represented := representedBy_iff_document.mpr document_eq
  refine ⟨document, ?_, represented, ?_, ?_⟩
  · rw [← render_eq]
    exact Json.parse?_render (isReadable_of_representedBy objects_fit represented
      (AuditData.intsFit_limitPayloads measures fits))
  · intro level level_le payload payload_mem
    exact AuditData.length_le_of_mem_payloadsAt measures level_le
      (payloadsReadAt_subset represented payload_mem)
  · intro level lt_level
    exact AuditData.payloadsAt_limitPayloads settings.limit lt_level _

/-- The request with some parts and nothing else. -/
def requestOf (parts : List Value) : AuditData :=
  .request { parts, method := none, uri := none, headers := [], attachments := [] }

/-- Under the policy that drops what does not exceed the limit, a part that is measured beyond it is
replaced and a long one that is taken for empty is left out.  What stands in a list is left as it
is. -/
theorem length_part_payload_le_cut :
    let settings : RenderSettings :=
      { limit := ⟨1, .drop, fun n payload ↦ .ok (if n = 0 then payload.length else 0)⟩ }
    let data := requestOf [.bytes [1, 2], .bytes [3, 4, 5], .list [.bytes [6, 7]]]
    let limited := (data.limitPayloads settings.limit.run).toValue
    settings.limit.Measures data.parts ∧
      ∃ serialized, settings.serialize? ringObjects data = some serialized ∧
        serialized.tier = .structured ∧ ∃ document,
          Json.parse? serialized.text = some document ∧
          (∀ payload ∈ limited.payloadsReadAt settings.filter.includes 2 document,
            payload.length ≤ 1) ∧
          limited.payloadsAt settings.filter.includes 3 = [[6, 7]] := by
  intro settings data limited
  have measures : settings.limit.Measures data.parts := by
    refine ⟨[some 2, some 0, none], rfl, .cons ?_ (.cons ?_ (.cons ?_ .nil))⟩
    · exact fun _ _ ↦ ⟨2, rfl, nofun⟩
    · exact fun _ _ ↦ ⟨0, rfl, nofun⟩
    · exact fun _ payload_eq ↦ nomatch payload_eq
  have fits : data.toValue.IntsFit :=
    ⟨⟨trivial, trivial, ⟨trivial, trivial⟩, trivial⟩, trivial, trivial⟩
  have objects_fit : ringObjects.IntsFit := by
    rintro id _ ⟨⟩
    exact ⟨trivial, trivial, trivial, trivial⟩
  have serialized_eq : settings.serialize? ringObjects data =
      some ⟨Json.render (.obj [("request", .arr [.str "AA==", .arr [.str "Bgc="]]),
        ("headers", .obj [])]), .structured, []⟩ := by decide +kernel
  obtain ⟨document, parse_eq, -, bounded, below⟩ := length_part_payload_le settings ringObjects
    data measures fits objects_fit serialized_eq rfl
  exact ⟨measures, _, serialized_eq, rfl, document, parse_eq, bounded 2 (Nat.le_refl 2),
    below 3 (Nat.lt_succ_self 2)⟩

/-- A payload longer than the limit is read in the document that the first tier makes of some
data. -/
def ShowsExcess (settings : RenderSettings) (objects : ObjectTable) (data : AuditData) : Prop :=
  ∃ serialized document, settings.serialize? objects data = some serialized ∧
    serialized.tier = .structured ∧ Json.parse? serialized.text = some document ∧
    ∃ level, ∃ payload ∈ (data.limitPayloads settings.limit.run).toValue.payloadsReadAt
      settings.filter.includes level document, settings.limit.limit < payload.length

/-- The bound does not reach below the parts, and a sizer that takes payloads for shorter than they
are lets them pass: in both cases a payload of two bytes is shown under a limit of one byte. -/
theorem showsExcess_nested_and_unmeasured :
    let counting : RenderSettings := { limit := .ofBytes 1 }
    let short : RenderSettings := { limit := ⟨1, .passThrough, fun _ _ ↦ .ok 0⟩ }
    (counting.limit.Measures [.list [.bytes [1, 2]]] ∧
      counting.ShowsExcess ringObjects (requestOf [.list [.bytes [1, 2]]])) ∧
    PayloadLimit.measureFrom short.limit.sizer 0 [.bytes [1, 2]] = .ok [some 0] ∧
      short.ShowsExcess ringObjects (requestOf [.bytes [1, 2]]) := by
  intro counting short
  have read (document : Json) (readable : document.IsReadable) :=
    Json.parse?_render readable
  refine ⟨⟨PayloadLimit.measures_of_counting rfl _, ?_⟩, rfl, ?_⟩
  · refine ⟨⟨_, .structured, []⟩, .obj [("request", .arr [.arr [.str "AQI="]]),
      ("headers", .obj [])], by decide +kernel, rfl, read _ ?_, 3, [1, 2], ?_, by decide⟩
    · exact ⟨⟨⟨trivial, trivial⟩, trivial⟩, trivial, trivial⟩
    · decide +kernel
  · refine ⟨⟨_, .structured, []⟩, .obj [("request", .arr [.str "AQI="]), ("headers", .obj [])],
      by decide +kernel, rfl, read _ ?_, 2, [1, 2], ?_, by decide⟩
    · exact ⟨⟨trivial, trivial⟩, trivial, trivial⟩
    · decide +kernel

end RenderSettings

end AuditTrail
