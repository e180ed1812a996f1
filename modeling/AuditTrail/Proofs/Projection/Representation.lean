import AuditTrail.Proofs.Projection.Obstacle

/-!
# What documents represent

When a document represents a value is said here without an order in which anything is done: by how
deep the value is and which objects it lies in, and for each kind of value by itself.  An object is
represented by its fields wherever it is met, unless it lies in itself, and what else has been
represented before makes no difference.

The projection of a value is the only document that represents it.
-/

namespace AuditTrail.RenderSettings

mutual

/-- At some depth, inside of the objects of a path, a value is represented by a document. -/
inductive RepresentedBy (settings : RenderSettings) (objects : ObjectTable) :
    (depth : Nat) → (path : List ObjectId) → Value → Json → Prop
  | tooDeep {depth path value} : settings.maxDepth < depth →
      RepresentedBy settings objects depth path value .null
  | node {depth path value j} : depth ≤ settings.maxDepth →
      NodeRepresentedBy settings objects depth path value j →
      RepresentedBy settings objects depth path value j

/-- A value that does not lie too deep is represented by a document. -/
inductive NodeRepresentedBy (settings : RenderSettings) (objects : ObjectTable) :
    (depth : Nat) → (path : List ObjectId) → Value → Json → Prop
  | null {depth path} : NodeRepresentedBy settings objects depth path .null .null
  | bool {depth path} (b) : NodeRepresentedBy settings objects depth path (.bool b) (.bool b)
  | int {depth path} (n) : NodeRepresentedBy settings objects depth path (.int n) (.int n)
  | float {depth path x} : x.isFinite = true →
      NodeRepresentedBy settings objects depth path (.float x) (.float x)
  | notFinite {depth path x} : x.isFinite = false →
      NodeRepresentedBy settings objects depth path (.float x) .null
  | text {depth path} (s) : NodeRepresentedBy settings objects depth path (.text s) (.str s)
  | bytes {depth path data s} : Text.Base64.decode? s = some data →
      NodeRepresentedBy settings objects depth path (.bytes data) (.str s)
  | timestamp {depth path t s} : settings.dateFormat.pattern.text? t = some s →
      NodeRepresentedBy settings objects depth path (.timestamp t) (.str s)
  | list {depth path items documents} :
      ItemsRepresentedBy settings objects (depth + 1) path items documents →
      NodeRepresentedBy settings objects depth path (.list items) (.arr documents)
  | map {depth path entries members} :
      FieldsRepresentedBy settings objects (depth + 1) path entries members →
      NodeRepresentedBy settings objects depth path (.map entries) (.obj members)
  | record {depth path typeName fields members} :
      FieldsRepresentedBy settings objects (depth + 1) path fields members →
      NodeRepresentedBy settings objects depth path (.record typeName fields) (.obj members)
  /-- The object lies in itself. -/
  | ancestor {depth path id} : id ∈ path →
      NodeRepresentedBy settings objects depth path (.object id) .null
  | object {depth path id fields members} : id ∉ path → (objects id).fields = .ok fields →
      FieldsRepresentedBy settings objects (depth + 1) (id :: path) fields members →
      NodeRepresentedBy settings objects depth path (.object id) (.obj members)

/-- Values are represented by documents one by one. -/
inductive ItemsRepresentedBy (settings : RenderSettings) (objects : ObjectTable) :
    (depth : Nat) → (path : List ObjectId) → List Value → List Json → Prop
  | nil {depth path} : ItemsRepresentedBy settings objects depth path [] []
  | cons {depth path item j items documents} :
      RepresentedBy settings objects depth path item j →
      ItemsRepresentedBy settings objects depth path items documents →
      ItemsRepresentedBy settings objects depth path (item :: items) (j :: documents)

/-- Fields are represented by the members of an object: those that are excluded by none, all others
in order, each under its own name. -/
inductive FieldsRepresentedBy (settings : RenderSettings) (objects : ObjectTable) :
    (depth : Nat) → (path : List ObjectId) → Fields → List (String × Json) → Prop
  | nil {depth path} : FieldsRepresentedBy settings objects depth path [] []
  | excluded {depth path name value fields members} : settings.filter.includes name = false →
      FieldsRepresentedBy settings objects depth path fields members →
      FieldsRepresentedBy settings objects depth path ((name, value) :: fields) members
  | included {depth path name value j fields members} : settings.filter.includes name = true →
      RepresentedBy settings objects depth path value j →
      FieldsRepresentedBy settings objects depth path fields members →
      FieldsRepresentedBy settings objects depth path ((name, value) :: fields)
        ((name, j) :: members)

end

/-! ## The projection -/

variable {settings : RenderSettings} {objects : ObjectTable} {depth : Nat} {path : List ObjectId}

section Lists

variable {document : Value → Except Obstacle Json}
  (representedBy_iff : ∀ value j,
    settings.RepresentedBy objects depth path value j ↔ document value = .ok j)

include representedBy_iff

theorem itemsRepresentedBy_iff {items : List Value} {documents : List Json} :
    settings.ItemsRepresentedBy objects depth path items documents ↔
      items.mapM document = .ok documents := by
  induction items generalizing documents with
  | nil =>
    constructor
    · rintro ⟨⟩
      rfl
    · rintro ⟨⟩
      exact .nil
  | cons item rest ih =>
    rw [List.mapM_cons, bind_eq_ok]
    constructor
    · rintro (_ | ⟨item_by, rest_by⟩)
      refine ⟨_, (representedBy_iff _ _).mp item_by, ?_⟩
      rw [ih.mp rest_by]
      rfl
    · rintro ⟨j, item_eq, tail_eq⟩
      obtain ⟨documents, rest_eq, ⟨⟩⟩ := bind_eq_ok.mp tail_eq
      exact .cons ((representedBy_iff _ _).mpr item_eq) (ih.mpr rest_eq)

theorem fieldsRepresentedBy_iff {fields : Fields} {members : List (String × Json)} :
    settings.FieldsRepresentedBy objects depth path fields members ↔
      settings.fieldDocuments document fields = .ok (.obj members) := by
  rw [fieldDocuments, bind_eq_ok]
  suffices members_iff : settings.FieldsRepresentedBy objects depth path fields members ↔
      ((fields.keeping settings.filter.includes).mapM fun field ↦
        return (field.1, ← document field.2)) = .ok members by
    constructor
    · exact fun fields_by ↦ ⟨members, members_iff.mp fields_by, rfl⟩
    · rintro ⟨_, members_eq, ⟨⟩⟩
      exact members_iff.mpr members_eq
  induction fields generalizing members with
  | nil =>
    constructor
    · rintro ⟨⟩
      rfl
    · rintro ⟨⟩
      exact .nil
  | cons field rest ih =>
    obtain ⟨name, value⟩ := field
    cases keeps : settings.filter.includes name with
    | false =>
      rw [Fields.keeping_cons_of_excluded keeps]
      constructor
      · rintro (_ | ⟨_, rest_by⟩ | ⟨included, _, _⟩)
        · exact ih.mp rest_by
        · cases keeps.symm.trans included
      · exact fun rest_eq ↦ .excluded keeps (ih.mpr rest_eq)
    | true =>
      rw [Fields.keeping_cons_of_kept keeps, List.mapM_cons, bind_eq_ok]
      constructor
      · rintro (_ | ⟨excluded, _⟩ | ⟨_, value_by, rest_by⟩)
        · cases keeps.symm.trans excluded
        · refine ⟨_, bind_eq_ok.mpr ⟨_, (representedBy_iff _ _).mp value_by, rfl⟩, ?_⟩
          exact bind_eq_ok.mpr ⟨_, ih.mp rest_by, rfl⟩
      · rintro ⟨member, member_eq, tail_eq⟩
        obtain ⟨j, value_eq, ⟨⟩⟩ := bind_eq_ok.mp member_eq
        obtain ⟨members, rest_eq, ⟨⟩⟩ := bind_eq_ok.mp tail_eq
        exact .included keeps ((representedBy_iff _ _).mpr value_eq) (ih.mpr rest_eq)

end Lists

theorem exists_of_fieldDocuments {document : Value → Except Obstacle Json} {fields : Fields}
    {j : Json} (fields_eq : settings.fieldDocuments document fields = .ok j) :
    ∃ members, j = .obj members := by
  obtain ⟨members, -, ⟨⟩⟩ := bind_eq_ok.mp fields_eq
  exact ⟨members, rfl⟩

theorem timestampDocument_eq_ok {t : Timestamp} {j : Json} :
    settings.timestampDocument t = .ok j ↔
      ∃ s, settings.dateFormat.pattern.text? t = some s ∧ j = .str s := by
  rw [timestampDocument]
  constructor
  · intro document_eq
    split at document_eq <;> cases document_eq
    next s text_eq => exact ⟨s, text_eq, rfl⟩
  · rintro ⟨s, text_eq, rfl⟩
    rw [text_eq]

section Node

variable {room : Nat} (held : ∀ {path value j},
    settings.RepresentedBy objects (depth + 1) path value j ↔
      settings.project objects room path value = .ok j)

include held

/-- What represents a value with some room is its projection, if that is so of what it holds. -/
theorem project_of_nodeRepresentedBy {value : Value} {j : Json}
    (node_by : settings.NodeRepresentedBy objects depth path value j) :
    settings.project objects (room + 1) path value = .ok j := by
  cases node_by with
  | null | bool | int | text => rfl
  | float finite => rw [project, if_pos finite]
  | notFinite infinite => rw [project, if_neg (infinite ▸ Bool.false_ne_true)]
  | bytes decode_eq => rw [project, Text.Base64.decode?_eq_some_iff.mp decode_eq]
  | timestamp text_eq => exact timestampDocument_eq_ok.mpr ⟨_, text_eq, rfl⟩
  | list items_by =>
    exact bind_eq_ok.mpr ⟨_, (itemsRepresentedBy_iff fun _ _ ↦ held).mp items_by, rfl⟩
  | map entries_by => exact (fieldsRepresentedBy_iff fun _ _ ↦ held).mp entries_by
  | record fields_by => exact (fieldsRepresentedBy_iff fun _ _ ↦ held).mp fields_by
  | ancestor id_mem => rw [project, if_pos id_mem]
  | object not_mem fields_eq fields_by =>
    rw [project, if_neg not_mem, fields_eq]
    exact (fieldsRepresentedBy_iff fun _ _ ↦ held).mp fields_by

/-- The projection of a value with some room represents it, if that is so of what it holds. -/
theorem nodeRepresentedBy_of_project {value : Value} {j : Json}
    (project_eq : settings.project objects (room + 1) path value = .ok j) :
    settings.NodeRepresentedBy objects depth path value j := by
  cases value with
  | null =>
    cases project_eq
    exact .null
  | bool b =>
    cases project_eq
    exact .bool b
  | int n =>
    cases project_eq
    exact .int n
  | float x =>
    cases finite : x.isFinite with
    | true =>
      rw [project, if_pos finite] at project_eq
      cases project_eq
      exact .float finite
    | false =>
      rw [project, if_neg (finite ▸ Bool.false_ne_true)] at project_eq
      cases project_eq
      exact .notFinite finite
  | text s =>
    cases project_eq
    exact .text s
  | bytes data =>
    cases project_eq
    exact .bytes (Text.Base64.decode?_encode data)
  | timestamp t =>
    obtain ⟨s, text_eq, rfl⟩ := timestampDocument_eq_ok.mp project_eq
    exact .timestamp text_eq
  | list items =>
    obtain ⟨documents, items_eq, ⟨⟩⟩ := bind_eq_ok.mp project_eq
    exact .list ((itemsRepresentedBy_iff fun _ _ ↦ held).mpr items_eq)
  | map entries =>
    obtain ⟨members, rfl⟩ := exists_of_fieldDocuments project_eq
    exact .map ((fieldsRepresentedBy_iff fun _ _ ↦ held).mpr project_eq)
  | record typeName fields =>
    obtain ⟨members, rfl⟩ := exists_of_fieldDocuments project_eq
    exact .record ((fieldsRepresentedBy_iff fun _ _ ↦ held).mpr project_eq)
  | object id =>
    by_cases id_mem : id ∈ path
    · rw [project, if_pos id_mem] at project_eq
      cases project_eq
      exact .ancestor id_mem
    · rw [project, if_neg id_mem] at project_eq
      split at project_eq
      next fields fields_eq =>
        obtain ⟨members, rfl⟩ := exists_of_fieldDocuments project_eq
        exact .object id_mem fields_eq ((fieldsRepresentedBy_iff fun _ _ ↦ held).mpr project_eq)
      next => cases project_eq

end Node

/-- A document represents a value if and only if it is the projection of the value with what room
there is. -/
theorem representedBy_iff {room : Nat} (room_eq : settings.maxDepth + 1 - depth = room)
    {value : Value} {j : Json} :
    settings.RepresentedBy objects depth path value j ↔
      settings.project objects room path value = .ok j := by
  -- What a value holds has one level less of room and lies one level deeper.
  induction room generalizing depth path value j with
  | zero =>
    constructor
    · rintro (_ | ⟨shallow, _⟩)
      · rfl
      · omega
    · rintro ⟨⟩
      exact .tooDeep (by omega)
  | succ room ih =>
    constructor
    · rintro (deep | ⟨_, node_by⟩)
      · omega
      · exact project_of_nodeRepresentedBy (ih (by omega)) node_by
    · exact fun project_eq ↦
        .node (by omega) (nodeRepresentedBy_of_project (ih (by omega)) project_eq)

/-- The document of a value is the only one that represents it outside of all objects. -/
theorem representedBy_iff_document {value : Value} {j : Json} :
    settings.RepresentedBy objects 0 [] value j ↔ settings.document objects value = .ok j :=
  representedBy_iff rfl

end AuditTrail.RenderSettings
