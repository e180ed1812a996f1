import AuditTrail.Proofs.Json.Roundtrip
import AuditTrail.Proofs.Projection.Representation
import AuditTrail.Proofs.Projection.Walk
import AuditTrail.Render.Serialized

/-!
# The text of the first tier

The text of the first tier is read back as the one document that represents the value, and there is
a text whenever there is such a document.  Nothing is lost between the document and its text if the
integers of the value and of the objects have 64 bits: a float that is no number has been made null
before.
-/

namespace AuditTrail

/-! ## Integers of 64 bits -/

namespace Value

mutual

/-- Whether every integer in the tree of a value has 64 bits. -/
def IntsFit : Value → Prop
  | int n => -2 ^ 63 ≤ n ∧ n < 2 ^ 63
  | list items => ItemsFit items
  | map entries => FieldsFit entries
  | record _ fields => FieldsFit fields
  | _ => True

/-- Whether every integer in the items of a list has 64 bits. -/
def ItemsFit : List Value → Prop
  | [] => True
  | item :: rest => IntsFit item ∧ ItemsFit rest

/-- Whether every integer in some fields has 64 bits. -/
def FieldsFit : List (String × Value) → Prop
  | [] => True
  | (_, value) :: rest => IntsFit value ∧ FieldsFit rest

end

end Value

/-- Whether every integer that the fields of objects show has 64 bits. -/
def ObjectTable.IntsFit (objects : ObjectTable) : Prop :=
  ∀ id fields, (objects id).fields = .ok fields → Value.FieldsFit fields

namespace RenderSettings

variable {settings : RenderSettings} {objects : ObjectTable}

mutual

/-- What represents a value can be read back. -/
theorem isReadable_of_representedBy (objects_fit : objects.IntsFit) :
    ∀ {depth path value j}, settings.RepresentedBy objects depth path value j →
      value.IntsFit → j.IsReadable
  | _, _, _, _, .tooDeep _, _ => trivial
  | _, _, _, _, .node _ node_by, fits => isReadable_of_nodeRepresentedBy objects_fit node_by fits

theorem isReadable_of_nodeRepresentedBy (objects_fit : objects.IntsFit) :
    ∀ {depth path value j}, settings.NodeRepresentedBy objects depth path value j →
      value.IntsFit → j.IsReadable
  | _, _, _, _, .null, _ | _, _, _, _, .bool _, _ | _, _, _, _, .text _, _
  | _, _, _, _, .bytes _, _ | _, _, _, _, .timestamp _, _ | _, _, _, _, .notFinite _, _
  | _, _, _, _, .ancestor _, _ => trivial
  | _, _, _, _, .int _, fits => ⟨fits.1, fits.2.trans (by decide)⟩
  | _, _, _, _, .float finite, _ => finite
  | _, _, _, _, .list items_by, fits => itemsAreReadable_of_representedBy objects_fit items_by fits
  | _, _, _, _, .map entries_by, fits =>
    membersAreReadable_of_representedBy objects_fit entries_by fits
  | _, _, _, _, .record fields_by, fits =>
    membersAreReadable_of_representedBy objects_fit fields_by fits
  | _, _, _, _, .object _ fields_eq fields_by, _ =>
    membersAreReadable_of_representedBy objects_fit fields_by (objects_fit _ _ fields_eq)

theorem itemsAreReadable_of_representedBy (objects_fit : objects.IntsFit) :
    ∀ {depth path items documents}, settings.ItemsRepresentedBy objects depth path items documents →
      Value.ItemsFit items → Json.ItemsAreReadable documents
  | _, _, _, _, .nil, _ => trivial
  | _, _, _, _, .cons item_by rest_by, fits =>
    ⟨isReadable_of_representedBy objects_fit item_by fits.1,
      itemsAreReadable_of_representedBy objects_fit rest_by fits.2⟩

theorem membersAreReadable_of_representedBy (objects_fit : objects.IntsFit) :
    ∀ {depth path fields members},
      settings.FieldsRepresentedBy objects depth path fields members →
      Value.FieldsFit fields → Json.MembersAreReadable members
  | _, _, _, _, .nil, _ => trivial
  | _, _, _, _, .excluded _ rest_by, fits =>
    membersAreReadable_of_representedBy objects_fit rest_by fits.2
  | _, _, _, _, .included _ value_by rest_by, fits =>
    ⟨isReadable_of_representedBy objects_fit value_by fits.1,
      membersAreReadable_of_representedBy objects_fit rest_by fits.2⟩

end

theorem structuredText?_eq_ok {value : Value} {text : String} :
    settings.structuredText? objects value = some (.ok text) ↔
      ∃ document, settings.document objects value = .ok document ∧ document.render = text := by
  rw [structuredText?]
  constructor
  · intro text_eq
    split at text_eq <;> cases text_eq
    next document document_eq => exact ⟨document, document_eq, rfl⟩
  · rintro ⟨document, document_eq, rfl⟩
    rw [document_eq]

/-- **The text of the first tier is the projection.**  A value has a text in the first tier if a
document represents it.  The text is read as a document, with its members in order and with those
that share a name, and this is the one document that represents the value.  It is also what the walk
comes to that keeps the objects it is inside of on a stack which all of its steps share, and the
walk leaves them all. -/
theorem structuredText_represents (settings : RenderSettings) {objects : ObjectTable}
    {value : Value} (fits : value.IntsFit) (objects_fit : objects.IntsFit) :
    (∀ text, settings.structuredText? objects value = some (.ok text) →
      ∃ document, Json.parse? text = some document ∧
        (∀ other, settings.RepresentedBy objects 0 [] value other ↔ other = document) ∧
        ∃ after, settings.walk objects objects.source (settings.maxDepth + 2) 0 [] value {} =
            some (.ok document, after) ∧ after.visiting = []) ∧
      ∀ document, settings.RepresentedBy objects 0 [] value document →
        ∃ text, settings.structuredText? objects value = some (.ok text) := by
  constructor
  · intro text text_eq
    obtain ⟨document, document_eq, rfl⟩ := structuredText?_eq_ok.mp text_eq
    have represented_iff (other : Json) :
        settings.RepresentedBy objects 0 [] value other ↔ other = document := by
      rw [representedBy_iff_document, document_eq, Except.ok.injEq, eq_comm]
    have readable : document.IsReadable :=
      isReadable_of_representedBy objects_fit ((represented_iff document).mpr rfl) fits
    obtain ⟨result, after, walk_eq, gives, sound⟩ :=
      exists_walk settings objects objects.source value
    have result_eq : result = .ok document := (gives.eq_expected rfl).trans document_eq
    exact ⟨document, Json.parse?_render readable, represented_iff, after, result_eq ▸ walk_eq,
      sound.visiting⟩
  · intro document represented
    exact ⟨document.render,
      structuredText?_eq_ok.mpr ⟨document, representedBy_iff_document.mp represented, rfl⟩⟩

/-- Two links that lead to each other and have an excluded name. -/
def ringObjects : ObjectTable := fun id ↦
  let (name, next) := if id.index = 0 then ("a", 1) else ("b", 0)
  { typeName := "Link"
    fields := .ok [("name", .text name), ("Logger", .text "console"), ("next", .object ⟨next⟩)]
    hook := none
    description := [] }

/-- The document of the first link of a ring. -/
def ringDocument : Json :=
  .obj [("name", .str "a"), ("next", .obj [("name", .str "b"), ("next", .null)])]

/-- Each link is written out wherever it does not lie in itself. -/
theorem ring_represented :
    let ring : Value := .list [.object ⟨0⟩, .object ⟨0⟩]
    ring.IntsFit ∧ ringObjects.IntsFit ∧
      ∃ text, ({} : RenderSettings).structuredText? ringObjects ring = some (.ok text) ∧
        Json.parse? text = some (.arr [ringDocument, ringDocument]) := by
  intro ring
  have fits : ring.IntsFit := ⟨trivial, trivial, trivial⟩
  have objects_fit : ringObjects.IntsFit := by
    rintro id _ ⟨⟩
    exact ⟨trivial, trivial, trivial, trivial⟩
  have excluded : FieldFilter.standard.includes "Logger" = false := by decide +kernel
  have name : FieldFilter.standard.includes "name" = true := by decide +kernel
  have next : FieldFilter.standard.includes "next" = true := by decide +kernel
  have inner : ({} : RenderSettings).RepresentedBy ringObjects 2 [⟨0⟩] (.object ⟨1⟩)
      (.obj [("name", .str "b"), ("next", .null)]) :=
    .node (by decide) (.object (by decide) rfl
      (.included name (.node (by decide) (.text "b"))
        (.excluded excluded (.included next (.node (by decide) (.ancestor (by decide))) .nil))))
  have outer : ({} : RenderSettings).RepresentedBy ringObjects 1 [] (.object ⟨0⟩) ringDocument :=
    .node (by decide) (.object (by decide) rfl
      (.included name (.node (by decide) (.text "a"))
        (.excluded excluded (.included next inner .nil))))
  have represented : ({} : RenderSettings).RepresentedBy ringObjects 0 [] ring
      (.arr [ringDocument, ringDocument]) :=
    .node (by decide) (.list (.cons outer (.cons outer .nil)))
  obtain ⟨is_read, has_text⟩ := structuredText_represents {} fits objects_fit
  obtain ⟨text, text_eq⟩ := has_text _ represented
  obtain ⟨document, parse_eq, represented_iff, -⟩ := is_read text text_eq
  rw [← (represented_iff _).mp represented] at parse_eq
  exact ⟨fits, objects_fit, text, text_eq, parse_eq⟩

end RenderSettings

end AuditTrail
