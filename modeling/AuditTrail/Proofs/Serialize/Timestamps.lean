import AuditTrail.Proofs.Serialize.Structured
import AuditTrail.Proofs.Serialize.Tiers
import AuditTrail.Proofs.Time.Specifier

/-!
# Date formats that fail

A text is taken as a date format if all of its specifiers can be read.  One of them, the lenient
offset, can be read and not written, and under a format that has it the first tier breaks off at the
first timestamp that it meets: there is neither a text nor an error.

So a value without objects has a text in the first tier if and only if its format does not have this
specifier or no timestamp is met.
-/

namespace AuditTrail

/-! ## Timestamps that are met -/

/-- The timestamps of a value that has `room` levels for itself and what it holds, behind names that
pass.  Those of objects do not count. -/
def Value.timestampsWithin (keep : String → Bool) : (room : Nat) → Value → List Timestamp
  | _ + 1, timestamp t => [t]
  | room + 1, list items => items.flatMap (timestampsWithin keep room)
  | room + 1, map entries =>
    (Fields.keeping keep entries).flatMap fun field ↦ timestampsWithin keep room field.2
  | room + 1, record _ fields =>
    (Fields.keeping keep fields).flatMap fun field ↦ timestampsWithin keep room field.2
  | _, _ => []

/-- The text of a format goes on with the specifier of the lenient offset after a text that is
itself read as a pattern. -/
def DateFormat.HasLenientOffset (format : DateFormat) : Prop :=
  ∃ before after, format.text.toList = before ++ '%' :: '#' :: 'z' :: after ∧
    ∃ read, Time.Pattern.ofChars? before = some read

/-- A format has a text for a timestamp unless it has the lenient offset. -/
theorem DateFormat.exists_text?_iff {format : DateFormat} {t : Timestamp} :
    (∃ s, format.pattern.text? t = some s) ↔ ¬ format.HasLenientOffset := by
  have chars_eq : Time.Pattern.ofChars? format.text.toList = some format.pattern := by
    have parses := format.parses
    rw [Time.Pattern.parse?] at parses
    split at parses
    · cases parses
    · exact parses
  rw [Time.Pattern.exists_text?_iff, Time.Pattern.lenient_mem_iff chars_eq, HasLenientOffset]

/-- A traversal succeeds if and only if it succeeds at every element. -/
theorem exists_mapM_eq_ok_iff {α β ε : Type} {f : α → Except ε β} {l : List α} :
    (∃ bs, l.mapM f = .ok bs) ↔ ∀ a ∈ l, ∃ b, f a = .ok b := by
  induction l with
  | nil => exact ⟨fun _ ↦ List.forall_mem_nil _, fun _ ↦ ⟨[], rfl⟩⟩
  | cons a rest ih =>
    rw [List.forall_mem_cons, ← ih, List.mapM_cons]
    constructor
    · rintro ⟨bs, cons_eq⟩
      obtain ⟨b, a_eq, cons_eq⟩ := bind_eq_ok.mp cons_eq
      obtain ⟨bs, rest_eq, -⟩ := bind_eq_ok.mp cons_eq
      exact ⟨⟨b, a_eq⟩, bs, rest_eq⟩
    · rintro ⟨⟨b, a_eq⟩, bs, rest_eq⟩
      exact ⟨b :: bs, bind_eq_ok.mpr ⟨b, a_eq, bind_eq_ok.mpr ⟨bs, rest_eq, rfl⟩⟩⟩

namespace RenderSettings

variable {settings : RenderSettings} {objects : ObjectTable}

theorem exists_fieldDocuments_eq_ok_iff {document : Value → Except Obstacle Json}
    {fields : Fields} :
    (∃ j, settings.fieldDocuments document fields = .ok j) ↔
      ∀ field ∈ fields.keeping settings.filter.includes, ∃ j, document field.2 = .ok j := by
  have member_iff (field : String × Value) :
      (∃ member : String × Json, (do return (field.1, ← document field.2)) = Except.ok member) ↔
        ∃ j, document field.2 = .ok j := by
    constructor
    · rintro ⟨member, member_eq⟩
      obtain ⟨j, j_eq, -⟩ := bind_eq_ok.mp member_eq
      exact ⟨j, j_eq⟩
    · rintro ⟨j, j_eq⟩
      exact ⟨(field.1, j), bind_eq_ok.mpr ⟨j, j_eq, rfl⟩⟩
  simp only [← member_iff, ← exists_mapM_eq_ok_iff]
  constructor
  · rintro ⟨j, j_eq⟩
    obtain ⟨members, members_eq, -⟩ := bind_eq_ok.mp j_eq
    exact ⟨members, members_eq⟩
  · rintro ⟨members, members_eq⟩
    exact ⟨.obj members, bind_eq_ok.mpr ⟨members, members_eq, rfl⟩⟩

end RenderSettings

/-! ## Values that show no object -/

namespace Value

variable {keep : String → Bool}

theorem shownItems_eq_nil_iff {items : List Value} :
    shownItems keep items = [] ↔ ∀ item ∈ items, item.shown keep = [] := by
  induction items with
  | nil => exact ⟨fun _ ↦ List.forall_mem_nil _, fun _ ↦ rfl⟩
  | cons item rest ih => rw [shownItems, List.append_eq_nil_iff, ih, List.forall_mem_cons]

theorem shownFields_eq_nil_iff {fields : Fields} :
    shownFields keep fields = [] ↔ ∀ field ∈ fields.keeping keep, field.2.shown keep = [] := by
  induction fields with
  | nil => exact ⟨fun _ ↦ List.forall_mem_nil _, fun _ ↦ rfl⟩
  | cons field rest ih =>
    rw [shownFields]
    cases kept : keep field.1 with
    | true =>
      rw [if_pos rfl, List.append_eq_nil_iff, ih, Fields.keeping_cons_of_kept kept,
        List.forall_mem_cons]
    | false => rw [if_neg Bool.false_ne_true, ih, Fields.keeping_cons_of_excluded kept]

end Value

namespace RenderSettings

variable {settings : RenderSettings} {objects : ObjectTable} {path : List ObjectId} {value : Value}

/-- A value that shows no object fails at no object. -/
theorem project_ne_fields {room : Nat} (none_shown : value.shown settings.filter.includes = [])
    (typeName reason : String) :
    settings.project objects room path value ≠ .error (.fields typeName reason) := by
  induction room generalizing value with
  | zero => rintro ⟨⟩
  | succ room ih =>
    cases value with
    | timestamp t =>
      rw [project, timestampDocument]
      split <;> rintro ⟨⟩
    | list items =>
      have items_shown := Value.shownItems_eq_nil_iff.mp none_shown
      rw [project]
      intro failed
      rcases bind_eq_error failed with items_eq | ⟨documents, -, failed⟩
      · obtain ⟨item, item_mem, failed⟩ := exists_of_mapM_eq_error items_eq
        exact ih (items_shown item item_mem) failed
      · cases failed
    | map entries =>
      have entries_shown := Value.shownFields_eq_nil_iff.mp none_shown
      exact fieldDocuments_ne_error fun field field_mem ↦ ih (entries_shown field field_mem)
    | record _ fields =>
      have fields_shown := Value.shownFields_eq_nil_iff.mp none_shown
      exact fieldDocuments_ne_error fun field field_mem ↦ ih (fields_shown field field_mem)
    | object id => cases none_shown
    | null | bool | int | float | text | bytes => rintro ⟨⟩

/-- A value that shows no object has a document if and only if all timestamps that are met have a
text. -/
theorem exists_project_eq_ok_iff {room : Nat}
    (none_shown : value.shown settings.filter.includes = []) :
    (∃ j, settings.project objects room path value = .ok j) ↔
      ∀ t ∈ value.timestampsWithin settings.filter.includes room,
        ∃ s, settings.dateFormat.pattern.text? t = some s := by
  induction room generalizing value with
  | zero => exact ⟨fun _ ↦ List.forall_mem_nil _, fun _ ↦ ⟨.null, rfl⟩⟩
  | succ room ih =>
    have in_fields {fields : Fields}
        (fields_shown : Value.shownFields settings.filter.includes fields = []) :
        (∃ j, settings.fieldDocuments (settings.project objects room path) fields = .ok j) ↔
          ∀ t ∈ (fields.keeping settings.filter.includes).flatMap fun field ↦
            field.2.timestampsWithin settings.filter.includes room,
            ∃ s, settings.dateFormat.pattern.text? t = some s := by
      rw [exists_fieldDocuments_eq_ok_iff, List.forall_mem_flatMap]
      exact forall₂_congr fun field field_mem ↦
        ih (Value.shownFields_eq_nil_iff.mp fields_shown field field_mem)
    cases value with
    | timestamp t =>
      rw [Value.timestampsWithin, List.forall_mem_singleton]
      constructor
      · rintro ⟨j, j_eq⟩
        obtain ⟨s, text_eq, -⟩ := timestampDocument_eq_ok.mp j_eq
        exact ⟨s, text_eq⟩
      · rintro ⟨s, text_eq⟩
        exact ⟨.str s, timestampDocument_eq_ok.mpr ⟨s, text_eq, rfl⟩⟩
    | list items =>
      have items_shown := Value.shownItems_eq_nil_iff.mp none_shown
      rw [Value.timestampsWithin, List.forall_mem_flatMap, ← forall₂_congr fun item item_mem ↦
        ih (items_shown item item_mem), ← exists_mapM_eq_ok_iff]
      constructor
      · rintro ⟨j, j_eq⟩
        obtain ⟨documents, items_eq, -⟩ := bind_eq_ok.mp j_eq
        exact ⟨documents, items_eq⟩
      · rintro ⟨documents, items_eq⟩
        exact ⟨.arr documents, bind_eq_ok.mpr ⟨documents, items_eq, rfl⟩⟩
    | map entries => exact in_fields none_shown
    | record _ fields => exact in_fields none_shown
    | object id => cases none_shown
    | null | bool | int | float | text | bytes =>
      exact ⟨fun _ ↦ List.forall_mem_nil _, fun _ ↦ ⟨_, rfl⟩⟩

/-- **Date formats that cannot be written.**  A value that shows no object has a text in the first
tier unless the date format has the lenient offset and a timestamp is met, whatever its instant and
its offset are.  Then the first tier breaks off, without a text and without an error. -/
theorem structuredText_of_date_format (settings : RenderSettings) (objects : ObjectTable)
    (value : Value) (none_shown : value.shown settings.filter.includes = []) :
    let breaks := settings.dateFormat.HasLenientOffset ∧
      value.timestampsWithin settings.filter.includes (settings.maxDepth + 1) ≠ []
    ((∃ text, settings.structuredText? objects value = some (.ok text)) ↔ ¬ breaks) ∧
      (settings.structuredText? objects value = none ↔ breaks) := by
  intro breaks
  have document_iff : (∃ document, settings.document objects value = .ok document) ↔ ¬ breaks := by
    rw [document, exists_project_eq_ok_iff none_shown, not_and, not_not,
      List.eq_nil_iff_forall_not_mem]
    simp only [DateFormat.exists_text?_iff]
    constructor
    · intro texts lenient t t_mem
      exact texts t t_mem lenient
    · intro none_met t t_mem lenient
      exact none_met lenient t t_mem
  cases document_eq : settings.document objects value with
  | ok document =>
    have not_breaks := document_iff.mp ⟨document, document_eq⟩
    have text_eq : settings.structuredText? objects value = some (.ok document.render) := by
      rw [structuredText?, document_eq]
    rw [text_eq]
    exact ⟨⟨fun _ ↦ not_breaks, fun _ ↦ ⟨_, rfl⟩⟩, ⟨by rintro ⟨⟩, fun h ↦ absurd h not_breaks⟩⟩
  | error obstacle =>
    have is_broken : breaks := by
      by_contra not_breaks
      obtain ⟨document, ok_eq⟩ := document_iff.mpr not_breaks
      cases document_eq.symm.trans ok_eq
    have text_eq : settings.structuredText? objects value = none := by
      cases obstacle with
      | fields typeName reason => exact absurd document_eq (project_ne_fields none_shown _ _)
      | timestamp => rw [structuredText?, document_eq]
    rw [text_eq]
    exact ⟨⟨by rintro ⟨_, ⟨⟩⟩, fun h ↦ absurd is_broken h⟩, ⟨fun _ ↦ is_broken, fun _ ↦ rfl⟩⟩

/-- The date format of the lenient offset alone. -/
def lenientFormat : DateFormat where
  text := "%#z"
  pattern := [.named .offsetLenient]
  parses := by decide +kernel

/-- The lenient offset alone is taken as a date format, and the first tier breaks off at the start
of the year 1970. -/
theorem lenientFormat_breaks :
    let settings : RenderSettings := { dateFormat := lenientFormat }
    let value : Value := .list [.null, .timestamp ⟨0, 0, 0⟩]
    DateFormat.parse? "%#z" = some lenientFormat ∧ value.shown settings.filter.includes = [] ∧
      settings.structuredText? ringObjects value = none := by
  intro settings value
  have lenient : lenientFormat.HasLenientOffset :=
    ⟨[], [], by decide, [], by rw [Time.Pattern.ofChars?]⟩
  have met : value.timestampsWithin settings.filter.includes (settings.maxDepth + 1) ≠ [] := by
    decide
  exact ⟨by decide +kernel, rfl,
    (structuredText_of_date_format settings ringObjects value rfl).2.mpr ⟨lenient, met⟩⟩

end RenderSettings

end AuditTrail
