import AuditTrail.Render.Serialized

/-!
# When a record has a text

A record has a text in one of three tiers, with one exception: a date pattern that can only be read
has no text for a timestamp, and then there is no record at all.  A date format that has a text for
every timestamp rules this out, whatever the values and objects are.
-/

namespace AuditTrail

/-- A date format that has a text for every timestamp. -/
def DateFormat.IsTotal (format : DateFormat) : Prop :=
  ∀ t, ∃ s, format.pattern.text? t = some s

/-! ## Computations that may fail -/

/-- Of two steps that fail together, the first one fails or the second one does. -/
theorem bind_eq_error {α β ε : Type} {x : Except ε α} {f : α → Except ε β} {e : ε}
    (h : x >>= f = .error e) : x = .error e ∨ ∃ a, x = .ok a ∧ f a = .error e := by
  cases x with
  | error e' =>
    cases h
    exact Or.inl rfl
  | ok a => exact Or.inr ⟨a, rfl, h⟩

/-- Two steps succeed together if both of them do. -/
theorem bind_eq_ok {α β ε : Type} {x : Except ε α} {f : α → Except ε β} {b : β} :
    x >>= f = .ok b ↔ ∃ a, x = .ok a ∧ f a = .ok b := by
  cases x with
  | error e => exact ⟨nofun, nofun⟩
  | ok a =>
    constructor
    · exact fun h ↦ ⟨a, rfl, h⟩
    · rintro ⟨_, ⟨⟩, h⟩
      exact h

/-- A traversal that fails has failed at one of the elements. -/
theorem exists_of_mapM_eq_error {α β ε : Type} {f : α → Except ε β} {e : ε} {l : List α}
    (h : l.mapM f = .error e) : ∃ a ∈ l, f a = .error e := by
  induction l with
  | nil => cases h
  | cons a rest ih =>
    rw [List.mapM_cons] at h
    rcases bind_eq_error h with head_eq | ⟨b, -, h⟩
    · exact ⟨a, List.mem_cons_self, head_eq⟩
    · rcases bind_eq_error h with rest_eq | ⟨bs, -, h⟩
      · obtain ⟨a', a'_mem, failed⟩ := ih rest_eq
        exact ⟨a', List.mem_cons_of_mem a a'_mem, failed⟩
      · cases h

/-! ## Timestamps -/

namespace RenderSettings

variable {settings : RenderSettings}

/-- Fields have no obstacle that none of the kept values has. -/
theorem fieldDocuments_ne_error {document : Value → Except Obstacle Json} {obstacle : Obstacle}
    {fields : Fields} (ne : ∀ field ∈ fields.keeping settings.filter.includes,
      document field.2 ≠ .error obstacle) :
    settings.fieldDocuments document fields ≠ .error obstacle := by
  intro h
  rcases bind_eq_error h with members_eq | ⟨members, -, h⟩
  · obtain ⟨field, field_mem, failed⟩ := exists_of_mapM_eq_error members_eq
    rcases bind_eq_error failed with value_eq | ⟨j, -, h⟩
    · exact ne field field_mem value_eq
    · cases h
  · cases h

/-- Under a total date format no value fails at a timestamp. -/
theorem project_ne_timestamp (total : settings.dateFormat.IsTotal) (objects : ObjectTable)
    (room : Nat) (path : List ObjectId) (value : Value) :
    settings.project objects room path value ≠ .error .timestamp := by
  induction room generalizing path value with
  | zero => exact nofun
  | succ room ih =>
    cases value with
    | timestamp t =>
      obtain ⟨s, s_eq⟩ := total t
      rw [project, timestampDocument, s_eq]
      exact nofun
    | list items =>
      rw [project]
      intro h
      rcases bind_eq_error h with items_eq | ⟨documents, -, h⟩
      · obtain ⟨item, -, failed⟩ := exists_of_mapM_eq_error items_eq
        exact ih path item failed
      · cases h
    | map entries =>
      rw [project]
      exact fieldDocuments_ne_error fun field _ ↦ ih path field.2
    | record typeName fields =>
      rw [project]
      exact fieldDocuments_ne_error fun field _ ↦ ih path field.2
    | object id =>
      rw [project]
      split
      · exact nofun
      · split
        · exact fieldDocuments_ne_error fun field _ ↦ ih (id :: path) field.2
        · exact nofun
    | null | bool | int | float | text | bytes => exact nofun

/-- Under a total date format every record has a text. -/
theorem isSome_serialize? (total : settings.dateFormat.IsTotal) (objects : ObjectTable)
    (data : AuditData) : (settings.serialize? objects data).isSome := by
  rw [serialize?, serializeUnlimited?, Option.isSome_map, structuredText?]
  split
  · rfl
  · rfl
  next timestamp_eq => exact absurd timestamp_eq (project_ne_timestamp total objects _ _ _)

end RenderSettings

end AuditTrail
