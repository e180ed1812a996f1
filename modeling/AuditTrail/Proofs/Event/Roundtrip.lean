import AuditTrail.Event
import AuditTrail.Proofs.Event.Identifier
import AuditTrail.Proofs.Json.Roundtrip
import AuditTrail.Proofs.Time.Rfc3339

/-!
# Events read back

An event that is written as a document is read back from the text of the document.  The texts of an
event may be any, and so may its identifier and its category.  Of the instants those are read back
that a timestamp can have, and every event that is read has one of these.
-/

namespace AuditTrail.AuditEvent

/-- The document of an event holds texts and nothing else. -/
theorem isReadable_toJson (event : AuditEvent) : Json.IsReadable event.toJson := by
  rcases event with ⟨id, occurredAt, category, activity, audited, correlationId⟩
  cases correlationId <;> simp [toJson, Json.IsReadable, Json.MembersAreReadable]

/-- The parts of an event are read as they are written. -/
theorem ofParts?_written {event : AuditEvent} (representable : event.occurredAt.IsRepresentable) :
    ofParts? (.str event.id.text) (.str event.occurredAt.utc.rfc3339Utc)
      (.str event.category.name) (.str event.activity) (.str event.audited)
      (event.correlationId.map Json.str) = some event := by
  have id_eq := Uuid.parse?_text event.id
  have instant_eq := Timestamp.parse?_rfc3339Utc representable
  have category_eq := EventCategory.ofName?_name event.category
  have correlation_eq : optionalText? ((event.correlationId.map Json.str).getD .null) =
      some event.correlationId := by
    cases event.correlationId <;> rfl
  simp [ofParts?, Json.text?, Json.variant?, id_eq, instant_eq, category_eq, correlation_eq]

theorem get?_toJson_correlationId (event : AuditEvent) :
    event.toJson.get? "correlation_id" = event.correlationId.map Json.str := by
  cases eq : event.correlationId <;> simp [toJson, Json.get?, eq]

/-- The document of an event is read as the event. -/
theorem ofJson?_toJson {event : AuditEvent} (representable : event.occurredAt.IsRepresentable) :
    ofJson? event.toJson = some event := by
  rw [← ofParts?_written representable, ← get?_toJson_correlationId]
  simp [ofJson?, toJson, Json.get?]

/-! ## Instants of events -/

theorem isRepresentable_of_ofParts? {id occurredAt category activity audited : Json}
    {correlationId : Option Json} {event : AuditEvent}
    (parts_eq : ofParts? id occurredAt category activity audited correlationId = some event) :
    event.occurredAt.IsRepresentable := by
  rw [ofParts?] at parts_eq
  obtain ⟨id, -, parts_eq⟩ := Option.bind_eq_some_iff.mp parts_eq
  obtain ⟨t, instant_eq, parts_eq⟩ := Option.bind_eq_some_iff.mp parts_eq
  obtain ⟨category, -, parts_eq⟩ := Option.bind_eq_some_iff.mp parts_eq
  obtain ⟨activity, -, parts_eq⟩ := Option.bind_eq_some_iff.mp parts_eq
  obtain ⟨audited, -, parts_eq⟩ := Option.bind_eq_some_iff.mp parts_eq
  obtain ⟨correlationId, -, parts_eq⟩ := Option.bind_eq_some_iff.mp parts_eq
  cases parts_eq
  obtain ⟨s, -, parse_eq⟩ := Option.bind_eq_some_iff.mp instant_eq
  exact Timestamp.isRepresentable_of_parse? parse_eq

/-- Every event that is read from a document has an instant that can be written and read back. -/
theorem isRepresentable_of_ofJson? {document : Json} {event : AuditEvent}
    (event_eq : ofJson? document = some event) : event.occurredAt.IsRepresentable := by
  unfold ofJson? at event_eq
  split at event_eq
  next => exact isRepresentable_of_ofParts? event_eq
  next => exact isRepresentable_of_ofParts? event_eq
  next =>
    obtain ⟨id, -, event_eq⟩ := Option.bind_eq_some_iff.mp event_eq
    obtain ⟨occurredAt, -, event_eq⟩ := Option.bind_eq_some_iff.mp event_eq
    obtain ⟨category, -, event_eq⟩ := Option.bind_eq_some_iff.mp event_eq
    obtain ⟨activity, -, event_eq⟩ := Option.bind_eq_some_iff.mp event_eq
    obtain ⟨audited, -, event_eq⟩ := Option.bind_eq_some_iff.mp event_eq
    exact isRepresentable_of_ofParts? event_eq
  next => cases event_eq

/-! ## Events -/

/-- **Events are read back.**  The text of the document of an event is read as the event if and only
if its instant is one that a timestamp can have, whatever its identifier, its category and its texts
are.  The text is always that of an object, and the correlation identifier is a member of it exactly
when the event has one. -/
theorem reads_back_iff (event : AuditEvent) :
    ((Json.parse? event.toJson.render).bind ofJson? = some event ↔
      event.occurredAt.IsRepresentable) ∧
    ∃ members, Json.parse? event.toJson.render = some (.obj members) ∧
      ∀ value, ("correlation_id", value) ∈ members ↔
        ∃ s, event.correlationId = some s ∧ value = .str s := by
  have parse_eq := Json.parse?_render (isReadable_toJson event)
  constructor
  · rw [parse_eq, Option.bind_some]
    exact ⟨isRepresentable_of_ofJson?, ofJson?_toJson⟩
  · refine ⟨_, parse_eq, fun value ↦ ?_⟩
    cases event.correlationId <;> simp

/-- A leap second at the end of the year before the year zero, among texts with escapes. -/
def leapSecondEvent : AuditEvent where
  id := ⟨0x0123456789abcdef0123456789abcdef#128⟩
  occurredAt := ⟨-62167219201, 1000000001⟩
  category := .serviceAudit
  activity := "say \"hello\"\n"
  audited := "Gr\u00fc\u00dfe"
  correlationId := some "request-7"

theorem reads_back_leapSecondEvent :
    leapSecondEvent.id.text = "01234567-89ab-cdef-0123-456789abcdef" ∧
    leapSecondEvent.occurredAt.utc.rfc3339Utc = "-0001-12-31T23:59:60.000000001Z" ∧
    leapSecondEvent.occurredAt.IsRepresentable ∧
    (Json.parse? leapSecondEvent.toJson.render).bind ofJson? = some leapSecondEvent := by
  have representable : leapSecondEvent.occurredAt.IsRepresentable :=
    ⟨by decide, by decide, by decide, fun _ ↦ by decide⟩
  exact ⟨by decide +kernel, by decide +kernel, representable,
    (reads_back_iff leapSecondEvent).1.mpr representable⟩

end AuditTrail.AuditEvent
