import AuditTrail.Proofs.Json.ErrorText
import AuditTrail.Proofs.Projection.Reach
import AuditTrail.Proofs.Serialize.Structured
import AuditTrail.Proofs.Serialize.Tiers

/-!
# Failures of the first tier

Under a date format that has a text for every timestamp, the first tier fails at objects only: at
the first one that the value leads to and that does not expose its fields.  What the value does not
lead to, because a name is excluded, because it lies too deep or because it lies in itself, may be
in any state.

The error names the type of the object and what the object says, and this text is shown like all
messages of document errors: a place that it ends with is written anew, and left out if it is on
line zero.
-/

namespace AuditTrail.RenderSettings

variable {settings : RenderSettings} {objects : ObjectTable} {value : Value}

theorem structuredText?_eq_error_iff (total : settings.dateFormat.IsTotal) {error : RenderError} :
    settings.structuredText? objects value = some (.error error) ↔
      ∃ address id reason, settings.FailsFirst objects 0 [] value address id reason ∧
        error = .structured (Json.errorText ((objects id).typeName ++ ": " ++ reason)) := by
  have room_eq : settings.maxDepth + 1 - 0 = settings.maxDepth + 1 := rfl
  have document_iff (obstacle : Obstacle) :
      settings.document objects value = .error obstacle ↔
        ∃ address id reason, settings.FailsFirst objects 0 [] value address id reason ∧
          obstacle = .fields (objects id).typeName reason :=
    project_eq_error_iff_failsFirst total room_eq
  rw [structuredText?]
  constructor
  · intro error_eq
    split at error_eq <;> cases error_eq
    next typeName reason document_eq =>
      obtain ⟨address, id, reason, fails, ⟨⟩⟩ := (document_iff _).mp document_eq
      exact ⟨address, id, reason, fails, rfl⟩
  · rintro ⟨address, id, reason, fails, rfl⟩
    rw [(document_iff _).mpr ⟨address, id, reason, fails, rfl⟩]

theorem exists_structuredText?_eq_ok_iff (total : settings.dateFormat.IsTotal) :
    (∃ text, settings.structuredText? objects value = some (.ok text)) ↔
      ∀ address id, settings.Reaches objects 0 [] value address id →
        ∃ fields, (objects id).fields = .ok fields := by
  rw [← exists_project_eq_ok_iff_reaches total rfl]
  constructor
  · rintro ⟨text, text_eq⟩
    obtain ⟨document, document_eq, -⟩ := structuredText?_eq_ok.mp text_eq
    exact ⟨document, document_eq⟩
  · rintro ⟨document, document_eq⟩
    exact ⟨document.render, structuredText?_eq_ok.mpr ⟨document, document_eq, rfl⟩⟩

/-- **The first tier fails at the first object that fails.**  It has a text if and only if all
objects that the value leads to expose their fields, and otherwise the error is that of the object
with the least address among those that do not.  Objects that the value does not lead to make no
difference.  The error shows the type of the object and what the object says as they are, unless
this text ends with a place that is shown otherwise. -/
theorem structuredText_failsFirst (settings : RenderSettings) (objects : ObjectTable)
    (value : Value) (total : settings.dateFormat.IsTotal) :
    ((∃ text, settings.structuredText? objects value = some (.ok text)) ↔
      ∀ address id, settings.Reaches objects 0 [] value address id →
        ∃ fields, (objects id).fields = .ok fields) ∧
    (∀ error, settings.structuredText? objects value = some (.error error) ↔
      ∃ address id reason, settings.FailsFirst objects 0 [] value address id reason ∧
        error = .structured (Json.errorText ((objects id).typeName ++ ": " ++ reason))) ∧
    (∀ others : ObjectTable,
      (∀ address id, settings.Reaches objects 0 [] value address id →
        (others id).fields = (objects id).fields ∧ (others id).typeName = (objects id).typeName) →
      settings.structuredText? others value = settings.structuredText? objects value) ∧
    ∀ address id reason, settings.FailsFirst objects 0 [] value address id reason →
      (settings.structuredText? objects value =
          some (.error (.structured ((objects id).typeName ++ ": " ++ reason))) ↔
        ¬ Json.LosesPlace ((objects id).typeName ++ ": " ++ reason)) := by
  refine ⟨exists_structuredText?_eq_ok_iff total, fun error ↦ structuredText?_eq_error_iff total,
    fun others same ↦ ?_, fun address id reason fails ↦ ?_⟩
  · have document_eq : settings.document others value = settings.document objects value :=
      project_congr rfl same
    rw [structuredText?, structuredText?, document_eq]
  · have error_eq := (structuredText?_eq_error_iff total).mpr ⟨address, id, reason, fails, rfl⟩
    rw [error_eq, Option.some_inj, Except.error.injEq, RenderError.structured.injEq,
      Json.errorText_eq_self_iff]

/-- A link that is whole and leads to one that is broken, whose message ends with a place on line
zero. -/
def brokenLinks : ObjectTable := fun id ↦
  { typeName := "Link"
    fields :=
      if id.index = 0 then .ok [("logger", .object ⟨2⟩), ("next", .object ⟨1⟩)]
      else .error "gone at line 0 column 3"
    hook := none
    description := [] }

/-- The broken link behind the excluded name does not count, and the place is left out. -/
theorem brokenLinks_lose_place :
    DateFormat.standard.IsTotal ∧
      ({} : RenderSettings).structuredText? brokenLinks (.list [.null, .object ⟨0⟩]) =
        some (.error (.structured "Link: gone")) ∧
      ∃ address id reason, ({} : RenderSettings).FailsFirst brokenLinks 0 []
          (.list [.null, .object ⟨0⟩]) address id reason ∧
        Json.LosesPlace ((brokenLinks id).typeName ++ ": " ++ reason) := by
  have total : DateFormat.standard.IsTotal := DateFormat.isTotal_iff.mpr (by decide)
  obtain ⟨-, error_iff, -, -⟩ :=
    structuredText_failsFirst {} brokenLinks (.list [.null, .object ⟨0⟩]) total
  have text_eq : ({} : RenderSettings).structuredText? brokenLinks (.list [.null, .object ⟨0⟩]) =
      some (.error (.structured "Link: gone")) := by decide +kernel
  obtain ⟨address, id, reason, fails, -⟩ := (error_iff _).mp text_eq
  refine ⟨total, text_eq, address, id, reason, fails, ?_⟩
  have reason_eq : reason = "gone at line 0 column 3" := by
    have fields_eq := fails.fields_eq
    simp only [brokenLinks] at fields_eq
    split at fields_eq <;> cases fields_eq
    rfl
  have message_eq :
      (brokenLinks id).typeName ++ ": " ++ reason = "Link: gone at line 0 column 3" := by
    rw [reason_eq]
    rfl
  rw [message_eq]
  exact ⟨"Link: gone".toList, " at line 0 column 3".toList, ⟨0, 3⟩, by decide +kernel,
    by decide +kernel, .inl rfl⟩

end AuditTrail.RenderSettings
