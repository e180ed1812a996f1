import AuditTrail.Render.DateFormat
import AuditTrail.Render.FieldFilter
import AuditTrail.Render.PayloadLimit
import AuditTrail.Fault

/-!
# Render settings

What every record is rendered with, and the ways in which rendering fails.
-/

namespace AuditTrail

/-- The depth limit of an application that says nothing about it. -/
def defaultMaxDepth : Nat :=
  64

/-- The settings that records are rendered with. -/
structure RenderSettings where
  filter : FieldFilter := .standard
  limit : PayloadLimit := .ofBytes defaultPayloadLimit
  dateFormat : DateFormat := .standard
  /-- Values nested deeper than this are null. -/
  maxDepth : Nat := defaultMaxDepth

/-- Why something has no rendering. -/
inductive RenderError where
  | structured (reason : String)
  | customText (typeName : String)
  | noCustomText (typeName : String)
  | dateFormat (format : String)
  deriving DecidableEq, Repr

namespace RenderError

/-- The message of a rendering error. -/
def message : RenderError → String
  | structured reason => "structured rendering failed: " ++ reason
  | customText typeName => "custom text rendering of " ++ typeName ++ " failed"
  | noCustomText typeName => typeName ++ " has no custom text representation"
  | dateFormat format => "invalid date format '" ++ format ++ "'"

/-- A rendering error as the cause of something else; the reason of a structured one stands behind
it. -/
def toCause : RenderError → Cause
  | structured reason => ⟨(structured reason).message, [reason]⟩
  | error => .root error.message

@[simp] theorem message_toCause (error : RenderError) : error.toCause.message = error.message := by
  cases error <;> rfl

end RenderError

end AuditTrail
