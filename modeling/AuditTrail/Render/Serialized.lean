import AuditTrail.AuditData
import AuditTrail.Json.ErrorText
import AuditTrail.Json.Printer
import AuditTrail.Render.Projection

/-!
# Serialized data

Data become text by the first of three tiers that succeeds: a filtered document, the text that the
data write for themselves, and a flat dump of their description, which always succeeds. Payloads
are limited before. The failures of earlier tiers are kept, so that they can be reported.
-/

namespace AuditTrail

/-- The ways to render data, from the richest to the most robust. -/
inductive Tier where
  | structured
  | customText
  | fieldDump
  deriving DecidableEq, Repr, Inhabited

namespace Tier

/-- All tiers, in the order in which they are tried. -/
def all : List Tier :=
  [structured, customText, fieldDump]

/-- The name of a tier. -/
def name : Tier → String
  | structured => "structured"
  | customText => "custom_text"
  | fieldDump => "field_dump"

end Tier

/-- A tier that failed on the way to the text. -/
structure TierFailure where
  tier : Tier
  typeName : String
  error : RenderError
  deriving DecidableEq, Repr

namespace TierFailure

/-- The line that names what failed and what is tried next. -/
def message (failure : TierFailure) : String :=
  match failure.tier with
  | .structured =>
    "Error occurred on JSON rendering of " ++ failure.typeName ++ ", falling back to custom text"
  | .customText | .fieldDump =>
    "Error occurred on custom text rendering of " ++ failure.typeName ++
      ", falling back to field dump"

/-- The line with the error. -/
def text (failure : TierFailure) : String :=
  failure.message ++ ": " ++ failure.error.message

end TierFailure

/-- The text of some data. -/
structure Serialized where
  text : String
  tier : Tier
  /-- Failures of earlier tiers, in order. -/
  failures : List TierFailure
  deriving DecidableEq, Repr

/-- The text is not the filtered document. -/
def Serialized.isFallback (serialized : Serialized) : Bool :=
  serialized.tier != .structured

namespace RenderSettings

/-- The text of the first tier, or why it has none. Without an answer the date format has no text
for a timestamp that is met. -/
def structuredText? (settings : RenderSettings) (objects : ObjectTable) (value : Value) :
    Option (Except RenderError String) :=
  match settings.document objects value with
  | .ok document => some (.ok document.render)
  | .error (.fields typeName reason) =>
    some (.error (.structured (Json.errorText (typeName ++ ": " ++ reason))))
  | .error .timestamp => none

/-- The text of the second tier, or why it has none. -/
def customText (settings : RenderSettings) (objects : ObjectTable) (data : AuditData) :
    Except RenderError String :=
  match data.ownText objects settings.filter.includes with
  | some ⟨_, false⟩ => .error (.customText (data.typeName objects))
  | some ⟨text, true⟩ =>
    if text = "" then .error (.noCustomText (data.typeName objects)) else .ok text
  | none => .error (.noCustomText (data.typeName objects))

/-- The document of the third tier: every described entry as a text. -/
def dumpDocument (settings : RenderSettings) (objects : ObjectTable) (data : AuditData) : Json :=
  .obj ((data.describe objects settings.filter.includes).map fun entry ↦ (entry.1, .str entry.2))

/-- The text of the third tier. -/
def fieldDump (settings : RenderSettings) (objects : ObjectTable) (data : AuditData) : String :=
  (settings.dumpDocument objects data).render

/-- What comes after a failure of the first tier. -/
def fallback (settings : RenderSettings) (objects : ObjectTable) (data : AuditData)
    (error : RenderError) : Serialized :=
  let first : TierFailure := ⟨.structured, data.typeName objects, error⟩
  match settings.customText objects data with
  | .ok text => ⟨text, .customText, [first]⟩
  | .error error =>
    ⟨settings.fieldDump objects data, .fieldDump,
      [first, ⟨.customText, data.typeName objects, error⟩]⟩

/-- The text of data without a limit on payloads. -/
def serializeUnlimited? (settings : RenderSettings) (objects : ObjectTable) (data : AuditData) :
    Option Serialized :=
  (settings.structuredText? objects data.toValue).map fun
    | .ok text => ⟨text, .structured, []⟩
    | .error error => settings.fallback objects data error

/-- The text of data. Without an answer the date format has no text for a timestamp that is met. -/
def serialize? (settings : RenderSettings) (objects : ObjectTable) (data : AuditData) :
    Option Serialized :=
  settings.serializeUnlimited? objects (data.limitPayloads settings.limit.run)

/-- The diagnostics of serializing data. -/
def serializeLogs (settings : RenderSettings) : AuditData → List Log.Event
  | .request request => settings.limit.logs request.parts
  | .response response => settings.limit.logs response.toList
  | .custom _ => []

end RenderSettings

end AuditTrail
