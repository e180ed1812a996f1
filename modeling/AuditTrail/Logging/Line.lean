import AuditTrail.Json.Printer
import AuditTrail.Log
import AuditTrail.Logging.Config
import AuditTrail.Text.Utf8
import AuditTrail.Time.Rfc3339

/-!
# Log lines

An event as a line of text or as a document. Lines begin with the time in UTC, exact to the
microsecond. What could steer a terminal is escaped in messages.
-/

namespace AuditTrail.Log

/-- The time of an event. -/
def timeText (time : Instant) : String :=
  let t := time.utc
  String.ofList <|
    t.dateChars ++ 'T' :: t.clockChars ++ '.' :: Numeral.padded 6 (t.subsecond / 1000) ++ ['Z']

/-- How a character stands in the message of a line. -/
def messageChar (c : Char) : List Char :=
  if c ∈ ['\x07', '\x08', '\x0c', '\x1b', '\x7f'] then
    ['\\', 'x', Nat.digitChar (c.toNat / 16), Nat.digitChar (c.toNat % 16)]
  else if 0x80 ≤ c.toNat ∧ c.toNat < 0xa0 then
    ['\\', 'u', '\x7b'] ++ Text.hexDigits c.toNat ++ ['\x7d']
  else [c]

/-- The value of a field in a line. -/
def FieldValue.lineText : FieldValue → String
  | quoted s => Text.quote s
  | value => value.text

namespace Event

/-- An event as a line, without its end. -/
def line (time : Instant) (event : Event) : String :=
  timeText time ++ " " ++ "".pushn ' ' (5 - event.level.name.length) ++ event.level.name ++ " " ++
    event.target ++ ": " ++ " ".intercalate
      (String.ofList (event.message.toList.flatMap messageChar) ::
        event.fields.map fun field ↦ field.1 ++ "=" ++ field.2.lineText)

/-- The document of the value of a field. -/
def fieldJson : FieldValue → Json
  | .number n => .int n
  | value => .str value.text

/-- An event as a document. -/
def document (time : Instant) (event : Event) : Json :=
  .obj [("timestamp", .str (timeText time)), ("level", .str event.level.name),
    ("fields", .obj (("message", .str event.message) ::
      event.fields.map fun field ↦ (field.1, fieldJson field.2))),
    ("target", .str event.target)]

/-- What is written to a file for an event. -/
def written (format : Format) (time : Instant) (event : Event) : List UInt8 :=
  Text.Utf8.ofString <|
    (match format with
      | .json => (event.document time).render
      | .pretty | .compact => event.line time) ++ "\n"

end Event

end AuditTrail.Log
