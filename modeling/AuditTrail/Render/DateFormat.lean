import AuditTrail.Time.PatternText

/-!
# Date formats

A date format is a text that is known to be a date pattern.
-/

namespace AuditTrail

open Time (Pattern)

/-- A text and the date pattern that it writes. -/
structure DateFormat where
  text : String
  pattern : Pattern
  parses : Pattern.parse? text = some pattern
  deriving DecidableEq

namespace DateFormat

/-- The date format that a text writes. -/
def parse? (text : String) : Option DateFormat :=
  match parses : Pattern.parse? text with
  | some pattern => some ⟨text, pattern, parses⟩
  | none => none

theorem isSome_parse? (text : String) : (parse? text).isSome = (Pattern.parse? text).isSome := by
  unfold parse?
  split <;> simp_all

/-- Milliseconds and a numeric offset. -/
def standardText : String :=
  "%Y-%m-%dT%H:%M:%S%.3f%z"

/-- The format of an application that says nothing about it. -/
def standard : DateFormat where
  text := standardText
  pattern := [.zeros .year, .literal ['-'], .zeros .month, .literal ['-'], .zeros .day,
    .literal ['T'], .zeros .hour, .literal [':'], .zeros .minute, .literal [':'], .zeros .second,
    .named (.fractionDigits 3), .named .offset]
  parses := by decide +kernel

end DateFormat

end AuditTrail
