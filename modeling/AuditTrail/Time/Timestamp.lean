import AuditTrail.Time.Calendar

/-!
# Timestamps

An instant with the offset from UTC at which it is shown. A leap second is the second before it
with a thousand million nanoseconds or more.
-/

namespace AuditTrail

open Time (Date)

/-- A point in time, in seconds from 1970-01-01 UTC and nanoseconds. -/
structure Instant where
  seconds : Int
  nanos : Nat
  deriving DecidableEq, Repr, Inhabited

/-- An instant that is shown at an offset in seconds. -/
structure Timestamp where
  seconds : Int
  nanos : Nat
  offset : Int
  deriving DecidableEq, Repr

/-- An instant shown in UTC. -/
def Instant.utc (instant : Instant) : Timestamp :=
  ⟨instant.seconds, instant.nanos, 0⟩

namespace Timestamp

/-- The instant, wherever it is shown. -/
def instant (t : Timestamp) : Instant :=
  ⟨t.seconds, t.nanos⟩

@[simp] theorem instant_utc (instant : Instant) : instant.utc.instant = instant := rfl

/-- Seconds from 1970-01-01 on the clock that the timestamp is shown by. -/
def localSeconds (t : Timestamp) : Int :=
  t.seconds + t.offset

/-- The date that is shown. -/
def date (t : Timestamp) : Date :=
  Date.ofDays (t.localSeconds / 86400)

/-- Seconds from midnight on the clock that is shown. -/
def secondOfDay (t : Timestamp) : Nat :=
  (t.localSeconds % 86400).toNat

/-- The hour that is shown. -/
def hour (t : Timestamp) : Nat :=
  t.secondOfDay / 3600

/-- The hour that is shown on a clock of twelve hours. -/
def hour12 (t : Timestamp) : Nat :=
  (t.hour + 11) % 12 + 1

/-- The hour that is shown is past noon. -/
def isAfternoon (t : Timestamp) : Bool :=
  12 ≤ t.hour

/-- The minute that is shown. -/
def minute (t : Timestamp) : Nat :=
  t.secondOfDay / 60 % 60

/-- The second that is shown; a leap second counts one more than the second before it. -/
def second (t : Timestamp) : Nat :=
  t.secondOfDay % 60 + t.nanos / 1000000000

/-- Nanoseconds of the second that is shown. -/
def subsecond (t : Timestamp) : Nat :=
  t.nanos % 1000000000

end Timestamp

end AuditTrail
