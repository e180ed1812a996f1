import AuditTrail.Time.Pattern
import AuditTrail.Time.Rfc3339

/-!
# Timestamps under a pattern

Every item of a pattern has a text for every timestamp, with one exception: the lenient offset can
only be read.
-/

namespace AuditTrail.Time

open Numeral (padded)

/-- Names of the days of the week, from Monday. -/
def weekdayNames : List String :=
  ["Monday", "Tuesday", "Wednesday", "Thursday", "Friday", "Saturday", "Sunday"]

/-- Names of the months. -/
def monthNames : List String :=
  ["January", "February", "March", "April", "May", "June", "July", "August", "September", "October",
    "November", "December"]

/-- A name of a list, by its place. -/
def nameAt (names : List String) (place : Nat) : List Char :=
  (names.getD place "").toList

/-- Digits that are filled up on the left to a width, behind a sign for zeros and before it for
spaces. -/
def Padding.fill (padding : Padding) (width : Nat) (sign digits : List Char) : List Char :=
  let missing := width - (sign.length + digits.length)
  match padding with
  | .none => sign ++ digits
  | .zero => sign ++ List.replicate missing '0' ++ digits
  | .space => List.replicate missing ' ' ++ sign ++ digits

/-- Two digits of a number below 100. A number up to 255 counts its tens on beyond the digit nine
in the order of the characters. -/
def Padding.two (padding : Padding) (n : Nat) : List Char :=
  let ones := Char.ofNat ('0'.toNat + n % 10)
  let tens := Char.ofNat ('0'.toNat + n / 10)
  match padding with
  | .none => if n < 10 then [ones] else [tens, ones]
  | .space => if n < 10 then [' ', ones] else [tens, ones]
  | .zero => [tens, ones]

/-- A year in four digits, or with a sign where four digits do not hold it. -/
def Padding.year (padding : Padding) (year : Int) : List Char :=
  if 0 ≤ year ∧ year < 10000 then padding.fill 4 [] (Numeral.ofNat year.toNat)
  else padding.fill 5 [if year < 0 then '-' else '+'] (Numeral.ofNat year.natAbs)

/-- The number that a part shows, filled up to its width. -/
def NumberPart.text (part : NumberPart) (padding : Padding) (t : Timestamp) : List Char :=
  match part with
  | year => padding.year t.date.year
  | century => padding.two (t.date.year / 100 % 256).toNat
  | yearOfCentury => padding.two (t.date.year % 100).toNat
  | isoYear => padding.year t.date.isoWeek.1
  | isoYearOfCentury => padding.two (t.date.isoWeek.1 % 100).toNat
  | quarter => Numeral.ofNat t.date.quarter
  | month => padding.two t.date.month
  | day => padding.two t.date.day
  | weekFromSunday => padding.two (t.date.weekFrom 6)
  | weekFromMonday => padding.two (t.date.weekFrom 0)
  | isoWeek => padding.two t.date.isoWeek.2
  | weekdayFromSunday => Numeral.ofNat ((t.date.weekday + 1) % 7)
  | weekdayFromMonday => Numeral.ofNat (t.date.weekday + 1)
  | ordinal => padding.fill 3 [] (Numeral.ofNat t.date.ordinal)
  | hour => padding.two t.hour
  | hour12 => padding.two t.hour12
  | minute => padding.two t.minute
  | second => padding.two t.second
  | nanosecond => padding.fill 9 [] (Numeral.ofNat t.subsecond)
  | unixSeconds =>
    padding.fill 9 (if t.seconds < 0 then ['-'] else []) (Numeral.ofNat t.seconds.natAbs)

/-- The text that a part shows; the lenient offset has none. -/
def NamedPart.text? (part : NamedPart) (t : Timestamp) : Option (List Char) :=
  match part with
  | weekday => some (nameAt weekdayNames t.date.weekday)
  | weekdayShort => some ((nameAt weekdayNames t.date.weekday).take 3)
  | month => some (nameAt monthNames (t.date.month - 1))
  | monthShort => some ((nameAt monthNames (t.date.month - 1)).take 3)
  | noonUpper => some (if t.isAfternoon then ['P', 'M'] else ['A', 'M'])
  | noonLower => some (if t.isAfternoon then ['p', 'm'] else ['a', 'm'])
  | fraction => some t.fractionChars
  | fractionDigits digits => some ('.' :: padded digits (t.subsecond / Nat.pow 10 (9 - digits)))
  | bareDigits digits => some (padded digits (t.subsecond / Nat.pow 10 (9 - digits)))
  | zoneName => some (Timestamp.offsetExact t.offset)
  | offset => some (Timestamp.offsetMinutes [] t.offset)
  | offsetColon => some (Timestamp.offsetMinutes [':'] t.offset)
  | offsetSeconds => some (Timestamp.offsetSeconds t.offset)
  | offsetHours => some (Timestamp.offsetSign t.offset :: padded 2 (t.offset.natAbs / 3600))
  | offsetLenient => none
  | rfc3339 => some t.rfc3339.toList

/-- The text of an item. -/
def PatternItem.text? (item : PatternItem) (t : Timestamp) : Option (List Char) :=
  match item with
  | literal s => some s
  | number part padding => some (part.text padding t)
  | named part => part.text? t

/-- The text of a timestamp under a pattern, unless the pattern has an item without a text. -/
def Pattern.text? (pattern : Pattern) (t : Timestamp) : Option String :=
  (pattern.mapM fun item ↦ PatternItem.text? item t).map fun texts ↦ String.ofList texts.flatten

end AuditTrail.Time
