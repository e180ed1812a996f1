import AuditTrail.Time.Timestamp
import AuditTrail.Decimal.Numeral
import AuditTrail.Text.Blank

/-!
# Timestamps as RFC 3339

The written form has no fraction or one of 3, 6 or 9 digits, whichever is the shortest exact one,
and an offset in hours and minutes. Years outside 0 to 9999 have a sign. Reading is more liberal:
it allows blanks between the parts, a space for the `T`, fractions of any length and offsets
without a colon.
-/

namespace AuditTrail.Timestamp

open Numeral (padded)
open Text (isBlank)

/-- A year in four digits, or with a sign where four digits do not hold it. -/
def yearChars (year : Int) : List Char :=
  if 0 ≤ year ∧ year ≤ 9999 then padded 4 year.toNat
  else (if year < 0 then '-' else '+') :: padded 4 year.natAbs

/-- Year, month and day. -/
def dateChars (t : Timestamp) : List Char :=
  yearChars t.date.year ++ '-' :: padded 2 t.date.month ++ '-' :: padded 2 t.date.day

/-- Hour, minute and second. -/
def clockChars (t : Timestamp) : List Char :=
  padded 2 t.hour ++ ':' :: padded 2 t.minute ++ ':' :: padded 2 t.second

/-- A fraction of a second in as many digits as it takes, in steps of three, after a point. -/
def fractionChars (t : Timestamp) : List Char :=
  if t.subsecond = 0 then []
  else if t.subsecond % 1000000 = 0 then '.' :: padded 3 (t.subsecond / 1000000)
  else if t.subsecond % 1000 = 0 then '.' :: padded 6 (t.subsecond / 1000)
  else '.' :: padded 9 t.subsecond

/-- The sign of an offset. -/
def offsetSign (offset : Int) : Char :=
  if offset < 0 then '-' else '+'

/-- An offset rounded to minutes, with `separator` between hours and minutes. -/
def offsetMinutes (separator : List Char) (offset : Int) : List Char :=
  let minutes := (offset.natAbs + 30) / 60
  offsetSign offset :: padded 2 (minutes / 60) ++ separator ++ padded 2 (minutes % 60)

/-- An offset in hours, minutes and seconds. -/
def offsetSeconds (offset : Int) : List Char :=
  let seconds := offset.natAbs
  offsetSign offset :: padded 2 (seconds / 3600) ++ ':' :: padded 2 (seconds / 60 % 60) ++
    ':' :: padded 2 (seconds % 60)

/-- An offset in hours and minutes, with the seconds if there are any. -/
def offsetExact (offset : Int) : List Char :=
  if offset.natAbs % 60 = 0 then offsetMinutes [':'] offset else offsetSeconds offset

/-- Date, clock and fraction, without the offset. -/
def localChars (t : Timestamp) : List Char :=
  t.dateChars ++ 'T' :: t.clockChars ++ t.fractionChars

/-- The written form. -/
def rfc3339 (t : Timestamp) : String :=
  String.ofList (t.localChars ++ offsetMinutes [':'] t.offset)

/-- The written form of the instant in UTC, whose offset is the letter `Z`. -/
def rfc3339Utc (t : Timestamp) : String :=
  String.ofList (localChars { t with offset := 0 } ++ ['Z'])

/-- The written form with the exact offset. -/
def exactText (t : Timestamp) : String :=
  String.ofList (t.localChars ++ offsetExact t.offset)

/-! ## Reading -/

/-- What follows the blanks at the start of a text. -/
def skipBlanks (cs : List Char) : List Char :=
  cs.dropWhile isBlank

/-- A number of one to `width` digits after blanks. -/
def number? (width : Nat) (cs : List Char) : Option (Nat × List Char) :=
  let cs := skipBlanks cs
  let digits := (cs.take width).takeWhile Char.isDigit
  (Numeral.read? 10 digits).map (·, cs.drop digits.length)

/-- A year: four digits at most, or any number of them after a sign. -/
def year? (cs : List Char) : Option (Int × List Char) :=
  match skipBlanks cs with
  | '-' :: rest =>
    let (digits, rest) := Numeral.spanDigits rest
    (Numeral.read? 10 digits).map fun n ↦ (-n, rest)
  | '+' :: rest =>
    let (digits, rest) := Numeral.spanDigits rest
    (Numeral.read? 10 digits).map fun n ↦ (n, rest)
  | rest => (number? 4 rest).map fun (n, rest) ↦ ((n : Int), rest)

/-- A character after blanks. -/
def mark? (c : Char) (cs : List Char) : Option (List Char) :=
  match skipBlanks cs with
  | d :: rest => if d = c then some rest else none
  | [] => none

/-- A fraction of a second, of which nine digits count; none is zero. -/
def fraction? : List Char → Option (Nat × List Char)
  | '.' :: rest =>
    let (digits, rest) := Numeral.spanDigits rest
    let counted := digits.take 9
    (Numeral.read? 10 counted).map fun n ↦ (n * Nat.pow 10 (9 - counted.length), rest)
  | rest => some (0, rest)

/-- Two digits. -/
def twoDigits? : List Char → Option (Nat × List Char)
  | a :: b :: rest => (Numeral.read? 10 [a, b]).map (·, rest)
  | _ => none

/-- Hours and minutes of an offset, with colons and blanks allowed between them. -/
def offsetParts? (sign : Int) (cs : List Char) : Option (Int × List Char) := do
  let (hours, rest) ← twoDigits? cs
  let (minutes, rest) ← twoDigits? (rest.dropWhile fun c ↦ c = ':' || isBlank c)
  if minutes < 60 then some (sign * (hours * 3600 + minutes * 60), rest) else none

/-- An offset: the letters `UTC`, the letter `Z`, or hours and minutes after a sign. -/
def offset? (cs : List Char) : Option (Int × List Char) :=
  if (cs.take 3).map Char.toUpper = ['U', 'T', 'C'] then some (0, cs.drop 3)
  else
    match cs with
    | 'Z' :: rest => some (0, rest)
    | 'z' :: rest => some (0, rest)
    | '+' :: rest => offsetParts? 1 rest
    | '-' :: rest => offsetParts? (-1) rest
    | '\u2212' :: rest => offsetParts? (-1) rest
    | _ => none

/-- The years that a timestamp can have. -/
def yearRange (year : Int) : Bool :=
  -262143 ≤ year && year ≤ 262142

/-- The timestamp of a date and a time of day at an offset. A second of 60 is a leap second. -/
def ofParts? (date : Time.Date) (hour minute second nanos : Nat) (offset : Int) :
    Option Timestamp :=
  if date.IsValid ∧ yearRange date.year ∧ hour < 24 ∧ minute < 60 ∧ second ≤ 60 ∧
      offset.natAbs < 86400 then
    let t : Timestamp :=
      { seconds := date.toDays * 86400 + (hour * 3600 + minute * 60 + min second 59 : Nat) - offset
        nanos := nanos + if second = 60 then 1000000000 else 0
        offset }
    if yearRange (date.year) ∧ yearRange ({ t with offset := 0 } : Timestamp).date.year then some t
    else none
  else none

/-- The timestamp that a text writes. -/
def parse? (s : String) : Option Timestamp := do
  let (year, rest) ← year? s.toList
  let (month, rest) ← number? 2 (← mark? '-' rest)
  let (day, rest) ← number? 2 (← mark? '-' rest)
  let rest ← match rest with
    | c :: rest => if c = 'T' ∨ c = 't' ∨ c = ' ' then some rest else none
    | [] => none
  let (hour, rest) ← number? 2 rest
  let (minute, rest) ← number? 2 (← mark? ':' rest)
  let (second, rest) ← number? 2 (← mark? ':' rest)
  let (nanos, rest) ← fraction? rest
  let (offset, rest) ← offset? (skipBlanks rest)
  if skipBlanks rest = [] then ofParts? ⟨year, month, day⟩ hour minute second nanos offset else none

end AuditTrail.Timestamp
