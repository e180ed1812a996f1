import AuditTrail.Proofs.Decimal.Numeral
import AuditTrail.Proofs.Json.Number
import AuditTrail.Proofs.Time.Calendar
import AuditTrail.Time.Rfc3339
import Mathlib.Data.List.TakeWhile

/-!
# Instants read back from RFC 3339

The written form of an instant in UTC is read back as this instant, with its nanoseconds and when it
is in a leap second, which is written as the second 60, and also in a year that takes a sign and
more digits than four.  This holds of the instants that timestamps have, and the reader finds no
others.
-/

namespace AuditTrail

open Numeral (padded length_padded read?_padded exists_padded_eq_cons)
open Text (isBlank)
open Time (Date)

/-- An instant from the first second of the year -262143 to the last one of the year 262142.  Of the
seconds only the last one of a minute goes on as a leap second. -/
structure Instant.IsRepresentable (instant : Instant) : Prop where
  seconds_ge : -8334601228800 ≤ instant.seconds
  seconds_le : instant.seconds ≤ 8210266876799
  nanos_lt : instant.nanos < 2000000000
  leap : 1000000000 ≤ instant.nanos → instant.seconds % 60 = 59

theorem Text.isBlank_of_isDigit {c : Char} (digit : c.isDigit = true) : isBlank c = false := by
  have bounds : '0'.toNat ≤ c.toNat ∧ c.toNat ≤ '9'.toNat := by
    rw [Char.isDigit, Bool.and_eq_true, decide_eq_true_eq, decide_eq_true_eq] at digit
    exact digit
  have zero_eq : '0'.toNat = 48 := rfl
  have nine_eq : '9'.toNat = 57 := rfl
  rw [zero_eq, nine_eq] at bounds
  refine Bool.eq_false_iff.mpr fun blank ↦ ?_
  simp only [isBlank, blanks, CharRanges.contains_cons, CharRanges.contains_nil,
    Bool.or_eq_true, Bool.and_eq_true, decide_eq_true_eq, Bool.false_eq_true, or_false] at blank
  omega

namespace Timestamp

/-! ## Parts of the text -/

section Parts

variable {width n : Nat} {c : Char}

theorem skipBlanks_cons (blank : isBlank c = false) (cs : List Char) :
    skipBlanks (c :: cs) = c :: cs :=
  List.dropWhile_cons_of_neg (Bool.eq_false_iff.mp blank)

theorem mark?_cons (blank : isBlank c = false) (cs : List Char) : mark? c (c :: cs) = some cs := by
  rw [mark?, skipBlanks_cons blank]
  exact if_pos rfl

theorem skipBlanks_padded (width n : Nat) (rest : List Char) :
    skipBlanks (padded width n ++ rest) = padded width n ++ rest := by
  obtain ⟨c, cs, padded_eq, digit⟩ := exists_padded_eq_cons width n
  rw [padded_eq]
  exact skipBlanks_cons (Text.isBlank_of_isDigit digit) _

/-- A numeral that fills its width is read whatever follows it. -/
theorem number?_padded (width_pos : 0 < width) (lt : n < 10 ^ width) (rest : List Char) :
    number? width (padded width n ++ rest) = some (n, rest) := by
  have length_eq := length_padded width_pos lt
  have digits_eq : ((padded width n ++ rest).take width).takeWhile Char.isDigit =
      padded width n := by
    rw [List.take_left' length_eq,
      List.takeWhile_eq_self_iff.mpr fun c ↦ Numeral.isDigit_of_mem_padded]
  simp only [number?, skipBlanks_padded, digits_eq, read?_padded, List.drop_left, Option.map_some]

end Parts

section Years

variable {cs digits rest : List Char} {n : Nat}

theorem year?_minus (span_eq : Numeral.spanDigits cs = (digits, rest))
    (read_eq : Numeral.read? 10 digits = some n) : year? ('-' :: cs) = some (-(n : Int), rest) := by
  rw [year?, skipBlanks_cons (by decide)]
  simp [span_eq, read_eq]

theorem year?_plus (span_eq : Numeral.spanDigits cs = (digits, rest))
    (read_eq : Numeral.read? 10 digits = some n) : year? ('+' :: cs) = some ((n : Int), rest) := by
  rw [year?, skipBlanks_cons (by decide)]
  simp [span_eq, read_eq]

theorem year?_padded (lt : n < 10000) (rest : List Char) :
    year? (padded 4 n ++ rest) = some ((n : Int), rest) := by
  have number_eq := number?_padded (by decide : 0 < 4) lt rest
  obtain ⟨c, cs, padded_eq, digit⟩ := exists_padded_eq_cons 4 n
  rw [year?, skipBlanks_padded]
  split
  next cs_eq =>
    rw [padded_eq] at cs_eq
    cases cs_eq
    cases digit
  next cs_eq =>
    rw [padded_eq] at cs_eq
    cases cs_eq
    cases digit
  next => rw [number_eq, Option.map_some]

/-- A year is read back, with its sign if it has one. -/
theorem year?_yearChars (year : Int) (ends : ∀ c ∈ rest.head?, c.isDigit = false) :
    year? (yearChars year ++ rest) = some (year, rest) := by
  have span_eq : Numeral.spanDigits (padded 4 year.natAbs ++ rest) =
      (padded 4 year.natAbs, rest) :=
    Numeral.spanDigits_append (fun c ↦ Numeral.isDigit_of_mem_padded) ends
  have read_eq := read?_padded 4 year.natAbs
  rw [yearChars]
  split
  next four =>
    have year_eq : (year.toNat : Int) = year := Int.toNat_of_nonneg four.1
    rw [year?_padded (n := year.toNat) (by omega), year_eq]
  next more =>
    rw [List.cons_append]
    split
    next negative =>
      have year_eq : -(year.natAbs : Int) = year := by omega
      rw [year?_minus span_eq read_eq, year_eq]
    next positive =>
      have year_eq : (year.natAbs : Int) = year := by omega
      rw [year?_plus span_eq read_eq, year_eq]

end Years

/-- A fraction of some digits is read back in nanoseconds. -/
theorem fraction?_padded {width n : Nat} (width_pos : 0 < width) (width_le : width ≤ 9)
    (lt : n < 10 ^ width) (rest : List Char) :
    fraction? ('.' :: padded width n ++ 'Z' :: rest) =
      some (n * 10 ^ (9 - width), 'Z' :: rest) := by
  have length_eq := length_padded width_pos lt
  have ends : ∀ c ∈ ('Z' :: rest).head?, c.isDigit = false := by
    rintro _ ⟨⟩
    rfl
  have span_eq : Numeral.spanDigits (padded width n ++ 'Z' :: rest) =
      (padded width n, 'Z' :: rest) :=
    Numeral.spanDigits_append (fun c ↦ Numeral.isDigit_of_mem_padded) ends
  have counted_eq : (padded width n).take 9 = padded width n :=
    List.take_of_length_le (length_eq.trans_le width_le)
  rw [List.cons_append, fraction?, span_eq]
  dsimp only
  rw [counted_eq, read?_padded, length_eq, Option.map_some]
  rfl

/-- The fraction of a timestamp is read back, in whichever number of digits it is written. -/
theorem fraction?_fractionChars (t : Timestamp) (rest : List Char) :
    fraction? (t.fractionChars ++ 'Z' :: rest) = some (t.subsecond, 'Z' :: rest) := by
  have lt : t.subsecond < 1000000000 := Nat.mod_lt t.nanos (by decide)
  rw [fractionChars]
  split_ifs with zero thousandths millionths
  · rw [zero]
    rfl
  · rw [fraction?_padded (by decide) (by decide) (by omega)]
    exact congrArg (fun n ↦ some (n, 'Z' :: rest)) (by omega)
  · rw [fraction?_padded (by decide) (by decide) (by omega)]
    exact congrArg (fun n ↦ some (n, 'Z' :: rest)) (by omega)
  · rw [fraction?_padded (by decide) (by decide) lt]
    exact congrArg (fun n ↦ some (n, 'Z' :: rest)) (by omega)

/-! ## Parts of an instant in UTC -/

section Utc

variable {instant : Instant}

theorem secondOfDay_lt (t : Timestamp) : t.secondOfDay < 86400 := by
  rw [secondOfDay]
  omega

theorem hour_lt (t : Timestamp) : t.hour < 24 := by
  have lt := t.secondOfDay_lt
  rw [hour]
  omega

theorem minute_lt (t : Timestamp) : t.minute < 60 :=
  Nat.mod_lt _ (by decide)

theorem localSeconds_utc (instant : Instant) : instant.utc.localSeconds = instant.seconds :=
  Int.add_zero instant.seconds

theorem secondOfDay_utc (instant : Instant) :
    (instant.utc.secondOfDay : Int) = instant.seconds % 86400 := by
  rw [secondOfDay, localSeconds_utc]
  omega

theorem second_utc (instant : Instant) :
    instant.utc.second = instant.utc.secondOfDay % 60 + instant.nanos / 1000000000 :=
  rfl

theorem subsecond_utc (instant : Instant) : instant.utc.subsecond = instant.nanos % 1000000000 :=
  rfl

theorem yearRange_utc_iff (instant : Instant) : yearRange instant.utc.date.year = true ↔
    -8334601228800 ≤ instant.seconds ∧ instant.seconds ≤ 8210266876799 := by
  have first_eq : Date.newYear (-262143) = -96465292 := by decide
  have end_eq : Date.newYear 262143 = 95026237 := by decide
  have first_iff : -262143 ≤ instant.utc.date.year ↔ _ := Date.le_year_ofDays_iff
  have end_iff : 262143 ≤ instant.utc.date.year ↔ _ := Date.le_year_ofDays_iff
  rw [first_eq, localSeconds_utc] at first_iff
  rw [end_eq, localSeconds_utc] at end_iff
  rw [yearRange, Bool.and_eq_true, decide_eq_true_eq, decide_eq_true_eq]
  omega

variable (representable : instant.IsRepresentable)

include representable

theorem second_utc_le : instant.utc.second ≤ 60 := by
  have nanos_lt := representable.nanos_lt
  rw [second_utc]
  omega

/-- The second 60 is counted as the second before it, of which it is a part. -/
theorem clock_utc : instant.utc.hour * 3600 + instant.utc.minute * 60 +
    min instant.utc.second 59 = instant.utc.secondOfDay := by
  have nanos_lt := representable.nanos_lt
  have leap := representable.leap
  have secondOfDay_eq := secondOfDay_utc instant
  rw [second_utc, hour, minute]
  omega

theorem nanos_utc : (instant.utc.subsecond + if instant.utc.second = 60 then 1000000000 else 0) =
    instant.nanos := by
  have nanos_lt := representable.nanos_lt
  have leap := representable.leap
  have secondOfDay_eq := secondOfDay_utc instant
  rw [second_utc, subsecond_utc]
  split <;> omega

/-- An instant has the parts that are shown of it. -/
theorem ofParts?_utc :
    ofParts? instant.utc.date instant.utc.hour instant.utc.minute instant.utc.second
      instant.utc.subsecond 0 = some instant.utc := by
  have inYears := (yearRange_utc_iff instant).mpr
    ⟨representable.seconds_ge, representable.seconds_le⟩
  have seconds_eq : instant.utc.date.toDays * 86400 + (instant.utc.hour * 3600 +
      instant.utc.minute * 60 + min instant.utc.second 59 : Nat) - 0 = instant.seconds := by
    rw [clock_utc representable, secondOfDay_utc, date, Date.toDays_ofDays, localSeconds_utc]
    omega
  rw [ofParts?, if_pos ⟨Date.isValid_ofDays _, inYears, hour_lt _, minute_lt _,
    second_utc_le representable, by decide⟩]
  dsimp only
  rw [seconds_eq, nanos_utc representable]
  exact if_pos ⟨inYears, inYears⟩

end Utc

/-! ## Instants read back -/

section Written

variable {instant : Instant}

/-- The text from the month on. -/
def monthToZone (t : Timestamp) : List Char :=
  '-' :: (padded 2 t.date.month ++ '-' :: (padded 2 t.date.day ++ 'T' :: (padded 2 t.hour ++
    ':' :: (padded 2 t.minute ++ ':' :: (padded 2 t.second ++ (t.fractionChars ++ ['Z']))))))

theorem toList_rfc3339Utc (instant : Instant) : instant.utc.rfc3339Utc.toList =
    yearChars instant.utc.date.year ++ monthToZone instant.utc := by
  rw [rfc3339Utc, String.toList_ofList, localChars, dateChars, clockChars]
  simp only [List.append_assoc, List.cons_append]
  rfl

/-- The written form of an instant is read back as the instant, shown in UTC. -/
theorem parse?_rfc3339Utc (representable : instant.IsRepresentable) :
    parse? instant.utc.rfc3339Utc = some instant.utc := by
  have ends : ∀ c ∈ (monthToZone instant.utc).head?, c.isDigit = false := by
    rintro _ ⟨⟩
    rfl
  obtain ⟨-, month_le, -, day_le⟩ : instant.utc.date.IsValid := Date.isValid_ofDays _
  have day_le := day_le.trans (Date.daysInMonth_le _ _)
  have month_lt : instant.utc.date.month < 10 ^ 2 := by omega
  have day_lt : instant.utc.date.day < 10 ^ 2 := by omega
  have hour_lt : instant.utc.hour < 10 ^ 2 := (hour_lt _).trans (by decide)
  have minute_lt : instant.utc.minute < 10 ^ 2 := (minute_lt _).trans (by decide)
  have second_lt : instant.utc.second < 10 ^ 2 :=
    (second_utc_le representable).trans_lt (by decide)
  -- One part after the other is read off the front, and the reader goes on with the rest.
  rw [parse?, toList_rfc3339Utc, year?_yearChars _ ends, monthToZone, Option.bind_eq_bind,
    Option.bind_some]
  dsimp only
  rw [mark?_cons (by decide), Option.bind_eq_bind, Option.bind_some,
    number?_padded (by decide) month_lt, Option.bind_eq_bind, Option.bind_some]
  dsimp only
  rw [mark?_cons (by decide), Option.bind_some, number?_padded (by decide) day_lt,
    Option.bind_some]
  dsimp only
  rw [if_pos (.inl rfl), Option.bind_some, number?_padded (by decide) hour_lt, Option.bind_some]
  dsimp only
  rw [mark?_cons (by decide), Option.bind_some, number?_padded (by decide) minute_lt,
    Option.bind_some]
  dsimp only
  rw [mark?_cons (by decide), Option.bind_some, number?_padded (by decide) second_lt,
    Option.bind_some]
  dsimp only
  rw [fraction?_fractionChars, Option.bind_some]
  exact ofParts?_utc representable

end Written

/-! ## What is read -/

section Read

variable {cs rest : List Char} {t : Timestamp} {offset : Int} {nanos : Nat}

theorem lt_of_fraction? (fraction_eq : fraction? cs = some (nanos, rest)) :
    nanos < 1000000000 := by
  unfold fraction? at fraction_eq
  split at fraction_eq
  next digits =>
    obtain ⟨n, read_eq, nanos_eq⟩ := Option.map_eq_some_iff.mp fraction_eq
    have lt := Numeral.lt_of_read? read_eq
    have length_le := List.length_take_le 9 (digits.takeWhile Char.isDigit)
    rw [← (Prod.mk.inj nanos_eq).1]
    calc
      _ < 10 ^ _ * 10 ^ (9 - _) := Nat.mul_lt_mul_of_pos_right lt (Nat.pow_pos (by decide))
      _ = 10 ^ 9 := by rw [← Nat.pow_add, Nat.add_sub_cancel' length_le]
  next =>
    cases fraction_eq
    decide

theorem offset_of_offsetParts? {sign : Int}
    (offset_eq : offsetParts? sign cs = some (offset, rest)) : offset % 60 = 0 := by
  rw [offsetParts?] at offset_eq
  obtain ⟨⟨hours, _⟩, -, offset_eq⟩ := Option.bind_eq_some_iff.mp offset_eq
  obtain ⟨⟨minutes, _⟩, -, offset_eq⟩ := Option.bind_eq_some_iff.mp offset_eq
  dsimp only at offset_eq
  split at offset_eq
  next =>
    cases offset_eq
    have dvd : (60 : Int) ∣ hours * 3600 + minutes * 60 := by omega
    exact Int.emod_eq_zero_of_dvd (dvd.mul_left sign)
  next => cases offset_eq

theorem offset_of_offset? (offset_eq : offset? cs = some (offset, rest)) : offset % 60 = 0 := by
  unfold offset? at offset_eq
  split at offset_eq
  next =>
    cases offset_eq
    rfl
  next =>
    split at offset_eq
    case h_1 => cases offset_eq; rfl
    case h_2 => cases offset_eq; rfl
    case h_6 => cases offset_eq
    all_goals exact offset_of_offsetParts? offset_eq

theorem isRepresentable_of_ofParts? {date : Date} {hour minute second : Nat}
    (nanos_lt : nanos < 1000000000) (whole : offset % 60 = 0)
    (parts_eq : ofParts? date hour minute second nanos offset = some t) :
    t.instant.IsRepresentable := by
  unfold ofParts? at parts_eq
  extract_lets read at parts_eq
  split at parts_eq
  next bounds =>
    split at parts_eq
    next inYears =>
      obtain rfl : read = t := Option.some.inj parts_eq
      obtain ⟨seconds_ge, seconds_le⟩ := (yearRange_utc_iff read.instant).mp inYears.2
      have nanos_eq : read.instant.nanos = nanos + if second = 60 then 1000000000 else 0 := rfl
      have seconds_eq : read.instant.seconds = date.toDays * 86400 +
          (hour * 3600 + minute * 60 + min second 59 : Nat) - offset := rfl
      refine ⟨seconds_ge, seconds_le, ?_, fun leap ↦ ?_⟩
      · rw [nanos_eq]
        split <;> omega
      · rw [nanos_eq] at leap
        split at leap <;> omega
    next => cases parts_eq
  next => cases parts_eq

/-- Whatever is read as a timestamp is one of an instant that has a written form to be read back. -/
theorem isRepresentable_of_parse? {s : String} (parse_eq : parse? s = some t) :
    t.instant.IsRepresentable := by
  rw [parse?] at parse_eq
  -- Only the last two parts bound what is read; the check of the date does the rest.
  obtain ⟨⟨year, _⟩, -, parse_eq⟩ := Option.bind_eq_some_iff.mp parse_eq
  obtain ⟨_, -, parse_eq⟩ := Option.bind_eq_some_iff.mp parse_eq
  obtain ⟨⟨month, _⟩, -, parse_eq⟩ := Option.bind_eq_some_iff.mp parse_eq
  obtain ⟨_, -, parse_eq⟩ := Option.bind_eq_some_iff.mp parse_eq
  obtain ⟨⟨day, rest⟩, -, parse_eq⟩ := Option.bind_eq_some_iff.mp parse_eq
  dsimp only at parse_eq
  rcases rest with _ | ⟨c, rest⟩
  · cases parse_eq
  dsimp only at parse_eq
  split at parse_eq
  next =>
    obtain ⟨_, -, parse_eq⟩ := Option.bind_eq_some_iff.mp parse_eq
    obtain ⟨⟨hour, _⟩, -, parse_eq⟩ := Option.bind_eq_some_iff.mp parse_eq
    obtain ⟨_, -, parse_eq⟩ := Option.bind_eq_some_iff.mp parse_eq
    obtain ⟨⟨minute, _⟩, -, parse_eq⟩ := Option.bind_eq_some_iff.mp parse_eq
    obtain ⟨_, -, parse_eq⟩ := Option.bind_eq_some_iff.mp parse_eq
    obtain ⟨⟨second, _⟩, -, parse_eq⟩ := Option.bind_eq_some_iff.mp parse_eq
    obtain ⟨⟨nanos, _⟩, nanos_eq, parse_eq⟩ := Option.bind_eq_some_iff.mp parse_eq
    obtain ⟨⟨offset, _⟩, offset_eq, parse_eq⟩ := Option.bind_eq_some_iff.mp parse_eq
    dsimp only at parse_eq
    split at parse_eq
    next =>
      exact isRepresentable_of_ofParts? (lt_of_fraction? nanos_eq) (offset_of_offset? offset_eq)
        parse_eq
    next => cases parse_eq
  next => cases parse_eq

end Read

end Timestamp

end AuditTrail
