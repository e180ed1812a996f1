import AuditTrail.Time.Calendar
import Mathlib.Tactic.IntervalCases

/-!
# Days counted and dates read off

The date of a number of days is counted from March on, in cycles of 400 years.  A cycle is made of
centuries, which are made of cycles of four years, and the day that a leap year is longer by is the
last one of its year, of its four years, and once in a cycle of its century.  With a day in its
parts the divisions of the calendar come out one by one.

Every number of days has a date of the calendar, which is counted back to the same number.  A year
begins later than any day of the years before it, so that years can be compared by days.
-/

namespace AuditTrail.Time.Date

/-! ## Years that begin in March -/

/-- Days before the first of March of a year, from the first of March of the year zero. -/
def daysBeforeYear (year : Int) : Int :=
  365 * year + year / 4 - year / 100 + year / 400

/-- The date of a day, from zero, of a year that begins in March. -/
def ofMarch (year dayOfYear : Int) : Date :=
  let monthFromMarch := (5 * dayOfYear + 2) / 153
  let month := if monthFromMarch < 10 then monthFromMarch + 3 else monthFromMarch - 9
  { year := year + if month ≤ 2 then 1 else 0
    month := month.toNat
    day := (dayOfYear - daysBeforeMonth monthFromMarch + 1).toNat }

section OfMarch

variable {year dayOfYear month : Int}

theorem ofMarch_of_lt (month_eq : (5 * dayOfYear + 2) / 153 = month) (nonneg : 0 ≤ month)
    (lt : month < 10) : ofMarch year dayOfYear =
      ⟨year, (month + 3).toNat, (dayOfYear - daysBeforeMonth month + 1).toNat⟩ := by
  simp only [ofMarch, month_eq, if_pos lt]
  rw [if_neg (by omega), Int.add_zero]

theorem ofMarch_of_le (month_eq : (5 * dayOfYear + 2) / 153 = month) (le : 10 ≤ month)
    (lt : month < 12) : ofMarch year dayOfYear =
      ⟨year + 1, (month - 9).toNat, (dayOfYear - daysBeforeMonth month + 1).toNat⟩ := by
  simp only [ofMarch, month_eq, if_neg (Int.not_lt.mpr le)]
  rw [if_pos (by omega)]

variable (nonneg : 0 ≤ dayOfYear) (le : dayOfYear ≤ 365)

include nonneg le

theorem toDays_ofMarch : (ofMarch year dayOfYear).toDays =
    daysBeforeYear year + dayOfYear - 719468 := by
  obtain ⟨month, month_eq⟩ : ∃ month, (5 * dayOfYear + 2) / 153 = month := ⟨_, rfl⟩
  have day_eq : ((dayOfYear - daysBeforeMonth month + 1).toNat : Int) =
      dayOfYear - daysBeforeMonth month + 1 := by
    rw [daysBeforeMonth]
    omega
  rcases Int.lt_or_le month 10 with early | late
  · have number_eq : ((month + 3).toNat + 9 : Int) % 12 = month := by omega
    rw [ofMarch_of_lt month_eq (by omega) early, toDays, if_neg (by dsimp only; omega)]
    dsimp only
    rw [number_eq, day_eq, daysBeforeYear]
    omega
  · have number_eq : ((month - 9).toNat + 9 : Int) % 12 = month := by omega
    rw [ofMarch_of_le month_eq late (by omega), toDays, if_pos (by dsimp only; omega)]
    dsimp only
    rw [number_eq, day_eq, daysBeforeYear, Int.add_sub_cancel]
    omega

/-- The last day of a year is the 29th of February, which only leap years have. -/
theorem isValid_ofMarch (leap : dayOfYear = 365 → isLeap (year + 1) = true) :
    (ofMarch year dayOfYear).IsValid := by
  obtain ⟨month, month_eq⟩ : ∃ month, (5 * dayOfYear + 2) / 153 = month := ⟨_, rfl⟩
  have day_pos : 1 ≤ (dayOfYear - daysBeforeMonth month + 1).toNat := by
    rw [daysBeforeMonth]
    omega
  rcases Int.lt_or_le month 10 with early | late
  · rw [ofMarch_of_lt month_eq (by omega) early]
    refine ⟨by dsimp only; omega, by dsimp only; omega, day_pos, ?_⟩
    rw [daysBeforeMonth]
    have month_nonneg : 0 ≤ month := by omega
    interval_cases month <;> simp [daysInMonth] <;> omega
  · rw [ofMarch_of_le month_eq late (by omega)]
    refine ⟨by dsimp only; omega, by dsimp only; omega, day_pos, ?_⟩
    rw [daysBeforeMonth]
    have month_lt : month < 12 := by omega
    interval_cases month
    · simp [daysInMonth]
      omega
    · change (dayOfYear - 337 + 1).toNat ≤ if isLeap (year + 1) = true then 29 else 28
      by_cases last : dayOfYear = 365
      · rw [if_pos (leap last)]
        omega
      · split <;> omega

end OfMarch

/-! ## Cycles of 400 years -/

/-- A day of a cycle in centuries, cycles of four years, years and days.  A year has a day more if
it is the last one of four, and these are not the last four of a century but the last one. -/
structure IsSplit (day centuries fours years rest : Int) : Prop where
  day_eq : day = 36524 * centuries + 1461 * fours + 365 * years + rest
  centuries_le : 0 ≤ centuries ∧ centuries ≤ 3
  fours_le : 0 ≤ fours ∧ fours ≤ 24
  years_le : 0 ≤ years ∧ years ≤ 3
  rest_le : 0 ≤ rest ∧ rest ≤ 365
  leap : rest = 365 → years = 3 ∧ (fours = 24 → centuries = 3)

theorem exists_isSplit {day : Int} (nonneg : 0 ≤ day) (lt : day < 146097) :
    ∃ centuries fours years rest, IsSplit day centuries fours years rest := by
  obtain ⟨centuries, centuries_eq⟩ : ∃ c, c = min (day / 36524) 3 := ⟨_, rfl⟩
  obtain ⟨fours, fours_eq⟩ : ∃ q, q = (day - 36524 * centuries) / 1461 := ⟨_, rfl⟩
  obtain ⟨years, years_eq⟩ : ∃ y, y = min ((day - 36524 * centuries - 1461 * fours) / 365) 3 :=
    ⟨_, rfl⟩
  exact ⟨centuries, fours, years, day - 36524 * centuries - 1461 * fours - 365 * years,
    by omega, by omega, by omega, by omega, by omega, by omega⟩

namespace IsSplit

variable {day centuries fours years rest : Int} (split : IsSplit day centuries fours years rest)

include split

/-- The year of a cycle that the calendar finds for a day is that of its parts. -/
theorem yearOfCycle_eq : (day - day / 1460 + day / 36524 - day / 146096) / 365 =
    100 * centuries + 4 * fours + years := by
  obtain ⟨day_eq, centuries_le, fours_le, years_le, rest_le, leap⟩ := split
  have centuries_eq : day / 36524 - day / 146096 = centuries := by
    rcases (by omega : day < 36524 * (centuries + 1) ∨ day = 146096) with lt | rfl
    · have full_eq : day / 36524 = centuries := by omega
      have last_eq : day / 146096 = 0 := by omega
      omega
    · omega
  -- Taking 1460 days for four years is too short by a day, and at most by one in the end.
  obtain ⟨early, early_eq⟩ :
      ∃ early, early = (24 * centuries + fours + 365 * years + rest) / 1460 := ⟨_, rfl⟩
  have fours_eq : day / 1460 = 25 * centuries + fours + early := by omega
  have days_eq : day - day / 1460 + day / 36524 - day / 146096 =
      365 * (100 * centuries + 4 * fours + years) + (rest - early) := by omega
  have rest_lt : 0 ≤ rest - early ∧ rest - early < 365 := by omega
  rw [days_eq]
  omega

theorem daysBeforeYear_eq (cycles : Int) :
    daysBeforeYear (400 * cycles + (100 * centuries + 4 * fours + years)) =
      146097 * cycles + (36524 * centuries + 1461 * fours + 365 * years) := by
  obtain ⟨-, centuries_le, fours_le, years_le, -, -⟩ := split
  obtain ⟨year, year_eq⟩ : ∃ y, y = 400 * cycles + (100 * centuries + 4 * fours + years) := ⟨_, rfl⟩
  have four_eq : year / 4 = 100 * cycles + 25 * centuries + fours := by omega
  have hundred_eq : year / 100 = 4 * cycles + centuries := by omega
  have all_eq : year / 400 = cycles := by omega
  rw [← year_eq, daysBeforeYear, four_eq, hundred_eq, all_eq]
  omega

theorem isLeap_of_last (last : rest = 365) (cycles : Int) :
    isLeap (400 * cycles + (100 * centuries + 4 * fours + years) + 1) = true := by
  have leap := split.leap last
  have fours_le := split.fours_le
  simp only [isLeap, Bool.and_eq_true, Bool.or_eq_true, beq_iff_eq, bne_iff_ne]
  omega

end IsSplit

/-- Every date that is counted is a day of a year that begins in March. -/
theorem exists_ofMarch (days : Int) : ∃ year dayOfYear,
    ofDays days = ofMarch year dayOfYear ∧ days + 719468 = daysBeforeYear year + dayOfYear ∧
      (0 ≤ dayOfYear ∧ dayOfYear ≤ 365) ∧ (dayOfYear = 365 → isLeap (year + 1) = true) := by
  have nonneg : 0 ≤ (days + 719468) % 146097 := by omega
  have lt : (days + 719468) % 146097 < 146097 := by omega
  obtain ⟨centuries, fours, years, rest, split⟩ := exists_isSplit nonneg lt
  obtain ⟨yearOfCycle, yearOfCycle_eq⟩ : ∃ y, y = 100 * centuries + 4 * fours + years := ⟨_, rfl⟩
  have year_eq := split.yearOfCycle_eq
  have rest_eq : (days + 719468) % 146097 -
      (365 * yearOfCycle + yearOfCycle / 4 - yearOfCycle / 100) = rest := by
    have before_eq := split.daysBeforeYear_eq 0
    rw [← yearOfCycle_eq, Int.mul_zero, Int.mul_zero, Int.zero_add, Int.zero_add,
      daysBeforeYear] at before_eq
    obtain ⟨day_eq, centuries_le, fours_le, years_le, -, -⟩ := split
    omega
  rw [← yearOfCycle_eq] at year_eq
  refine ⟨400 * ((days + 719468) / 146097) + yearOfCycle, rest, ?_, ?_, split.rest_le,
    fun last ↦ ?_⟩
  · rw [← rest_eq, ← year_eq]
    rfl
  · have day_eq := split.day_eq
    rw [yearOfCycle_eq, split.daysBeforeYear_eq]
    omega
  · rw [yearOfCycle_eq]
    exact split.isLeap_of_last last _

/-! ## Dates of days -/

/-- The date of some days is counted back to these days. -/
theorem toDays_ofDays (days : Int) : (ofDays days).toDays = days := by
  obtain ⟨year, dayOfYear, date_eq, days_eq, ⟨nonneg, le⟩, -⟩ := exists_ofMarch days
  rw [date_eq, toDays_ofMarch nonneg le]
  omega

theorem isValid_ofDays (days : Int) : (ofDays days).IsValid := by
  obtain ⟨year, dayOfYear, date_eq, -, ⟨nonneg, le⟩, leap⟩ := exists_ofMarch days
  rw [date_eq]
  exact isValid_ofMarch nonneg le leap

/-! ## Years by their days -/

/-- The first day of a year. -/
def newYear (year : Int) : Int :=
  (Date.mk year 1 1).toDays

theorem newYear_eq (year : Int) : newYear year = daysBeforeYear (year - 1) + 306 - 719468 := by
  have first_le : (Date.mk year 1 1).month ≤ 2 := by simp
  rw [newYear, toDays, if_pos first_le, daysBeforeYear]
  simp only [daysBeforeMonth]
  omega

theorem newYear_le_newYear {year later : Int} (le : year ≤ later) :
    newYear year ≤ newYear later := by
  rw [newYear_eq, newYear_eq, daysBeforeYear, daysBeforeYear]
  omega

theorem daysInMonth_le (year : Int) (month : Nat) : daysInMonth year month ≤ 31 := by
  unfold daysInMonth
  split
  · split <;> decide
  all_goals simp

/-- A date is a day of its year. -/
theorem newYear_le_toDays {date : Date} (valid : date.IsValid) :
    newYear date.year ≤ date.toDays ∧ date.toDays < newYear (date.year + 1) := by
  obtain ⟨month_pos, month_le, day_pos, day_le⟩ := valid
  have day_le := Nat.le_trans day_le (daysInMonth_le date.year date.month)
  rw [newYear_eq, newYear_eq, Int.add_sub_cancel, toDays]
  rw [daysBeforeYear, daysBeforeYear, daysBeforeMonth]
  split <;> omega

/-- A year has come if and only if its first day has. -/
theorem le_year_ofDays_iff {year days : Int} : year ≤ (ofDays days).year ↔ newYear year ≤ days := by
  have bounds := newYear_le_toDays (isValid_ofDays days)
  rw [toDays_ofDays] at bounds
  constructor
  · intro le
    exact Int.le_trans (newYear_le_newYear le) bounds.1
  · intro le
    by_contra later
    have later_le := newYear_le_newYear (Int.add_one_le_of_lt (Int.not_le.mp later))
    omega

end AuditTrail.Time.Date
