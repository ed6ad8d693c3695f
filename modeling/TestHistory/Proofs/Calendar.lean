import TestHistory.Time.Calendar

/-!
# Days and dates

`Date.ofDayNumber` gives a date of the calendar (`fits_ofDayNumber`), and the number of that date
is the number that it was given (`dayNumber_ofDayNumber`).
-/

namespace TestHistory.Time

/-- A day of an era of 400 years, in whole centuries, cycles of four years and years. A leap day
ends the last year of a cycle; of a century that does not end the era the last cycle has none. -/
structure DayOfEra (count century cycle year day : Nat) : Prop where
  count_eq : count = 36524 * century + 1461 * cycle + 365 * year + day
  century_lt : century < 4
  cycle_lt : cycle < 25
  year_lt : year < 4
  day_lt : day < 365 ∨ day = 365 ∧ year = 3 ∧ (cycle < 24 ∨ century = 3)

theorem exists_dayOfEra {count : Nat} (inEra : count < 146097) :
    ∃ century cycle year day, DayOfEra count century cycle year day := by
  obtain ⟨century, _⟩ : ∃ century, century = min 3 (count / 36524) := ⟨_, rfl⟩
  obtain ⟨cycle, _⟩ : ∃ cycle, cycle = (count - 36524 * century) / 1461 := ⟨_, rfl⟩
  obtain ⟨year, _⟩ : ∃ year, year = min 3 ((count - 36524 * century - 1461 * cycle) / 365) :=
    ⟨_, rfl⟩
  refine ⟨century, cycle, year, count - 36524 * century - 1461 * cycle - 365 * year, ?_⟩
  constructor <;> omega

theorem DayOfEra.year_eq {count century cycle year day : Nat}
    (place : DayOfEra count century cycle year day) :
    (count - count / 1460 + count / 36524 - count / 146096) / 365 =
      100 * century + 4 * cycle + year := by
  obtain ⟨same, _, _, _, short⟩ := place
  by_cases last : count = 146096
  · omega
  · have centuries : count / 36524 = century := by omega
    have era : count / 146096 = 0 := by omega
    -- The quotient may run ahead of the cycles, but not on the first day of a year.
    have cycles : count / 1460 = 25 * century + cycle ∨
        count / 1460 = 25 * century + cycle + 1 ∧ 1 ≤ day := by omega
    omega

namespace Date

/-- A day of a year that begins in March. -/
def ofMarch (year : Int) (day : Nat) : Date :=
  let month := (5 * day + 2) / 153
  let dayOfMonth := day - daysBeforeMonth month + 1
  if month < 10 then ⟨year, month + 3, dayOfMonth⟩ else ⟨year + 1, month - 9, dayOfMonth⟩

theorem ofDayNumber_eq {n era : Int} {count century cycle year day : Nat}
    (place : DayOfEra count century cycle year day) (days : n + 719468 = 146097 * era + count) :
    ofDayNumber n = ofMarch (400 * era + (100 * century + 4 * cycle + year : Nat)) day := by
  have years := place.year_eq
  obtain ⟨same, _, _, _, short⟩ := place
  have inEra : count < 146097 := by omega
  have eras : (n + 719468) / 146097 = era := by omega
  have rest : ((n + 719468) % 146097).toNat = count := by omega
  have leaps : (100 * century + 4 * cycle + year) / 4 = 25 * century + cycle := by omega
  have centuries : (100 * century + 4 * cycle + year) / 100 = century := by omega
  have left : count - (365 * (100 * century + 4 * cycle + year) + (25 * century + cycle) -
      century) = day := by omega
  unfold ofDayNumber
  simp only [eras, rest, years, leaps, centuries, left]
  rw [Int.add_comm (400 * era)]
  rfl

/-- A year from March to February, and a day of it. -/
structure InMarchYear (n : Int) (year : Int) (day : Nat) : Prop where
  date : ofDayNumber n = ofMarch year day
  count : n = 365 * year + year / 4 - year / 100 + year / 400 + day - 719468
  day_lt : day < 365 ∨ day = 365 ∧ isLeapYear (year + 1) = true

theorem exists_inMarchYear (n : Int) : ∃ year day, InMarchYear n year day := by
  have split : n + 719468 = 146097 * ((n + 719468) / 146097) + ((n + 719468) % 146097).toNat := by
    omega
  generalize (n + 719468) / 146097 = era at split
  have small : ((n + 719468) % 146097).toNat < 146097 := by omega
  obtain ⟨century, cycle, year, day, place⟩ := exists_dayOfEra small
  generalize ((n + 719468) % 146097).toNat = count at split place
  refine ⟨_, day, ofDayNumber_eq place split, ?_, ?_⟩
  · obtain ⟨same, _, _, _, short⟩ := place
    have leaps : (400 * era + (100 * century + 4 * cycle + year : Nat)) / 4 =
        100 * era + 25 * century + cycle := by omega
    have centuries : (400 * era + (100 * century + 4 * cycle + year : Nat)) / 100 =
        4 * era + century := by omega
    have eras : (400 * era + (100 * century + 4 * cycle + year : Nat)) / 400 = era := by omega
    rw [leaps, centuries, eras]
    omega
  · obtain ⟨same, _, _, _, short⟩ := place
    simp only [isLeapYear, Bool.and_eq_true, Bool.or_eq_true, decide_eq_true_eq]
    omega

theorem dayNumber_ofMarch (year : Int) {day : Nat} (short : day < 366) :
    (ofMarch year day).dayNumber =
      365 * year + year / 4 - year / 100 + year / 400 + day - 719468 := by
  have before : daysBeforeMonth ((5 * day + 2) / 153) ≤ day := by
    unfold daysBeforeMonth
    omega
  unfold ofMarch dayNumber
  dsimp only
  split
  · have month : ((5 * day + 2) / 153 + 3 + 9) % 12 = (5 * day + 2) / 153 := by omega
    dsimp only
    rw [month, if_neg (by omega)]
    omega
  · have month : ((5 * day + 2) / 153 - 9 + 9) % 12 = (5 * day + 2) / 153 := by omega
    dsimp only
    rw [month, if_pos (by omega)]
    omega

/-- The number of a date that a number stands for is the number itself. -/
theorem dayNumber_ofDayNumber (n : Int) : (ofDayNumber n).dayNumber = n := by
  obtain ⟨year, day, date, count, short⟩ := exists_inMarchYear n
  rw [date, dayNumber_ofMarch year (by omega), count]

/-- A month of the year, and a day that the month has. -/
structure Fits (d : Date) : Prop where
  month_pos : 1 ≤ d.month
  month_le : d.month ≤ 12
  day_pos : 1 ≤ d.day
  day_le : d.day ≤ daysInMonth d.year d.month

theorem fits_ofMarch {year : Int} {day : Nat}
    (short : day < 365 ∨ day = 365 ∧ isLeapYear (year + 1) = true) : (ofMarch year day).Fits := by
  have inYear : day < 366 := by omega
  suffices bounds : (1 ≤ (ofMarch year day).month ∧ (ofMarch year day).month ≤ 12) ∧
      1 ≤ (ofMarch year day).day ∧
      (ofMarch year day).day ≤ daysInMonth (ofMarch year day).year (ofMarch year day).month from
    ⟨bounds.1.1, bounds.1.2, bounds.2.1, bounds.2.2⟩
  unfold ofMarch daysInMonth daysBeforeMonth
  dsimp only
  split
  · dsimp only
    rw [if_neg (by omega)]
    refine ⟨by omega, by omega, ?_⟩
    split <;> omega
  · dsimp only
    refine ⟨by omega, by omega, ?_⟩
    split
    · split
      · omega
      · rename_i common
        have notLast : day < 365 := short.resolve_right fun leap => common leap.2
        omega
    · split <;> omega

theorem fits_ofDayNumber (n : Int) : (ofDayNumber n).Fits := by
  obtain ⟨year, day, date, -, short⟩ := exists_inMarchYear n
  rw [date]
  exact fits_ofMarch short

theorem year_ofMarch (year : Int) (day : Nat) :
    (ofMarch year day).year = if day < 306 then year else year + 1 := by
  unfold ofMarch
  dsimp only
  split
  · rw [if_pos (by omega)]
  · rw [if_neg (by omega)]

/-- From the first day of the year 0 to the last one of 9999 the year has at most four digits. -/
theorem year_ofDayNumber {n : Int} (first : (Date.mk 0 1 1).dayNumber ≤ n)
    (last : n < (Date.mk 10000 1 1).dayNumber) :
    0 ≤ (ofDayNumber n).year ∧ (ofDayNumber n).year ≤ 9999 := by
  have from0 : (Date.mk 0 1 1).dayNumber = -719528 := by decide
  have to10000 : (Date.mk 10000 1 1).dayNumber = 2932897 := by decide
  obtain ⟨year, day, date, count, short⟩ := exists_inMarchYear n
  have inYear : day < 366 := by omega
  rw [date, year_ofMarch]
  rw [from0] at first
  rw [to10000] at last
  have bounds : -1 ≤ year ∧ year ≤ 9999 := by omega
  split
  · have notBefore : year ≠ -1 := by omega
    omega
  · have notAfter : year ≠ 9999 := by omega
    omega

theorem isValid_of_fits {d : Date} (fits : d.Fits) (short : 0 ≤ d.year ∧ d.year ≤ 9999) :
    d.isValid = true := by
  obtain ⟨monthPos, monthLe, dayPos, dayLe⟩ := fits
  have inCalendar : minYear ≤ d.year ∧ d.year ≤ maxYear := by
    unfold minYear maxYear
    omega
  simp only [isValid, Bool.and_eq_true, decide_eq_true_eq]
  exact ⟨⟨⟨⟨inCalendar, monthPos⟩, monthLe⟩, dayPos⟩, dayLe⟩

end Date

end TestHistory.Time
