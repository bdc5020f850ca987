import EntitySql.Calendar.Date

/-!
# Every day has a year, a month and a day of the month

Year, month and day of the month of a day number exist in the calendar and lead back to the number
(`CivilDate.toDays_ofDays`), so a date is found again from them (`Date.ofCivil?_civil`), and its
year is one of -9999 to 9999.

**March years.** In an era the years that start on 1 March are counted by centuries, by groups of
four years, and by years of a group. The last day of a group is a leap day, unless the group ends a
century that does not end the era; this is the invariant that all divisions rest on.
-/

namespace EntitySql

set_option autoImplicit false

/-- A day counted from 1 March of year 0: by eras, centuries of an era, groups of four years of a
century, years of a group, and days of a year. -/
structure MarchDay where
  era : Int
  century : Int
  group : Int
  year : Int
  day : Int
  century_range : 0 ≤ century ∧ century ≤ 3
  group_range : 0 ≤ group ∧ group ≤ 24
  year_range : 0 ≤ year ∧ year ≤ 3
  day_range : 0 ≤ day ∧ day ≤ 365
  leap : day = 365 → year = 3 ∧ (group = 24 → century = 3)

namespace MarchDay

/-- The day within its era. -/
def dayOfEra (m : MarchDay) : Int := 36524 * m.century + 1461 * m.group + 365 * m.year + m.day

/-- The year within its era. -/
def yearOfEra (m : MarchDay) : Int := 100 * m.century + 4 * m.group + m.year

/-- The days before it. -/
def number (m : MarchDay) : Int := m.era * 146097 + m.dayOfEra

/-- The month, March being the first of twelve from 0 on. -/
def month (m : MarchDay) : Int := (5 * m.day + 2) / 153

/-- Year, month and day of the month. -/
def civil (m : MarchDay) : CivilDate where
  year := m.yearOfEra + m.era * 400 + if m.month < 10 then 0 else 1
  month := (if m.month < 10 then m.month + 3 else m.month - 9).toNat
  day := (m.day - (153 * m.month + 2) / 5 + 1).toNat

theorem exists_of_dayOfEra (era : Int) {n : Int} (low : 0 ≤ n) (high : n < 146097) :
    ∃ m : MarchDay, m.era = era ∧ m.dayOfEra = n := by
  have century : ∃ c r : Int, (0 ≤ c ∧ c ≤ 3) ∧ (0 ≤ r ∧ r ≤ 36524) ∧ (r = 36524 → c = 3) ∧
      n = 36524 * c + r := by
    by_cases last : n < 4 * 36524
    · exact ⟨n / 36524, n % 36524, by omega, by omega, by omega, by omega⟩
    · exact ⟨3, 36524, by omega, by omega, by omega, by omega⟩
  obtain ⟨c, r, centuries, rest, lastOfEra, rfl⟩ := century
  have year : ∃ y d : Int, (0 ≤ y ∧ y ≤ 3) ∧ (0 ≤ d ∧ d ≤ 365) ∧ (d = 365 → y = 3) ∧
      r % 1461 = 365 * y + d := by
    by_cases last : r % 1461 < 1460
    · exact ⟨r % 1461 / 365, r % 1461 % 365, by omega, by omega, by omega, by omega⟩
    · exact ⟨3, 365, by omega, by omega, by omega, by omega⟩
  obtain ⟨y, d, years, days, leapDay, split⟩ := year
  exact ⟨⟨era, c, r / 1461, y, d, centuries, by omega, years, days, by omega⟩, rfl,
    by simp only [dayOfEra]; omega⟩

/-- Every day is counted. -/
theorem exists_of_number (n : Int) : ∃ m : MarchDay, m.number = n := by
  obtain ⟨m, era, day⟩ := exists_of_dayOfEra (n / 146097) (n := n % 146097) (by omega) (by omega)
  exact ⟨m, by rw [number, era, day]; omega⟩

variable (m : MarchDay)

theorem dayOfEra_range : 0 ≤ m.dayOfEra ∧ m.dayOfEra < 146097 := by
  obtain ⟨era, c, q, y, d, hc, hq, hy, hd, leap⟩ := m
  simp only [dayOfEra]
  omega

theorem yearOfEra_range : 0 ≤ m.yearOfEra ∧ m.yearOfEra < 400 := by
  obtain ⟨era, c, q, y, d, hc, hq, hy, hd, leap⟩ := m
  simp only [yearOfEra]
  omega

/-- The year of the era from its day: every group of four years has a day more than four times
365, every century one less than its groups, every era one more than its centuries. -/
theorem yearOfEra_eq : (m.dayOfEra - m.dayOfEra / 1460 + m.dayOfEra / 36524 -
    m.dayOfEra / 146096) / 365 = m.yearOfEra := by
  obtain ⟨era, c, q, y, d, hc, hq, hy, hd, leap⟩ := m
  simp only [dayOfEra, yearOfEra]
  generalize days : 36524 * c + 1461 * q + 365 * y + d = n
  have eras : n / 146096 = 0 ∨ n / 146096 = 1 ∧ n = 146096 := by omega
  have centuries : n / 36524 = c ∨ n = 146096 := by omega
  have groups : n / 1460 = 25 * c + q ∨ n / 1460 = 25 * c + q + 1 := by omega
  omega

theorem yearOfEra_div : m.yearOfEra / 4 = 25 * m.century + m.group ∧
    m.yearOfEra / 100 = m.century := by
  obtain ⟨era, c, q, y, d, hc, hq, hy, hd, leap⟩ := m
  simp only [yearOfEra]
  omega

theorem month_range : 0 ≤ m.month ∧ m.month ≤ 11 := by
  have := m.day_range
  simp only [month]
  omega

/-- **Year, month and day of the month are those counted from March.** -/
theorem ofDays_number : CivilDate.ofDays (m.number - 719468) = m.civil := by
  have range := m.dayOfEra_range
  have shifted : m.number - 719468 + 719468 = m.number := by omega
  have era : m.number / 146097 = m.era := by simp only [number]; omega
  have day : m.number % 146097 = m.dayOfEra := by simp only [number]; omega
  have dayOfYear : m.dayOfEra - (365 * m.yearOfEra + m.yearOfEra / 4 - m.yearOfEra / 100) =
      m.day := by
    rw [m.yearOfEra_div.1, m.yearOfEra_div.2]
    simp only [dayOfEra, yearOfEra]
    omega
  simp only [CivilDate.ofDays, CivilDate.epochShift, CivilDate.daysPerEra, shifted, era, day,
    m.yearOfEra_eq, dayOfYear]
  by_cases early : (5 * m.day + 2) / 153 < 10 <;> simp [civil, month, early]

/-- The last day of a leap year of March years is 29 February. -/
theorem isLeap_of_day (last : m.day = 365) :
    CivilDate.isLeap (m.yearOfEra + m.era * 400 + 1) = true := by
  obtain ⟨era, c, q, y, d, hc, hq, hy, hd, leap⟩ := m
  simp only [CivilDate.isLeap, yearOfEra, Bool.and_eq_true, Bool.or_eq_true, bne_iff_ne,
    beq_iff_eq] at last ⊢
  omega

/-- Two months of a year of March are of the next calendar year. -/
theorem civil_cases :
    (m.month < 10 ∧ m.civil.year = m.yearOfEra + m.era * 400 ∧
      (m.civil.month : Int) = m.month + 3) ∨
    (10 ≤ m.month ∧ m.civil.year = m.yearOfEra + m.era * 400 + 1 ∧
      (m.civil.month : Int) = m.month - 9) := by
  have months := m.month_range
  by_cases early : m.month < 10
  · exact .inl ⟨early, by simp [civil, early], by simp only [civil, early, if_true]; omega⟩
  · exact .inr ⟨by omega, by simp [civil, early], by simp only [civil, early, if_false]; omega⟩

theorem civil_day : (m.civil.day : Int) = m.day - (153 * m.month + 2) / 5 + 1 := by
  have := m.day_range
  simp only [civil, month]
  omega

theorem day_le_daysInMonth :
    (m.civil.day : Int) ≤ CivilDate.daysInMonth m.civil.year m.civil.month := by
  have range := m.day_range
  have month : m.month = (5 * m.day + 2) / 153 := rfl
  rw [m.civil_day]
  by_cases february : m.civil.month = 2
  · have year : m.civil.year = m.yearOfEra + m.era * 400 + 1 := by
      have := m.civil_cases
      omega
    rw [CivilDate.daysInMonth, if_pos february, year]
    have last := m.civil_cases
    split
    · omega
    · rename_i noLeap
      have : m.day ≠ 365 := fun last => noLeap (m.isLeap_of_day last)
      omega
  · rw [CivilDate.daysInMonth, if_neg february]
    have cases := m.civil_cases
    split <;> omega

/-- Month and day exist. -/
theorem isValid_civil : m.civil.isValid = true := by
  have range := m.day_range
  have month : m.month = (5 * m.day + 2) / 153 := rfl
  have cases := m.civil_cases
  have day := m.civil_day
  have last := m.day_le_daysInMonth
  simp only [CivilDate.isValid, Bool.and_eq_true, decide_eq_true_eq]
  omega

/-- The number of the day is found from year, month and day of the month. -/
theorem toDays_civil : m.civil.toDays = m.number - 719468 := by
  have years := m.yearOfEra_range
  have months := m.month_range
  have cases := m.civil_cases
  have year : (if m.civil.month ≤ 2 then m.civil.year - 1 else m.civil.year) =
      m.yearOfEra + m.era * 400 := by
    split <;> omega
  have march : (if m.civil.month ≤ 2 then (m.civil.month : Int) + 9 else m.civil.month - 3) =
      m.month := by
    split <;> omega
  have era : (m.yearOfEra + m.era * 400) / 400 = m.era := by omega
  have yearOfEra : (m.yearOfEra + m.era * 400) % 400 = m.yearOfEra := by omega
  simp only [CivilDate.toDays, CivilDate.epochShift, CivilDate.daysPerEra, year, march,
    m.civil_day, era, yearOfEra, m.yearOfEra_div]
  simp only [number, dayOfEra, MarchDay.yearOfEra]
  omega

/-- The days of the years -9999 to 9999 are in the eras from -25 to 24. -/
theorem civil_year_range (first : -3652119 ≤ m.number) (last : m.number ≤ 3652364) :
    -9999 ≤ m.civil.year ∧ m.civil.year ≤ 9999 := by
  have cases := m.civil_cases
  have month : m.month = (5 * m.day + 2) / 153 := rfl
  have number : m.number = m.era * 146097 + (36524 * m.century + 1461 * m.group + 365 * m.year +
    m.day) := rfl
  have year : m.yearOfEra = 100 * m.century + 4 * m.group + m.year := rfl
  have centuries := m.century_range
  have groups := m.group_range
  have years := m.year_range
  have days := m.day_range
  have eras : -25 ≤ m.era ∧ m.era ≤ 24 := by omega
  omega

end MarchDay

/-- **A day is found again from its year, month and day of the month.** -/
theorem CivilDate.toDays_ofDays (n : Int) : (CivilDate.ofDays n).toDays = n := by
  obtain ⟨m, number⟩ := MarchDay.exists_of_number (n + 719468)
  have day : n = m.number - 719468 := by omega
  rw [day, m.ofDays_number, m.toDays_civil]

/-- **The month and the day of the month of a day exist.** -/
theorem CivilDate.isValid_ofDays (n : Int) : (CivilDate.ofDays n).isValid = true := by
  obtain ⟨m, number⟩ := MarchDay.exists_of_number (n + 719468)
  have day : n = m.number - 719468 := by omega
  rw [day, m.ofDays_number]
  exact m.isValid_civil

/-- Months and days of the month have two digits. -/
theorem CivilDate.month_day_range {c : CivilDate} (valid : c.isValid = true) :
    1 ≤ c.month ∧ c.month ≤ 12 ∧ 1 ≤ c.day ∧ c.day ≤ 31 := by
  simp only [isValid, Bool.and_eq_true, decide_eq_true_eq] at valid
  obtain ⟨⟨⟨january, december⟩, first⟩, last⟩ := valid
  have most : daysInMonth c.year c.month ≤ 31 := by
    simp only [daysInMonth]
    split <;> split <;> decide
  exact ⟨january, december, first, Nat.le_trans last most⟩

/-- The years of a range of days. -/
theorem CivilDate.year_range {n : Int} (first : -4371587 ≤ n) (last : n ≤ 2932896) :
    -9999 ≤ (CivilDate.ofDays n).year ∧ (CivilDate.ofDays n).year ≤ 9999 := by
  obtain ⟨m, number⟩ := MarchDay.exists_of_number (n + 719468)
  have day : n = m.number - 719468 := by omega
  rw [day, m.ofDays_number]
  exact m.civil_year_range (by omega) (by omega)

/-- **A date is found again from its year, month and day of the month.** -/
theorem Date.ofCivil?_civil (d : Date) : Date.ofCivil? d.civil = some d := by
  have valid : d.civil.isValid = true := CivilDate.isValid_ofDays d.day
  rw [ofCivil?, if_pos valid, civil, CivilDate.toDays_ofDays, ofDay?_day]

end EntitySql
