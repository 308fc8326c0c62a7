import EventRelay.Instant.Calendar

/-!
# Dates and their numbers

A day is counted from the first of March of the year zero, by eras of four hundred years, by the
years of an era, and by the months of a year, of which February comes last. Every number is that
of such a count, and the date of a count has its number and is a date.
-/

namespace EventRelay.Date

/-! ## Years of an era -/

/-- The day of an era on which a year starts. -/
def firstDay (year : Int) : Int :=
  365 * year + year / 4 - year / 100

/-- The day of an era on which a year ends; the last year of an era has a leap day. -/
def lastDay (year : Int) : Int :=
  firstDay (year + 1) + (year + 1) / 400 - 1

/-- The year of an era in which a day lies. -/
def yearAt (day : Int) : Int :=
  (day - day / 1460 + day / 36524 - day / 146096) / 365

theorem yearAt_mono {day later : Int} (le : day ≤ later) : yearAt day ≤ yearAt later := by
  have leaps : day - day / 1460 ≤ later - later / 1460 := by omega
  have centuries : day / 36524 ≤ later / 36524 := Int.ediv_le_ediv (by decide) le
  have eras (value : Int) : value / 146096 = value / 36524 / 4 := by omega
  unfold yearAt
  apply Int.ediv_le_ediv (by decide)
  rw [eras, eras]
  omega

theorem yearAt_range {day : Int} (least : 0 ≤ day) (most : day < 146097) :
    0 ≤ yearAt day ∧ yearAt day < 400 := by
  unfold yearAt
  omega

theorem yearAt_firstDay {year : Int} (least : 0 ≤ year) (most : year < 400) :
    yearAt (firstDay year) = year := by
  have each : ∀ year : Fin 400, yearAt (firstDay year.val) = year.val := by decide +kernel
  have found := each ⟨year.toNat, by omega⟩
  rwa [Int.toNat_of_nonneg least] at found

theorem yearAt_lastDay {year : Int} (least : 0 ≤ year) (most : year < 400) :
    yearAt (lastDay year) = year := by
  have each : ∀ year : Fin 400, yearAt (lastDay year.val) = year.val := by decide +kernel
  have found := each ⟨year.toNat, by omega⟩
  rwa [Int.toNat_of_nonneg least] at found

/-- A day lies between the first and the last day of its year. -/
theorem firstDay_yearAt_le {day : Int} (least : 0 ≤ day) (most : day < 146097) :
    firstDay (yearAt day) ≤ day ∧ day ≤ lastDay (yearAt day) := by
  obtain ⟨atLeast, atMost⟩ := yearAt_range least most
  constructor
  · -- Otherwise the day would not lie after the end of the year before.
    apply Int.not_lt.mp
    intro before
    have start : firstDay 0 = 0 := rfl
    have positive : 0 < yearAt day := by
      rcases Int.lt_or_eq_of_le atLeast with positive | zero
      · exact positive
      · rw [← zero, start] at before
        omega
    have ended : day ≤ lastDay (yearAt day - 1) := by
      rw [lastDay, Int.sub_add_cancel]
      omega
    have year := yearAt_mono ended
    rw [yearAt_lastDay (by omega) (by omega)] at year
    omega
  · apply Int.not_lt.mp
    intro after
    have finish : lastDay 399 = 146096 := rfl
    have notLast : yearAt day < 399 := by
      rcases Int.lt_or_eq_of_le (show yearAt day ≤ 399 by omega) with notLast | last
      · exact notLast
      · rw [last, finish] at after
        omega
    have started : firstDay (yearAt day + 1) ≤ day := by
      rw [lastDay] at after
      omega
    have year := yearAt_mono started
    rw [yearAt_firstDay (by omega) (by omega)] at year
    omega

/-! ## Counts -/

/-- The day of a year on which a month starts. -/
def monthStart (month : Int) : Int :=
  (153 * month + 2) / 5

/-- The month of the calendar. -/
def civilMonth (month : Int) : Int :=
  if month < 10 then month + 3 else month - 9

/-- Every month but the last is as long in all years. -/
theorem monthLength_civilMonth (year : Int) {month : Int} (least : 0 ≤ month) (most : month < 11) :
    (monthLength year (civilMonth month).toNat : Int) =
      monthStart (month + 1) - monthStart month := by
  have each : ∀ month : Fin 11, (civilMonth month.val).toNat ≠ 2 ∧
      ((if (civilMonth month.val).toNat = 4 ∨ (civilMonth month.val).toNat = 6 ∨
        (civilMonth month.val).toNat = 9 ∨ (civilMonth month.val).toNat = 11 then 30 else 31 : Nat) :
          Int) = monthStart (month.val + 1) - monthStart month.val := by
    decide
  obtain ⟨other, length⟩ := each ⟨month.toNat, by omega⟩
  rw [Int.toNat_of_nonneg least] at other length
  rw [monthLength, if_neg other]
  exact length

theorem monthLength_le (year : Int) (month : Nat) : monthLength year month ≤ 31 := by
  unfold monthLength
  split
  · split <;> decide
  · split <;> decide

/-- A day by era, year, month and day of the month, all counted from zero. -/
structure Count where
  /-- The era of four hundred years. -/
  era : Int
  /-- The year of the era. -/
  year : Int
  /-- The month of the year, from March on. -/
  month : Int
  /-- The day of the month. -/
  day : Int
  year_range : 0 ≤ year ∧ year < 400
  month_range : 0 ≤ month ∧ month < 12
  day_range : 0 ≤ day ∧ monthStart month + day < monthStart (month + 1)
  /-- The last month ends with the year. -/
  day_le : firstDay year + monthStart month + day ≤ lastDay year

namespace Count

/-- The number of a counted day. -/
def number (count : Count) : Int :=
  count.era * 146097 + firstDay count.year + monthStart count.month + count.day - 719468

/-- The date of a counted day; January and February belong to the year after. -/
def date (count : Count) : Date :=
  ⟨count.year + count.era * 400 + (if civilMonth count.month ≤ 2 then 1 else 0),
    (civilMonth count.month).toNat, (count.day + 1).toNat⟩

/-- The date of a counted day has its number. -/
theorem number_date (count : Count) : count.date.number = count.number := by
  obtain ⟨era, year, month, day, year_range, month_range, day_range, day_le⟩ := count
  have sameEra : (year + era * 400) / 400 = era := by omega
  have sameYear : (year + era * 400) % 400 = year := by omega
  simp only [date, civilMonth, number, Date.number, firstDay, monthStart]
  split
  · rw [if_neg (by omega), if_neg (by omega), Int.add_zero, sameEra, sameYear]
    omega
  · rw [if_pos (by omega), if_pos (by omega), Int.add_sub_cancel, sameEra, sameYear]
    omega

/-- A counted year has the leap day of the year in which it ends. -/
theorem lastDay_eq (count : Count) :
    lastDay count.year = firstDay count.year +
      if isLeapYear (count.year + count.era * 400 + 1) then 365 else 364 := by
  obtain ⟨era, year, month, day, year_range, month_range, day_range, day_le⟩ := count
  simp only [isLeapYear, Bool.and_eq_true, Bool.or_eq_true, beq_iff_eq, bne_iff_ne, lastDay,
    firstDay]
  split <;> omega

/-- A counted day lies in its month. -/
theorem day_lt_monthLength (count : Count) :
    count.day < monthLength count.date.year count.date.month := by
  by_cases last : count.month = 11
  · have ends := count.day_le
    rw [count.lastDay_eq, last, show monthStart 11 = 337 from rfl] at ends
    rw [date, last, show (civilMonth 11).toNat = 2 from rfl, monthLength, if_pos rfl]
    change count.day < ((if isLeapYear (count.year + count.era * 400 + 1) then 29 else 28 : Nat) :
      Int)
    by_cases leap : isLeapYear (count.year + count.era * 400 + 1) = true
    · rw [if_pos leap] at ends ⊢
      omega
    · rw [if_neg leap] at ends ⊢
      omega
  · obtain ⟨least, most⟩ := count.month_range
    have inside := count.day_range.2
    rw [date, monthLength_civilMonth _ least (by omega)]
    omega

/-- The date of a counted day is a date, as long as its year has dates. -/
theorem isValid_date (count : Count)
    (range : leastYear ≤ count.date.year ∧ count.date.year ≤ greatestYear) :
    count.date.isValid = true := by
  have inMonth := count.day_lt_monthLength
  have month : 1 ≤ count.date.month ∧ count.date.month ≤ 12 := by
    have := count.month_range
    simp only [date, civilMonth]
    split <;> omega
  have day : count.date.day = (count.day + 1).toNat := rfl
  have := count.day_range.1
  simp only [isValid, Bool.and_eq_true, decide_eq_true_eq]
  refine ⟨⟨⟨⟨⟨range.1, range.2⟩, month.1⟩, month.2⟩, ?_⟩, ?_⟩ <;> omega

end Count

/-! ## The count of a number -/

/-- The day of its year that a day of an era is. -/
def dayOfYear (day : Int) : Int :=
  day - firstDay (yearAt day)

/-- The month of a year in which a day lies. -/
def monthAt (day : Int) : Int :=
  (5 * day + 2) / 153

theorem monthStart_monthAt_le (day : Int) :
    monthStart (monthAt day) ≤ day ∧ day < monthStart (monthAt day + 1) := by
  unfold monthStart monthAt
  omega

theorem dayOfYear_range {day : Int} (least : 0 ≤ day) (most : day < 146097) :
    0 ≤ dayOfYear day ∧ dayOfYear day < 366 := by
  have inYear := firstDay_yearAt_le least most
  have years := yearAt_range least most
  have length : lastDay (yearAt day) ≤ firstDay (yearAt day) + 365 := by
    generalize yearAt day = year at years
    unfold lastDay firstDay
    omega
  unfold dayOfYear
  omega

/-- The day of an era, counted. -/
def Count.ofDay (era : Int) {day : Int} (least : 0 ≤ day) (most : day < 146097) : Count where
  era := era
  year := yearAt day
  month := monthAt (dayOfYear day)
  day := dayOfYear day - monthStart (monthAt (dayOfYear day))
  year_range := yearAt_range least most
  month_range := by
    have range := dayOfYear_range least most
    unfold monthAt
    omega
  day_range := by
    have range := monthStart_monthAt_le (dayOfYear day)
    omega
  day_le := by
    have inYear := firstDay_yearAt_le least most
    unfold dayOfYear
    omega

/-- Every number is that of a counted day. -/
theorem exists_count (value : Int) :
    ∃ count : Count, count.number = value ∧ count.date = ofNumber value := by
  have least : 0 ≤ (value + 719468) % 146097 := Int.emod_nonneg _ (by decide)
  have most : (value + 719468) % 146097 < 146097 := Int.emod_lt_of_pos _ (by decide)
  refine ⟨.ofDay ((value + 719468) / 146097) least most, ?_, ?_⟩
  · simp only [Count.number, Count.ofDay, dayOfYear]
    omega
  · rfl

/-- The date with a number has this number. -/
theorem number_ofNumber (value : Int) : (ofNumber value).number = value := by
  obtain ⟨count, rfl, date⟩ := exists_count value
  rw [← date, count.number_date]

/-- The days of the years that have dates. -/
theorem isValid_ofNumber {value : Int} (least : -96465292 ≤ value) (most : value < 95026237) :
    (ofNumber value).isValid = true := by
  obtain ⟨count, number, date⟩ := exists_count value
  rw [← date]
  apply count.isValid_date
  obtain ⟨era, year, month, day, year_range, month_range, day_range, day_le⟩ := count
  simp only [Count.number, firstDay, lastDay, monthStart] at number day_range day_le
  simp only [Count.date, civilMonth, leastYear, greatestYear]
  -- Only in the first and the last era are there years without dates.
  have eras : era = -656 ∨ era = 655 ∨ (-655 ≤ era ∧ era ≤ 654) := by omega
  rcases eras with rfl | rfl | between
  · split <;> split <;> omega
  · split <;> split <;> omega
  · split <;> omega

end EventRelay.Date
