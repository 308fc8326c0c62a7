/-!
# The calendar

Dates of the Gregorian calendar, extended to every year in both directions, and
their numbers: the day of the first of January 1970 has number zero. Numbers are
counted from the first of March of a year divisible by 400, so the leap day is
the last day of a counted year.
-/

namespace EventRelay

/-- A date by year, month and day of the month. -/
structure Date where
  /-- The year; the year before year one is year zero. -/
  year : Int
  /-- The month, from one. -/
  month : Nat
  /-- The day of the month, from one. -/
  day : Nat
  deriving DecidableEq, Repr

namespace Date

/-- Whether a year has a twenty-ninth of February. -/
def isLeapYear (year : Int) : Bool :=
  year % 4 == 0 && (year % 100 != 0 || year % 400 == 0)

/-- How many days a month has. -/
def monthLength (year : Int) (month : Nat) : Nat :=
  if month = 2 then (if isLeapYear year then 29 else 28)
  else if month = 4 ∨ month = 6 ∨ month = 9 ∨ month = 11 then 30
  else 31

/-- The first and the last year with dates. -/
def leastYear : Int := -262143

@[inherit_doc leastYear]
def greatestYear : Int := 262142

/-- Whether a year, a month and a day name a date. -/
def isValid (date : Date) : Bool :=
  leastYear ≤ date.year && date.year ≤ greatestYear &&
    1 ≤ date.month && date.month ≤ 12 &&
    1 ≤ date.day && date.day ≤ monthLength date.year date.month

/-- The number of a date. -/
def number (date : Date) : Int :=
  let year := if date.month ≤ 2 then date.year - 1 else date.year
  let era := year / 400
  let yearOfEra := year % 400
  let month : Int := (date.month + 9) % 12
  let dayOfYear := (153 * month + 2) / 5 + date.day - 1
  let dayOfEra := yearOfEra * 365 + yearOfEra / 4 - yearOfEra / 100 + dayOfYear
  era * 146097 + dayOfEra - 719468

/-- The date with a number. -/
def ofNumber (number : Int) : Date :=
  let shifted := number + 719468
  let era := shifted / 146097
  let dayOfEra := shifted % 146097
  let yearOfEra :=
    (dayOfEra - dayOfEra / 1460 + dayOfEra / 36524 - dayOfEra / 146096) / 365
  let dayOfYear := dayOfEra - (365 * yearOfEra + yearOfEra / 4 - yearOfEra / 100)
  let month := (5 * dayOfYear + 2) / 153
  let day := dayOfYear - (153 * month + 2) / 5 + 1
  let civilMonth := if month < 10 then month + 3 else month - 9
  let year := yearOfEra + era * 400 + (if civilMonth ≤ 2 then 1 else 0)
  ⟨year, civilMonth.toNat, day.toNat⟩

example : (⟨1970, 1, 1⟩ : Date).number = 0 := by decide
example : ofNumber (-1) = ⟨1969, 12, 31⟩ := by decide
example : ofNumber (⟨2000, 2, 29⟩ : Date).number = ⟨2000, 2, 29⟩ := by decide
example : ofNumber (⟨-262143, 1, 1⟩ : Date).number = ⟨-262143, 1, 1⟩ := by decide

end Date

end EventRelay
