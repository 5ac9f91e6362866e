/-! Calendar dates. A date is counted in days from the first of January 1970 in the proleptic
Gregorian calendar, and years run from -262143 through 262142.
-/

namespace FieldFilter.Calendar

def secondsPerDay : Int := 86400

/-- A date, as the number of days from 1970-01-01. -/
structure Date where
  day : Int
  deriving DecidableEq, Repr

namespace Date

/-- The first day of the calendar, -262143-01-01. -/
def firstDay : Int := -96465292

/-- The last day of the calendar, 262142-12-31. -/
def lastDay : Int := 95026236

/-- The date with a day number, if the calendar has it. -/
def ofDay? (day : Int) : Option Date :=
  if firstDay ≤ day ∧ day ≤ lastDay then some ⟨day⟩ else none

def next? (d : Date) : Option Date :=
  ofDay? (d.day + 1)

/-- The date on which a clock that counts seconds from 1970-01-01 00:00 shows `reading`. -/
def ofReading? (reading : Int) : Option Date :=
  ofDay? (reading / secondsPerDay)

/-- The reading of such a clock when the date starts. -/
def midnight (d : Date) : Int :=
  d.day * secondsPerDay

def isLeapYear (year : Int) : Bool :=
  year % 4 == 0 && (year % 100 != 0 || year % 400 == 0)

def daysInMonth (year : Int) (month : Nat) : Nat :=
  if month = 2 then if isLeapYear year then 29 else 28
  else if month = 4 ∨ month = 6 ∨ month = 9 ∨ month = 11 then 30
  else 31

/-- The day number of a year, month and day. The year is taken to start in March, so that the
leap day comes last, and four centuries always have 146097 days. -/
def dayNumber (year : Int) (month day : Nat) : Int :=
  let y := if month ≤ 2 then year - 1 else year
  let era := y / 400
  let yearOfEra := y % 400
  let monthFromMarch : Int := ((month + 9) % 12 : Nat)
  let dayOfYear := (153 * monthFromMarch + 2) / 5 + day - 1
  let dayOfEra := yearOfEra * 365 + yearOfEra / 4 - yearOfEra / 100 + dayOfYear
  era * 146097 + dayOfEra - 719468

/-- The date of a year, month and day, if there is one. -/
def ofCivil? (year : Int) (month day : Nat) : Option Date :=
  if 1 ≤ month ∧ month ≤ 12 ∧ 1 ≤ day ∧ day ≤ daysInMonth year month then
    ofDay? (dayNumber year month day)
  else none

/-- The year, month and day of a date. -/
def civil (d : Date) : Int × Nat × Nat :=
  let z := d.day + 719468
  let era := z / 146097
  let dayOfEra := z % 146097
  let yearOfEra := (dayOfEra - dayOfEra / 1460 + dayOfEra / 36524 - dayOfEra / 146096) / 365
  let dayOfYear := dayOfEra - (365 * yearOfEra + yearOfEra / 4 - yearOfEra / 100)
  let monthFromMarch := (5 * dayOfYear + 2) / 153
  let day := dayOfYear - (153 * monthFromMarch + 2) / 5 + 1
  let month := if monthFromMarch < 10 then monthFromMarch + 3 else monthFromMarch - 9
  let year := yearOfEra + era * 400
  (if month ≤ 2 then year + 1 else year, month.toNat, day.toNat)

def padded (width n : Nat) : String :=
  let digits := Nat.toDigits 10 n
  String.ofList (List.replicate (width - digits.length) '0' ++ digits)

/-- The year with at least four digits, and with a sign unless it is between 0 and 9999. -/
def yearText (year : Int) : String :=
  if 0 ≤ year ∧ year ≤ 9999 then padded 4 year.toNat
  else if year < 0 then "-" ++ padded 4 year.natAbs
  else "+" ++ padded 4 year.natAbs

/-- The date as year, month and day, separated by hyphens. -/
def text (d : Date) : String :=
  let (year, month, day) := d.civil
  yearText year ++ "-" ++ padded 2 month ++ "-" ++ padded 2 day

theorem ofDay?_eq_some_iff {day : Int} {d : Date}
    : ofDay? day = some d ↔ (firstDay ≤ day ∧ day ≤ lastDay) ∧ d = ⟨day⟩ := by
  simp [ofDay?, eq_comm]

end Date

end FieldFilter.Calendar
