import CommitSearch.Calendar.Instant

/-!
# Days of the Gregorian calendar

Days are counted from the first of January 1970. The count and the date go over into each other by
way of years that begin in March, so that the leap day ends a year, and of eras of four hundred
years, after which the calendar repeats.
-/

namespace CommitSearch.Calendar

/-- A date of the proleptic Gregorian calendar. -/
structure Day where
  year : Int
  month : Nat
  day : Nat
deriving DecidableEq, Repr

def isLeapYear (year : Int) : Bool := year % 4 == 0 && (year % 100 != 0 || year % 400 == 0)

def monthLength (year : Int) (month : Nat) : Nat :=
  if month = 2 then (if isLeapYear year then 29 else 28)
  else if month = 4 ∨ month = 6 ∨ month = 9 ∨ month = 11 then 30
  else 31

def isCalendarYear (year : Int) : Bool := -262143 ≤ year && year ≤ 262142

def Day.isValid (d : Day) : Bool :=
  isCalendarYear d.year && 1 ≤ d.month && d.month ≤ 12 && 1 ≤ d.day &&
    d.day ≤ monthLength d.year d.month

def daysPerEra : Int := 146097

/-- The number of the day on which the first era began: the first of March of the year zero. -/
def eraStart : Int := -719468

def Day.number (d : Day) : Int :=
  let year := if d.month ≤ 2 then d.year - 1 else d.year
  let era := year / 400
  let yearOfEra := year % 400
  let monthFromMarch : Int := if d.month ≤ 2 then d.month + 9 else d.month - 3
  let dayOfYear := (153 * monthFromMarch + 2) / 5 + d.day - 1
  let dayOfEra := yearOfEra * 365 + yearOfEra / 4 - yearOfEra / 100 + dayOfYear
  era * daysPerEra + dayOfEra + eraStart

/-- The date a number of days after the beginning of 1970. -/
def Day.ofNumber (n : Int) : Day :=
  let shifted := n - eraStart
  let era := shifted / daysPerEra
  let dayOfEra := shifted % daysPerEra
  let yearOfEra :=
    (dayOfEra - dayOfEra / 1460 + dayOfEra / 36524 - dayOfEra / 146096) / 365
  let dayOfYear := dayOfEra - (365 * yearOfEra + yearOfEra / 4 - yearOfEra / 100)
  let monthFromMarch := (5 * dayOfYear + 2) / 153
  let day := dayOfYear - (153 * monthFromMarch + 2) / 5 + 1
  let month := if monthFromMarch < 10 then monthFromMarch + 3 else monthFromMarch - 9
  let year := yearOfEra + era * 400
  ⟨if month ≤ 2 then year + 1 else year, month.toNat, day.toNat⟩

def dayOfSecond (seconds : Int) : Int := seconds / 86400

def secondOfDay (seconds : Int) : Nat := (seconds % 86400).toNat

def Day.start (d : Day) : Instant := .ofSeconds (d.number * 86400)

end CommitSearch.Calendar
