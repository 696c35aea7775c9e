namespace FieldSearch

/-!
# Calendar dates

Dates of the proleptic Gregorian calendar, with a year zero and negative years,
and their numbers in days since 1970-01-01. A date's number adds up whole years
and whole months; the date of a number is found back in the same sums.
-/

namespace Calendar

/-- Leap years: every fourth, but of the centuries every fourth only. -/
def isLeapYear (year : Int) : Bool :=
  year % 4 == 0 && (year % 100 != 0 || year % 400 == 0)

/-- The lengths of the months of a year. -/
def monthLengths (year : Int) : List Nat :=
  [31, if isLeapYear year then 29 else 28, 31, 30, 31, 30, 31, 31, 30, 31, 30, 31]

/-- The length of a month, numbered from one. -/
def monthLength (year : Int) (month : Nat) : Nat :=
  if month = 0 then 0 else (monthLengths year).getD (month - 1) 0

/-- Days from the start of year zero to the start of a year. -/
def daysBeforeYear (year : Int) : Int :=
  365 * year + (year + 3) / 4 - (year + 99) / 100 + (year + 399) / 400

/-- Days from the start of a year to the start of a month, numbered from one. -/
def daysBeforeMonth (year : Int) (month : Nat) : Nat :=
  ((monthLengths year).take (month - 1)).foldl (· + ·) 0

/-- Days from the start of year zero to 1970-01-01. -/
def epochDay : Int := 719528

/-- The year that holds a day counted from the start of year zero. -/
def yearOfDay (day : Int) : Int :=
  let guess := day * 400 / 146097
  if day < daysBeforeYear guess then
    guess - 1
  else if daysBeforeYear (guess + 1) ≤ day then
    guess + 1
  else
    guess

/-- Find the month and day in a list of month lengths, given the days to pass. -/
def monthOfDay : List Nat → Nat → Nat × Nat
  | [], days => (1, days + 1)
  | length :: lengths, days =>
      if days < length then
        (1, days + 1)
      else
        let (month, day) := monthOfDay lengths (days - length)
        (month + 1, day)

end Calendar

/-- A date, whether it exists in the calendar or not. -/
structure Date where
  year : Int
  month : Nat
  day : Nat
  deriving Repr, DecidableEq

namespace Date

/-- The first year that dates are supported for. -/
def minYear : Int := -262143

/-- The last year that dates are supported for. -/
def maxYear : Int := 262142

/-- The date exists in the calendar and its year is supported. -/
def isValid (date : Date) : Bool :=
  minYear ≤ date.year && date.year ≤ maxYear &&
    1 ≤ date.month && date.month ≤ 12 &&
    1 ≤ date.day && date.day ≤ Calendar.monthLength date.year date.month

/-- Days from 1970-01-01 to a date. -/
def toDays (date : Date) : Int :=
  Calendar.daysBeforeYear date.year +
    Calendar.daysBeforeMonth date.year date.month + date.day - 1 - Calendar.epochDay

/-- The date at a number of days from 1970-01-01. -/
def ofDays (days : Int) : Date :=
  let day := days + Calendar.epochDay
  let year := Calendar.yearOfDay day
  let (month, dayOfMonth) :=
    Calendar.monthOfDay (Calendar.monthLengths year)
      (day - Calendar.daysBeforeYear year).toNat
  { year := year, month := month, day := dayOfMonth }

end Date

end FieldSearch
