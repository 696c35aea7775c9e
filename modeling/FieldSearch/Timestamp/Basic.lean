import FieldSearch.Calendar
import FieldSearch.Numeral

namespace FieldSearch

/-!
# Timestamps

Points in time in whole milliseconds since 1970-01-01T00:00:00Z. Those that
fall on a supported date are written as date and time of day; others as their
number of milliseconds.
-/

/-- A point in time. -/
structure Timestamp where
  millis : Int64
  deriving Repr, DecidableEq

namespace Timestamp

/-- Milliseconds in a second. -/
def millisPerSecond : Int := 1000

/-- Milliseconds in a day. -/
def millisPerDay : Int := 86400000

/-- The point at a number of milliseconds, if it is in range. -/
def ofMillis? (millis : Int) : Option Timestamp :=
  (Numeral.int64? millis).map (⟨·⟩)

/-- The point at a number of seconds, if its milliseconds are in range. -/
def ofSeconds? (seconds : Int) : Option Timestamp :=
  ofMillis? (seconds * millisPerSecond)

/-- The point at the start of a day numbered from 1970-01-01. -/
def ofDays? (days : Int) : Option Timestamp :=
  ofMillis? (days * millisPerDay)

/-- The point at a number of seconds and further nanoseconds, cut to milliseconds. -/
def ofSecondsAndNanos? (seconds nanos : Int) : Option Timestamp :=
  ofMillis? (seconds * millisPerSecond + nanos / 1000000)

/-- Whole seconds, cut toward zero. -/
def seconds (timestamp : Timestamp) : Int :=
  timestamp.millis.toInt.tdiv millisPerSecond

/-- Compare two points in time. -/
def compare (left right : Timestamp) : Ordering :=
  Ord.compare left.millis.toInt right.millis.toInt

/-- The number of the day that a point falls on. -/
def dayNumber (timestamp : Timestamp) : Int :=
  timestamp.millis.toInt / millisPerDay

/-- The day of a point is one of the supported dates. -/
def inCalendar (timestamp : Timestamp) : Bool :=
  (Date.mk Date.minYear 1 1).toDays ≤ timestamp.dayNumber &&
    timestamp.dayNumber ≤ (Date.mk Date.maxYear 12 31).toDays

/-- A year in at least four digits, with a sign unless it has exactly four. -/
def yearChars (year : Int) : List Char :=
  let digits := Numeral.paddedDigits 4 year.natAbs
  if year < 0 then
    '-' :: digits
  else if 9999 < year then
    '+' :: digits
  else
    digits

/-- A date as year, month and day. -/
def dateChars (date : Date) : List Char :=
  yearChars date.year ++ '-' :: Numeral.paddedDigits 2 date.month ++
    '-' :: Numeral.paddedDigits 2 date.day

/-- A time of day, given in milliseconds since midnight. -/
def timeChars (millis : Nat) : List Char :=
  Numeral.paddedDigits 2 (millis / 3600000) ++
    ':' :: Numeral.paddedDigits 2 (millis / 60000 % 60) ++
    ':' :: Numeral.paddedDigits 2 (millis / 1000 % 60) ++
    '.' :: Numeral.paddedDigits 3 (millis % 1000)

/-- The written form of a point in time. -/
def toChars (timestamp : Timestamp) : List Char :=
  if timestamp.inCalendar then
    dateChars (Date.ofDays timestamp.dayNumber) ++
      'T' :: timeChars (timestamp.millis.toInt % millisPerDay).toNat ++ ['Z']
  else
    Numeral.intChars timestamp.millis.toInt ++ ['m', 's']

instance : ToString Timestamp where
  toString timestamp := String.ofList timestamp.toChars

end Timestamp

end FieldSearch
