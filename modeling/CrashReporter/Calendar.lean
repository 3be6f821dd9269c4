/-!
# Days of the calendar

The Gregorian calendar, carried on to all years before and after. It ends with a last year; the day
after its last one has no date.
-/

namespace CrashReporter

/-- A day by year, month and day of the month. -/
structure Date where
  year : Int
  month : Nat
  day : Nat
  deriving DecidableEq

namespace Calendar

/-- The last year that has dates. -/
def lastYear : Int := 262142

/-- Whether a year has a leap day: each fourth year has, but of the full centuries only each
fourth. -/
def isLeap (year : Int) : Bool := year % 4 = 0 ∧ (year % 100 ≠ 0 ∨ year % 400 = 0)

/-- The number of days of a month. -/
def monthLength (year : Int) (month : Nat) : Nat :=
  if month = 2 then (if isLeap year then 29 else 28)
  else if month ∈ [4, 6, 9, 11] then 30
  else 31

end Calendar

/-- The length of a day's month, found from the first day of the month that follows; a month that
none follows counts as 28 days. -/
def Date.monthLength (d : Date) : Nat :=
  if d.month = 12 ∧ Calendar.lastYear ≤ d.year then 28 else Calendar.monthLength d.year d.month

end CrashReporter
