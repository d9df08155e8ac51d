/-!
# Calendar dates

A date of the proleptic Gregorian calendar, with years from −262143 to 262142; year 0 is the year
before year 1. The bounds and the length of the month are part of the type, so every value is a day
that exists. `dayNumber` counts days across years, and `next?` and `previous?` walk one day.
-/

namespace FleetTraffic

/-- Leap years are the multiples of four, except the multiples of a hundred that are no multiples of
four hundred. -/
def isLeapYear (year : Int) : Bool := year % 4 == 0 && (year % 100 != 0 || year % 400 == 0)

/-- The number of days in a month. -/
def daysInMonth (year : Int) (month : Nat) : Nat :=
  if month = 2 then if isLeapYear year then 29 else 28
  else if month = 4 ∨ month = 6 ∨ month = 9 ∨ month = 11 then 30
  else 31

/-- The first year that a date can have. -/
def Date.firstYear : Int := -262143

/-- The last year that a date can have. -/
def Date.lastYear : Int := 262142

/-- A day that exists in the calendar. -/
structure Date where
  year : Int
  month : Nat
  day : Nat
  year_bounds : Date.firstYear ≤ year ∧ year ≤ Date.lastYear
  month_bounds : 1 ≤ month ∧ month ≤ 12
  day_bounds : 1 ≤ day ∧ day ≤ daysInMonth year month
  deriving DecidableEq

namespace Date

/-- The date with the given parts, if there is one. -/
def of? (year : Int) (month day : Nat) : Option Date :=
  if inYears : firstYear ≤ year ∧ year ≤ lastYear then
    if inMonths : 1 ≤ month ∧ month ≤ 12 then
      if inDays : 1 ≤ day ∧ day ≤ daysInMonth year month then
        some ⟨year, month, day, inYears, inMonths, inDays⟩
      else none
    else none
  else none

/-- The day after, unless the last year ends. -/
def next? (date : Date) : Option Date :=
  if date.day < daysInMonth date.year date.month then of? date.year date.month (date.day + 1)
  else if date.month < 12 then of? date.year (date.month + 1) 1
  else of? (date.year + 1) 1 1

/-- The day before, unless the first year begins. -/
def previous? (date : Date) : Option Date :=
  if 1 < date.day then of? date.year date.month (date.day - 1)
  else if 1 < date.month then of? date.year (date.month - 1) (daysInMonth date.year (date.month - 1))
  else of? (date.year - 1) 12 31

/-- The number of days in the months of a year before a given one. -/
def daysBeforeMonth (year : Int) (month : Nat) : Nat :=
  (List.range (month - 1)).foldl (fun days index => days + daysInMonth year (index + 1)) 0

/-- The number of days since the first day of year 1. -/
def dayNumber (date : Date) : Int :=
  let elapsed := date.year - 1
  365 * elapsed + elapsed / 4 - elapsed / 100 + elapsed / 400 + daysBeforeMonth date.year date.month +
    (date.day - 1)

/-- Taking a date apart and putting it together again gives the date. -/
theorem of?_parts (date : Date) : of? date.year date.month date.day = some date := by
  simp [of?, date.year_bounds, date.month_bounds, date.day_bounds]

end Date

end FleetTraffic
