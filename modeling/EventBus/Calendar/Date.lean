/-! Dates of the Gregorian calendar, extended to years before it began. -/

namespace EventBus

/-- Every fourth year is a leap year, save the centuries that four does not divide. -/
def isLeapYear (year : Int) : Bool :=
  year % 4 == 0 && (year % 100 != 0 || year % 400 == 0)

/-- The number of days of a month, counted from one. -/
def daysIn (year : Int) (month : Nat) : Nat :=
  -- Only February depends on the year.
  if month = 2 then if isLeapYear year then 29 else 28
  else if month = 4 ∨ month = 6 ∨ month = 9 ∨ month = 11 then 30
  else 31

/-- The first year that a date can lie in. -/
def firstYear : Int := -262143

/-- The last year that a date can lie in. -/
def lastYear : Int := 262142

/-- A day of the calendar. -/
structure Date where
  year : Int
  month : Nat
  day : Nat
  year_range : firstYear ≤ year ∧ year ≤ lastYear
  month_range : 1 ≤ month ∧ month ≤ 12
  day_range : 1 ≤ day ∧ day ≤ daysIn year month
  deriving DecidableEq, Repr

namespace Date

/-- The day with the given numbers, if the calendar has it. -/
def of? (year : Int) (month day : Nat) : Option Date :=
  -- The year is checked first, since the length of a month depends on it.
  if y : firstYear ≤ year ∧ year ≤ lastYear then
    if m : 1 ≤ month ∧ month ≤ 12 then
      if d : 1 ≤ day ∧ day ≤ daysIn year month then some ⟨year, month, day, y, m, d⟩ else none
    else none
  else none

/-- The day after this one. -/
def next? (date : Date) : Option Date :=
  -- The last day of a month is followed by the first of the next, and December by a new year.
  if date.day < daysIn date.year date.month then of? date.year date.month (date.day + 1)
  else if date.month < 12 then of? date.year (date.month + 1) 1
  else of? (date.year + 1) 1 1

/-- The day before this one. -/
def previous? (date : Date) : Option Date :=
  -- The first day of a month follows the last of the month before, whatever its length.
  if 1 < date.day then of? date.year date.month (date.day - 1)
  else if 1 < date.month then of? date.year (date.month - 1) (daysIn date.year (date.month - 1))
  else of? (date.year - 1) 12 31

end Date

end EventBus
