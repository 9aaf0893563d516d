/-!
The Gregorian calendar, carried back to year 1.

Days are numbered from 1, the first of January of year 1, a Monday. The last day is the last of
year 9999.
-/

namespace FormRules.Time

def isLeapYear
    (year : Nat) :
    Bool :=
  year % 4 == 0 && (year % 100 != 0 || year % 400 == 0)

def daysInMonth
    (year month : Nat) :
    Nat :=
  if month == 2 then
    if isLeapYear year then 29 else 28
  else if month == 4 || month == 6 || month == 9 || month == 11 then 30
  else 31

/-- The number of days before the first day of a positive year. -/
def daysBeforeYear
    (year : Nat) :
    Nat :=
  let past := year - 1
  past * 365 + past / 4 - past / 100 + past / 400

def daysBeforeMonth
    (year : Nat) :
    (month : Nat) → Nat
  | 0 => 0
  | 1 => 0
  | month + 2 => daysBeforeMonth year (month + 1) + daysInMonth year (month + 1)

def lastDay :
    Nat :=
  3652059

/-- The number of the first of January 1970. -/
def epochDay :
    Nat :=
  719163

/-- A year, a month and a day of the month. -/
structure Date where
  year : Nat
  month : Nat
  day : Nat
  deriving DecidableEq, Repr

namespace Date

def isValid
    (date : Date) :
    Bool :=
  1 ≤ date.year && date.year ≤ 9999 && 1 ≤ date.month && date.month ≤ 12 &&
    1 ≤ date.day && date.day ≤ daysInMonth date.year date.month

def number
    (date : Date) :
    Nat :=
  daysBeforeYear date.year + daysBeforeMonth date.year date.month + date.day

/-- The month and the day of the month of the day with the given rank in a year, counted from
zero, among the months from the given one on. The last argument bounds the number of months. -/
def inYear
    (year rank month : Nat) :
    Nat → Date
  | 0 => ⟨year, month, rank + 1⟩
  | months + 1 =>
      let length := daysInMonth year month
      if rank < length then ⟨year, month, rank + 1⟩
      else inYear year (rank - length) (month + 1) months

def ofNumber
    (number : Nat) :
    Date :=
  let rank := number - 1
  let cycle := rank / 146097
  let century := min (rank % 146097 / 36524) 3
  let inCentury := rank % 146097 - century * 36524
  let quadrennium := inCentury / 1461
  let inQuadrennium := inCentury % 1461
  let yearOfFour := min (inQuadrennium / 365) 3
  let year := cycle * 400 + century * 100 + quadrennium * 4 + yearOfFour + 1
  inYear year (inQuadrennium - yearOfFour * 365) 1 11

end Date

/-- The day of the week of a numbered day, Monday being zero. -/
def weekday
    (number : Nat) :
    Nat :=
  (number + 6) % 7

/-- The number of the Monday of the first week of a year: the week that holds its first
Thursday. -/
def firstMonday
    (year : Nat) :
    Int :=
  let newYear := daysBeforeYear year + 1
  let passed := weekday newYear
  if 3 < passed then (newYear : Int) - passed + 7 else (newYear : Int) - passed

/-- The year has a 53rd week: it begins on a Thursday, or on a Wednesday in a leap year. -/
def hasLongWeekCount
    (year : Nat) :
    Bool :=
  let passed := weekday (daysBeforeYear year + 1)
  passed == 3 || (passed == 2 && isLeapYear year)

def dayOfWeekDate?
    (year week day : Nat) :
    Option Nat :=
  let weekExists := 1 ≤ week && (week ≤ 52 || (week == 53 && hasLongWeekCount year))
  if 1 ≤ year && weekExists && 1 ≤ day && day ≤ 7 then
    let number := firstMonday year + ((week - 1) * 7 + (day - 1) : Nat)
    if 1 ≤ number ∧ number ≤ lastDay then some number.toNat else none
  else none

end FormRules.Time
