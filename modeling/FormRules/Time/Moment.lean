import FormRules.Fault
import FormRules.Number.Binary64
import FormRules.Time.Calendar

/-!
Moments: a day and a time of day, with or without an offset from universal time.

A moment without an offset is taken as universal time where its instant is needed. Moments are
equal when both have an offset or neither has, and their instants are the same.
-/

namespace FormRules.Time

open FormRules.Number

def microsecondsPerDay :
    Nat :=
  86400000000

theorem microsecondsPerDay_pos :
    0 < microsecondsPerDay := by
  decide

theorem one_le_lastDay :
    1 ≤ lastDay := by
  decide

/-- A day of the calendar, the microseconds passed of it, and the offset from universal time in
microseconds, if there is one. -/
structure Moment where
  day : Nat
  microsecond : Nat
  offset : Option Int
  one_le_day : 1 ≤ day
  day_le : day ≤ lastDay
  microsecond_lt : microsecond < microsecondsPerDay
  deriving DecidableEq

namespace Moment

/-- The moment with the given parts, if the calendar has the day and the day the time. -/
def ofParts?
    (day microsecond : Nat) (offset : Option Int) :
    Option Moment :=
  if dayStarts : 1 ≤ day then
    if dayEnds : day ≤ lastDay then
      if timeEnds : microsecond < microsecondsPerDay then
        some ⟨day, microsecond, offset, dayStarts, dayEnds, timeEnds⟩
      else none
    else none
  else none

/-- Microseconds of universal time from the epoch to the moment. -/
def instant
    (moment : Moment) :
    Int :=
  ((moment.day : Int) - epochDay) * microsecondsPerDay + moment.microsecond -
    moment.offset.getD 0

def agrees
    (left right : Moment) :
    Bool :=
  left.offset.isSome == right.offset.isSome && left.instant == right.instant

/-- The seconds from the epoch to the moment, rounded. With an offset the instant is rounded
once; without, the fraction of a second is rounded first and the sum after it, and on the first
day of the calendar there is no answer, as the day before is looked at too. -/
def timestamp
    (moment : Moment) :
    Except Fault Binary64 :=
  match moment.offset with
  | some _ => .ok (.ofIntRatio moment.instant 1000000)
  | none =>
      if moment.day = 1 then .error .yearOutOfRange
      else
        let seconds := Binary64.ofIntRatio (moment.instant / 1000000) 1
        let fraction := Binary64.ofRatio false (moment.microsecond % 1000000) 1000000
        .ok (seconds.add fraction)

/-- The first moment of the day that lies the given number of days ahead. -/
def startOfDay
    (moment : Moment) (ahead : Int) :
    Except Fault Moment :=
  let day := (moment.day : Int) + ahead
  match ofParts? day.toNat 0 moment.offset with
  | some start => if 1 ≤ day then .ok start else .error .dateOutOfRange
  | none => .error .dateOutOfRange

theorem agrees_comm
    (left right : Moment) :
    left.agrees right = right.agrees left := by
  simp only [agrees, Bool.beq_comm]

end Moment

end FormRules.Time
