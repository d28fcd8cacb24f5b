/-
Days of the calendar, counted from 1 January 1970. Years are taken to begin in March, so that the
day a leap year has more comes last in its year.

* `Date`: a day of the calendar;
* `Date.ofDays`, `Date.toDays`: from and to the count of days;
* `Date.isValid`: whether there is such a day.
-/

namespace Grading

/-- A day of the calendar. -/
structure Date where
  /-- The year. -/
  year : Int
  /-- The month, from 1 to 12. -/
  month : Nat
  /-- The day of the month, from 1. -/
  day : Nat
deriving DecidableEq, Repr

namespace Date

/-- The days from 1 March of the year 0 to 1 January 1970. -/
def epoch : Int := 719468

/-- The days in 400 years, after which leap years repeat. -/
def cycle : Int := 146097

/-- The days from 1 March up to the first of the month that lies `m` months after March. -/
def daysBefore (m : Int) : Int := (153 * m + 2) / 5

/-- The day `n` days after 1 January 1970. -/
def ofDays (n : Int) : Date :=
  let z := n + epoch
  let dayOfCycle := z % cycle
  let yearOfCycle :=
    (dayOfCycle - dayOfCycle / 1460 + dayOfCycle / 36524 - dayOfCycle / 146096) / 365
  let dayOfYear := dayOfCycle - (365 * yearOfCycle + yearOfCycle / 4 - yearOfCycle / 100)
  let m := (5 * dayOfYear + 2) / 153
  let year := yearOfCycle + z / cycle * 400
  { year := if m < 10 then year else year + 1
    month := (if m < 10 then m + 3 else m - 9).toNat
    day := (dayOfYear - daysBefore m + 1).toNat }

/-- The days from 1 January 1970. -/
def toDays (d : Date) : Int :=
  let y := if d.month ≤ 2 then d.year - 1 else d.year
  let m : Int := if d.month ≤ 2 then d.month + 9 else d.month - 3
  let yearOfCycle := y % 400
  let dayOfCycle := 365 * yearOfCycle + yearOfCycle / 4 - yearOfCycle / 100
    + daysBefore m + d.day - 1
  y / 400 * cycle + dayOfCycle - epoch

/-- Whether the year has a 29 February. -/
def isLeapYear (year : Int) : Bool := year % 4 == 0 && (year % 100 != 0 || year % 400 == 0)

/-- The number of days of a month. -/
def monthLength (year : Int) (month : Nat) : Nat :=
  if month = 2 then (if isLeapYear year then 29 else 28)
  else if month = 4 || month = 6 || month = 9 || month = 11 then 30
  else 31

/-- Whether there is such a day. -/
def isValid (d : Date) : Bool :=
  1 ≤ d.month && d.month ≤ 12 && 1 ≤ d.day && d.day ≤ monthLength d.year d.month

end Date

end Grading
