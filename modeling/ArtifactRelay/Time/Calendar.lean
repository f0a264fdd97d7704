/-!
# ArtifactRelay.Time.Calendar

The Gregorian calendar, extended to all years, with a year 0 before year 1.
Days are counted from 1970-01-01.  Counting starts its year in March, so that
the leap day is the last day of a year: `dayNumber` sums whole years, whole
months and days, and `dateOfDay` divides them out again.
-/

namespace ArtifactRelay.Time

/-- A day of the calendar. -/
structure Date where
  year : Int
  month : Nat
  day : Nat
  deriving DecidableEq, Repr

namespace Date

/-- A leap year: divisible by 4 and, if by 100, then by 400 too. -/
def isLeapYear (year : Int) : Bool :=
  year % 4 == 0 && (year % 100 != 0 || year % 400 == 0)

/-- The number of days of a month. -/
def daysInMonth (year : Int) (month : Nat) : Nat :=
  match month with
  | 2 => if isLeapYear year then 29 else 28
  | 4 | 6 | 9 | 11 => 30
  | _ => 31

/-- Whether the month and the day exist. -/
def isValid (d : Date) : Bool :=
  1 ≤ d.month && d.month ≤ 12 && 1 ≤ d.day && d.day ≤ daysInMonth d.year d.month

end Date

/-- Days of the months March to the one before month `m`, where March is month 0. -/
def daysBeforeMonth (m : Int) : Int :=
  (153 * m + 2) / 5

/-- Days from 0000-03-01 to the 1st of March of year `y`. -/
def daysBeforeYear (y : Int) : Int :=
  365 * y + y / 4 - y / 100 + y / 400

/-- The day of 1970-01-01, counted from 0000-03-01. -/
def epochDay : Int := 719468

/-- The number of a day, counted from 1970-01-01. -/
def dayNumber (d : Date) : Int :=
  let y := if d.month ≤ 2 then d.year - 1 else d.year
  let m : Int := ((d.month + 9) % 12 : Nat)
  daysBeforeYear y + daysBeforeMonth m + (d.day - 1) - epochDay

/-- The day with a given number, counted from 1970-01-01. -/
def dateOfDay (n : Int) : Date :=
  let z := n + epochDay
  let cycle := z / 146097
  let inCycle := z % 146097
  let yearOfCycle := (inCycle - inCycle / 1460 + inCycle / 36524 - inCycle / 146096) / 365
  let dayOfYear := inCycle - (365 * yearOfCycle + yearOfCycle / 4 - yearOfCycle / 100)
  let m := (5 * dayOfYear + 2) / 153
  let day := dayOfYear - daysBeforeMonth m + 1
  let month := if m < 10 then m + 3 else m - 9
  let year := yearOfCycle + cycle * 400
  ⟨if month ≤ 2 then year + 1 else year, month.toNat, day.toNat⟩

end ArtifactRelay.Time
