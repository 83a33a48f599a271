import Logbook.Text.Digits
import Logbook.Time.Date

/-!
Counting days and seconds from the beginning of the year 0, year by year and month by month, and the
text of a second in UTC.
-/

namespace Logbook.Time

namespace Date

def yearLength (year : Int) : Nat := if isLeapYear year then 366 else 365

/-- The days of the years before a year, from the year 0 on. -/
def daysOfYears : Nat → Nat
  | 0 => 0
  | year + 1 => daysOfYears year + yearLength year

/-- The days of the months before a month, from January on. -/
def daysOfMonths (year : Int) : Nat → Nat
  | 0 => 0
  | 1 => 0
  | month + 2 => daysOfMonths year (month + 1) + monthLength year (month + 1)

/-- The days before a date, from the year 0 on. -/
def count (d : Date) : Nat := daysOfYears d.year.toNat + daysOfMonths d.year d.month + (d.day - 1)

end Date

/-- A second of a day in UTC. -/
structure Moment where
  date : Date
  hour : Nat
  minute : Nat
  second : Nat
deriving DecidableEq, Repr

namespace Moment

/-- The seconds since midnight. -/
def clock (u : Moment) : Nat := u.hour * 3600 + u.minute * 60 + u.second

def seconds (u : Moment) : Int := u.date.count * 86400 + u.clock

/-- The date exists, its year has four digits, and the time of day exists. -/
structure IsValid (u : Moment) : Prop where
  date : u.date.isValid = true
  year : 0 ≤ u.date.year ∧ u.date.year ≤ 9999
  hour : u.hour ≤ 23
  minute : u.minute ≤ 59
  second : u.second ≤ 59

def chars (u : Moment) : List Char :=
  Text.padded 4 u.date.year.toNat ++ '-' :: (Text.padded 2 u.date.month ++ '-' ::
    (Text.padded 2 u.date.day ++ 'T' :: (Text.padded 2 u.hour ++ ':' :: (Text.padded 2 u.minute ++
    ':' :: (Text.padded 2 u.second ++ ".000Z".toList)))))

/-- The time as `2024-02-08T10:30:00.000Z`. -/
def text (u : Moment) : String := String.ofList u.chars

end Moment

end Logbook.Time
