/-!
# Moments

Points in time and the dates of the calendar that they fall on, in universal time.  Years are
counted from March, so that a leap day comes last, and days from the first of March of the year
zero.

## Main Definitions

- `Moment`: seconds since the start of 1970
- `Moment.ofDate?`: the moment of a date and a time of day
- `CalendarDate`: a date of the calendar
- `Moment.date`: the date on which a moment falls
- `Moment.dayText`, `Moment.stampText`: written forms
-/

namespace CloudStub

/-- Seconds since the start of 1970 in universal time. -/
abbrev Moment := Int

/-- A date of the calendar. -/
structure CalendarDate where
  /-- The year. -/
  year : Int
  /-- The month, from one to twelve. -/
  month : Nat
  /-- The day of the month. -/
  day : Nat
  deriving DecidableEq, Repr

namespace Moment

/-- The days in a month. -/
def daysIn (year month : Nat) : Nat :=
  if month = 2 then (if year % 4 = 0 && (year % 100 != 0 || year % 400 = 0) then 29 else 28)
  else if [4, 6, 9, 11].contains month then 30
  else 31

/-- The days from the first of March of the year zero to the start of 1970. -/
def epoch : Int := 719468

/-- The days from the start of 1970 to a date. -/
def days (year month day : Nat) : Int :=
  let y : Int := if month ≤ 2 then year - 1 else year
  let m : Int := if month > 2 then month - 3 else month + 9
  y * 365 + y / 4 - y / 100 + y / 400 + (153 * m + 2) / 5 + day - 1 - epoch

/-- The moment of a date and a time of day, if there is one. -/
def ofDate? (year month day hour minute second : Nat) : Option Moment :=
  if 1 ≤ month && month ≤ 12 && 1 ≤ day && day ≤ daysIn year month && hour ≤ 23 &&
      minute ≤ 59 && second ≤ 59 then
    some (days year month day * 86400 + (hour * 3600 + minute * 60 + second : Nat))
  else none

/-- The days from the start of 1970. -/
def day (m : Moment) : Int := m / 86400

/-- The seconds from the start of the day. -/
def secondOfDay (m : Moment) : Nat := (m % 86400).toNat

/-- The days in four hundred years. -/
def cycle : Int := 146097

/-- The year, counted from March, in which a day of a cycle lies. -/
def yearOfCycle (d : Nat) : Nat := (d - d / 1460 + d / 36524 - d / 146096) / 365

/-- The date on which a moment falls. -/
def date (m : Moment) : CalendarDate :=
  let z := m.day + epoch
  let d := (z % cycle).toNat
  let y := yearOfCycle d
  let dayOfYear := d - (365 * y + y / 4 - y / 100)
  let march := (5 * dayOfYear + 2) / 153
  let month := if march < 10 then march + 3 else march - 9
  { year := z / cycle * 400 + y + (if month ≤ 2 then 1 else 0)
    month
    day := dayOfYear - (153 * march + 2) / 5 + 1 }

/-- The day of the week, from zero for Sunday. -/
def weekday (m : Moment) : Nat := ((m.day + 4) % 7).toNat

/-- A number with zeros in front, up to a width. -/
def padded (width : Nat) (n : Nat) : String :=
  let digits := Nat.toDigits 10 n
  String.ofList (List.replicate (width - digits.length) '0' ++ digits)

/-- The date with its parts from the largest to the smallest. -/
def dayText (m : Moment) : String :=
  let d := m.date
  "-".intercalate [padded 4 d.year.toNat, padded 2 d.month, padded 2 d.day]

/-- The time of day. -/
def clockText (m : Moment) : String :=
  let s := m.secondOfDay
  ":".intercalate [padded 2 (s / 3600), padded 2 (s / 60 % 60), padded 2 (s % 60)]

/-- The names of the days of the week. -/
def weekdayNames : List String := ["Sun", "Mon", "Tue", "Wed", "Thu", "Fri", "Sat"]

/-- The names of the months. -/
def monthNames : List String :=
  ["Jan", "Feb", "Mar", "Apr", "May", "Jun", "Jul", "Aug", "Sep", "Oct", "Nov", "Dec"]

/-- The form in which messages carry a date. -/
def stampText (m : Moment) : String :=
  let d := m.date
  (weekdayNames[m.weekday]?).getD "" ++ ", " ++ padded 2 d.day ++ " " ++
    (monthNames[d.month - 1]?).getD "" ++ " " ++ padded 4 d.year.toNat ++ " " ++ m.clockText ++
    " GMT"

end Moment

end CloudStub
