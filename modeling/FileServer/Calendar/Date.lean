/-!
The proleptic Gregorian calendar. Days are counted from 1 January 1970 in both directions; a date is
a year, a month and a day of the month. Years are taken to begin in March, so that the leap day is
the last day of its year.
-/

namespace FileServer.Calendar

/-- A date of the proleptic Gregorian calendar, months and days counted from one. -/
structure Date where
  year : Int
  month : Nat
  day : Nat
  deriving Repr, DecidableEq

/-- Whether a year has a leap day. -/
def isLeapYear (year : Int) : Bool := year % 4 == 0 && (year % 100 != 0 || year % 400 == 0)

/-- The number of days in a month. -/
def daysInMonth (year : Int) (month : Nat) : Nat :=
  match month with
  | 2 => if isLeapYear year then 29 else 28
  | 4 | 6 | 9 | 11 => 30
  | _ => 31

namespace Date

/-- Whether the calendar has this date. -/
def isValid (d : Date) : Bool :=
  1 ≤ d.month && d.month ≤ 12 && 1 ≤ d.day && d.day ≤ daysInMonth d.year d.month

/-- Days from 1 January 1970 to the date, negative before it. -/
def toDayNumber (d : Date) : Int :=
  let marchYear : Int := if d.month ≤ 2 then d.year - 1 else d.year
  let era := marchYear / 400
  let yearOfEra := marchYear % 400
  let marchMonth : Nat := (d.month + 9) % 12
  let dayOfYear : Int := (153 * marchMonth + 2) / 5 + d.day - 1
  era * 146097 + (yearOfEra * 365 + yearOfEra / 4 - yearOfEra / 100 + dayOfYear) - 719468

/-- The date of a day number. -/
def ofDayNumber (n : Int) : Date :=
  let shifted := n + 719468
  let era := shifted / 146097
  let dayOfEra := shifted % 146097
  let yearOfEra := (dayOfEra - dayOfEra / 1460 + dayOfEra / 36524 - dayOfEra / 146096) / 365
  let dayOfYear := dayOfEra - (365 * yearOfEra + yearOfEra / 4 - yearOfEra / 100)
  let marchMonth := ((5 * dayOfYear + 2) / 153).toNat
  let month := if marchMonth < 10 then marchMonth + 3 else marchMonth - 9
  let year := yearOfEra + era * 400
  { year := if month ≤ 2 then year + 1 else year
    month
    day := (dayOfYear - (153 * marchMonth + 2) / 5 + 1).toNat }

end Date

/-- The day of the week of a day number, Sunday being zero. -/
def weekday (n : Int) : Nat := ((n + 4) % 7).toNat

/-- English day names, Sunday first. -/
def dayNames : List String := ["Sun", "Mon", "Tue", "Wed", "Thu", "Fri", "Sat"]

/-- English month names, January first. -/
def monthNames : List String :=
  ["Jan", "Feb", "Mar", "Apr", "May", "Jun", "Jul", "Aug", "Sep", "Oct", "Nov", "Dec"]

/-- The name of a day of the week. -/
def dayName (weekday : Nat) : String := dayNames.getD weekday ""

/-- The name of a month counted from one. -/
def monthName (month : Nat) : String := monthNames.getD (month - 1) ""

end FileServer.Calendar
