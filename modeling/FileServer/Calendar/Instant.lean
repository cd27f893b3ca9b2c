import FileServer.Calendar.Date
import FileServer.Text.Numeral

/-!
Points in time and their fields on the clock. An instant is a whole second and a fraction; a
fraction of a billion nanoseconds or more marks a leap second, which the clock shows as second 60.
-/

namespace FileServer

/-- Seconds since 1 January 1970 in UTC, negative before, and nanoseconds after that second. -/
structure Instant where
  seconds : Int
  nanos : Nat := 0
  deriving Repr, DecidableEq

namespace Calendar

open Text

/-- The first second that has a date, 1 January of the year -262143. -/
def firstSecond : Int := -8334601228800

/-- The last second that has a date, 31 December of the year 262142. -/
def lastSecond : Int := 8210266876799

/-- Whether an instant lies in the years that have dates. -/
def inRange (t : Instant) : Bool := firstSecond ≤ t.seconds && t.seconds ≤ lastSecond

/-- What a calendar and a clock show. -/
structure ClockFace where
  date : Date
  weekday : Nat
  hour : Nat
  minute : Nat
  second : Nat
  nanos : Nat
  deriving Repr, DecidableEq

/-- The clock face at an instant, `offset` seconds east of Greenwich. -/
def ClockFace.ofInstant (t : Instant) (offset : Int := 0) : ClockFace :=
  let s := t.seconds + offset
  let dayNumber := s / 86400
  let secondOfDay := (s % 86400).toNat
  { date := .ofDayNumber dayNumber
    weekday := Calendar.weekday dayNumber
    hour := secondOfDay / 3600
    minute := secondOfDay / 60 % 60
    second := secondOfDay % 60 + t.nanos / 1000000000
    nanos := t.nanos % 1000000000 }

/-- A year in four digits; years outside four digits carry a sign. -/
def yearText (year : Int) : List Char :=
  if 0 ≤ year ∧ year ≤ 9999 then padded 4 year.toNat
  else (if year < 0 then '-' else '+') :: padded 4 year.natAbs

/-- Hours, minutes and seconds in two digits each, between colons. -/
def ClockFace.timeText (c : ClockFace) : List Char :=
  padded 2 c.hour ++ ':' :: padded 2 c.minute ++ ':' :: padded 2 c.second

/-- An offset in hours and minutes, rounded to the nearest minute, around `separator`. -/
def offsetText (offset : Int) (separator : List Char) : List Char :=
  let minutes := (offset.natAbs + 30) / 60
  (if offset < 0 then '-' else '+') :: padded 2 (minutes / 60) ++ separator ++
    padded 2 (minutes % 60)

end Calendar

end FileServer
