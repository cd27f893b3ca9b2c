import FileServer.Calendar.Instant
import FileServer.Text.Blank
import FileServer.Text.Reader

/-!
Dates in HTTP headers. They are written in one fixed form of 29 characters and read in the looser
form of mail headers: any blanks between the parts, an optional day name, years of two or more
digits, numeric and named zones, and comments at the end.
-/

namespace FileServer.Calendar.HttpDate

open Text

/-- The date of an instant in the fixed form, if it lies in the years that have dates. -/
def write? (t : Instant) : Option String :=
  if inRange t then
    let c := ClockFace.ofInstant t
    some <| String.ofList <|
      (dayName c.weekday).toList ++ ", ".toList ++ padded 2 c.date.day ++
        ' ' :: (monthName c.date.month).toList ++ ' ' :: yearText c.date.year ++
        ' ' :: c.timeText ++ " GMT".toList
  else none

/-- Reads at least one blank and drops all that follow. -/
def blanks (cs : List Char) : Option (List Char) :=
  match cs with
  | c :: rest => if isBlank c then some (trimStart rest) else none
  | [] => none

/-- Reads between `min` and `max` digits, as many as there are. -/
def number (min max : Nat) : Reader Nat := fun cs =>
  let digits := (cs.take max).takeWhile Char.isDigit
  if digits.length < min then none else some (ofDigits digits, cs.drop digits.length)

/-- Reads one of the names by its three letters in any case and gives its place in the list. -/
def nameIn (names : List String) : Reader Nat := fun cs =>
  let found := names.findIdx? fun name =>
    name.toList.map Char.toLower == (cs.take 3).map Char.toLower
  found.map (·, cs.drop 3)

/-- Reads an optional day name with the comma that has to follow it. -/
def dayNameField (cs : List Char) : Option (Option Nat × List Char) :=
  match nameIn dayNames cs with
  | some (day, rest) => (mark ',' rest).map (some day, ·)
  | none => some (none, cs)

/-- Reads a year: two digits stand for 1950 to 2049, three count from 1900. -/
def year : Reader Int := fun cs => do
  let (n, rest) ← number 2 cs.length cs
  let digits := cs.length - rest.length
  let n := if digits == 2 then (if n ≤ 49 then n + 2000 else n + 1900)
    else if digits == 3 then n + 1900 else n
  some (n, rest)

/-- Hours east of Greenwich of a named zone; any other single letter but J means zero. -/
def zoneHours? (name : List Char) : Option Int :=
  match String.ofList (name.map Char.toLower) with
  | "gmt" | "ut" | "z" => some 0
  | "edt" => some (-4)
  | "est" | "cdt" => some (-5)
  | "cst" | "mdt" => some (-6)
  | "mst" | "pdt" => some (-7)
  | "pst" => some (-8)
  | single => if name.length == 1 && single != "j" then some 0 else none

/-- Reads a zone, by name or as a sign and four digits, in seconds east of Greenwich. -/
def zone : Reader Int := fun cs =>
  let name := cs.takeWhile Char.isAlpha
  if name.isEmpty then
    match cs with
    | sign :: h₁ :: h₂ :: m₁ :: m₂ :: rest =>
      if (sign == '+' || sign == '-') && [h₁, h₂, m₁, m₂].all Char.isDigit && m₁ ≤ '5' then
        let seconds : Int := ofDigits [h₁, h₂] * 3600 + ofDigits [m₁, m₂] * 60
        if seconds < 86400 then some (if sign == '-' then -seconds else seconds, rest) else none
      else none
    | _ => none
  else (zoneHours? name).map (· * 3600, cs.drop name.length)

/-- What follows a comment of the given depth whose opening bracket has been read. -/
def commentEnd : Nat → List Char → Option (List Char)
  | _, [] => none
  | _, ['\\'] => none
  | depth, '\\' :: _ :: rest => commentEnd depth rest
  | depth, '(' :: rest => commentEnd (depth + 1) rest
  | depth, ')' :: rest => if depth ≤ 1 then some rest else commentEnd (depth - 1) rest
  | depth, _ :: rest => commentEnd depth rest

/-- What follows one comment and the blanks before it. -/
def comment? (cs : List Char) : Option (List Char) :=
  match trimStart cs with
  | '(' :: rest => commentEnd 1 rest
  | _ => none

/-- Whether nothing but comments is left; each of at most `fuel` comments shortens the text. -/
def onlyComments : Nat → List Char → Bool
  | 0, cs => cs.isEmpty
  | fuel + 1, cs =>
    match comment? cs with
    | some rest => onlyComments fuel rest
    | none => cs.isEmpty

/-- The fields of a date as they were read. -/
structure Fields where
  dayName : Option Nat
  date : Date
  hour : Nat
  minute : Nat
  second : Nat
  offset : Int
  deriving Repr, DecidableEq

/-- Reads all fields of a date, up to the end of the text. -/
def fields? (cs : List Char) : Option Fields := do
  let (dayName, cs) ← dayNameField (trimStart cs)
  let (day, cs) ← number 1 2 (trimStart cs)
  let cs ← blanks cs
  let (month, cs) ← nameIn monthNames cs
  let cs ← blanks cs
  let (year, cs) ← year cs
  let cs ← blanks cs
  let (hour, cs) ← number 2 2 cs
  let cs ← mark ':' (trimStart cs)
  let (minute, cs) ← number 2 2 (trimStart cs)
  let (second, cs) ← match mark ':' (trimStart cs) with
    | some cs => number 2 2 cs
    | none => some (0, cs)
  let cs ← blanks cs
  let (offset, cs) ← zone cs
  guard (onlyComments cs.length cs)
  some { dayName, date := ⟨year, month + 1, day⟩, hour, minute, second, offset }

/-- The instant the fields denote, if they name a time of an existing day with its right name. -/
def Fields.instant? (f : Fields) : Option Instant := do
  guard (f.date.isValid && f.hour < 24 && f.minute < 60 && f.second ≤ 60)
  let dayNumber := f.date.toDayNumber
  guard (f.dayName.all (· == weekday dayNumber))
  let leap := f.second == 60
  let second := if leap then 59 else f.second
  let local_ : Int := dayNumber * 86400 + (f.hour * 3600 + f.minute * 60 + second : Nat)
  guard (inRange ⟨local_, 0⟩)
  let t : Instant := ⟨local_ - f.offset, if leap then 1000000000 else 0⟩
  guard (inRange t)
  some t

/-- The instant that a date denotes, blanks around it ignored. -/
def read? (value : String) : Option Instant := do
  (← fields? (trim value.toList)).instant?

end FileServer.Calendar.HttpDate
