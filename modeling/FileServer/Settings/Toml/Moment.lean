import FileServer.Calendar.Date
import FileServer.Settings.Toml.Lexeme

/-!
Dates and times in TOML. They are kept as text, in one fixed form.
-/

namespace FileServer.Toml

open Text Calendar

/-- Reads a number of exactly `count` digits. -/
def fixedNumber (count : Nat) : Reader Nat := fun cs =>
  let ds := cs.take count
  if ds.length = count && ds.all Char.isDigit then some (ofDigits ds, cs.drop count) else none

/-- Reads a date of the calendar. -/
def date : Reader (List Char) := fun cs => do
  let (year, cs) ← fixedNumber 4 cs
  let (month, cs) ← fixedNumber 2 (← mark '-' cs)
  let (day, cs) ← fixedNumber 2 (← mark '-' cs)
  guard (Date.isValid ⟨year, month, day⟩)
  some (padded 4 year ++ '-' :: padded 2 month ++ '-' :: padded 2 day, cs)

/-- The digits without the zeros at their end. -/
def withoutEndZeros (ds : List Char) : List Char := (ds.reverse.dropWhile (· == '0')).reverse

/-- Reads a fraction of a second, of which nine digits count. -/
def secondFraction (cs : List Char) : List Char × List Char :=
  match cs with
  | '.' :: rest =>
    let (ds, after) := span Char.isDigit rest
    if ds.isEmpty then ([], cs)
    else
      let shown := withoutEndZeros (ds.take 9)
      (if shown.isEmpty then [] else '.' :: shown, after)
  | _ => ([], cs)

/-- Reads a time of day. -/
def time : Reader (List Char) := fun cs => do
  let (hour, cs) ← fixedNumber 2 cs
  let (minute, cs) ← fixedNumber 2 (← mark ':' cs)
  let (second, cs) ← fixedNumber 2 (← mark ':' cs)
  guard (hour < 24 && minute < 60 && second ≤ 60)
  let (fraction, cs) := secondFraction cs
  some (padded 2 hour ++ ':' :: padded 2 minute ++ ':' :: padded 2 second ++ fraction, cs)

/-- Reads an offset from Greenwich; no offset has the sign of a positive one. -/
def offset : Reader (List Char) := fun cs =>
  match cs with
  | 'Z' :: rest => some (['Z'], rest)
  | 'z' :: rest => some (['Z'], rest)
  | sign :: rest => do
    guard (sign == '+' || sign == '-')
    let (hour, rest) ← fixedNumber 2 rest
    let (minute, rest) ← fixedNumber 2 (← mark ':' rest)
    guard (hour < 24 && minute < 60)
    let sign := if hour = 0 ∧ minute = 0 then '+' else sign
    some (sign :: padded 2 hour ++ ':' :: padded 2 minute, rest)
  | [] => none

/-- Reads the time and the offset that may follow a date. -/
def timeAfterDate (cs : List Char) : List Char × List Char :=
  let read : Option (List Char × List Char) :=
    match cs with
    | c :: rest => if c == 'T' || c == 't' || c == ' ' then time rest else none
    | [] => none
  match read with
  | some (t, rest) =>
    match offset rest with
    | some (o, rest) => ('T' :: t ++ o, rest)
    | none => ('T' :: t, rest)
  | none => ([], cs)

/-- Reads a date, a time, or both. -/
def moment : Reader Value := fun cs =>
  let read := match date cs with
    | some (d, rest) =>
      let (t, rest) := timeAfterDate rest
      some (d ++ t, rest)
    | none => time cs
  read.map fun (s, rest) => (.text (String.ofList s), rest)

end FileServer.Toml
