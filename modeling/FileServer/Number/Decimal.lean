import FileServer.Number.Binary64
import FileServer.Text.Reader

/-!
Floating-point numbers from decimal text: an optional sign, digits with or without a point, an
optional power of ten, or the name of a value that is no number.
-/

namespace FileServer.Binary64

open Text

/-- The parts of a number written in decimal. -/
structure Decimal where
  negative : Bool
  whole : List Char
  fraction : List Char
  power : Int
  deriving Repr, DecidableEq

/-- The number nearest to a written one. -/
def Decimal.value (d : Decimal) : Binary64 :=
  ofDecimal d.negative (ofDigits (d.whole ++ d.fraction)) (d.power - d.fraction.length)

/-- Reads an optional sign; the flag tells a minus. -/
def readSign : List Char → Bool × List Char
  | '-' :: rest => (true, rest)
  | '+' :: rest => (false, rest)
  | cs => (false, cs)

/-- Reads an optional power of ten; the sign `e` without digits is no power. -/
def readPower (cs : List Char) : Option (Int × List Char) :=
  match cs with
  | c :: rest =>
    if c == 'e' || c == 'E' then
      let (negative, rest) := readSign rest
      let (digits, rest) := span Char.isDigit rest
      if digits.isEmpty then none
      else some (if negative then -(ofDigits digits : Int) else ofDigits digits, rest)
    else some (0, cs)
  | [] => some (0, cs)

/-- Reads a number in decimal, with digits before the point, after it, or both. -/
def readDecimal : Reader Decimal := fun cs => do
  let (negative, cs) := readSign cs
  let (whole, cs) := span Char.isDigit cs
  let (fraction, cs) := match cs with
    | '.' :: rest => span Char.isDigit rest
    | cs => ([], cs)
  guard !(whole.isEmpty && fraction.isEmpty)
  let (power, cs) ← readPower cs
  some ({ negative, whole, fraction, power }, cs)

/-- The number that a text spells as a whole; names are read in any case. -/
def ofText? (s : String) : Option Binary64 :=
  let (negative, name) := readSign s.toList
  match String.ofList (name.map Char.toLower) with
  | "inf" | "infinity" => some (infinite negative)
  | "nan" => some nan
  | _ =>
    match readDecimal s.toList with
    | some (d, []) => some d.value
    | _ => none

end FileServer.Binary64
