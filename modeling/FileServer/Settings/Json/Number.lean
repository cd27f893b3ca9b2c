import FileServer.Number.Binary64
import FileServer.Number.Wide
import FileServer.Settings.Value
import FileServer.Text.Reader

/-!
Numbers in JSON. A whole number of 64 bits with a sign is kept as it is. Any other number is made of
the digits that fit into 64 bits and a power of ten, by one multiplication or division for each step
of at most 308 powers, so it may differ in its last bit from the number nearest to the text.
-/

namespace FileServer.Json

open Text

/-- Takes digits as long as the number stays below the bound, and counts them. -/
def collect : Nat → Nat → List Char → Nat × Nat × List Char
  | n, count, c :: rest =>
    if c.isDigit then
      let next := n * 10 + (c.toNat - '0'.toNat)
      if next ≤ Wide.greatestNatural then collect next (count + 1) rest else (n, count, c :: rest)
    else (n, count, c :: rest)
  | n, count, [] => (n, count, [])

/-- A power of ten as a floating-point number. -/
def powerOfTen (n : Nat) : Binary64 := .ofFraction false (Nat.pow 10 n) 1

/-- The greatest power of ten that is a floating-point number. -/
def maxPower : Nat := 308

/-- A number times a negative power of ten, by steps of at most 308 powers. -/
def divided : Nat → Binary64 → Nat → Binary64
  | 0, x, _ => x
  | fuel + 1, x, power =>
    if power ≤ maxPower then x.div (powerOfTen power)
    else if x.isNonzero then divided fuel (x.div (powerOfTen maxPower)) (power - maxPower)
    else x

/-- A number times a power of ten; `none` where it is too large. -/
def scaled (significand : Nat) (power : Int) : Option Binary64 :=
  let x := Binary64.ofNat significand
  if power < 0 then some (divided ((-power).toNat / maxPower + 1) x (-power).toNat)
  else if maxPower < power.toNat then (if x.isNonzero then none else some x)
  else
    match x.mul (powerOfTen power.toNat) with
    | .infinite _ => none
    | y => some y

/-- The greatest power of ten that is read as such. -/
def powerBound : Nat := 0x80000000

/-- Reads the power of ten after its mark. The flag tells that it is too large to be read. -/
def power : Reader (Int × Bool) := fun cs => do
  let (negative, cs) := match cs with
    | '-' :: rest => (true, rest)
    | '+' :: rest => (false, rest)
    | cs => (false, cs)
  let (digits, rest) := span Char.isDigit cs
  guard !digits.isEmpty
  let n : Int := ofDigits digits
  some ((if negative then -n else n, powerBound ≤ n), rest)

/-- Gives a number its sign. -/
def signed (negative : Bool) (x : Binary64) : Binary64 := if negative then x.neg else x

/-- Reads what follows the digits of a number that is not whole: an optional power of ten. -/
def withPower (negative : Bool) (significand : Nat) (base : Int) : Reader Value := fun cs => do
  match cs with
  | c :: rest =>
    if c == 'e' || c == 'E' then
      let ((n, tooLarge), rest) ← power rest
      if tooLarge then
        guard (significand == 0 || n < 0)
        some (.floating (signed negative (.ofNat 0)), rest)
      else some (.floating (signed negative (← scaled significand (base + n))), rest)
    else some (.floating (signed negative (← scaled significand base)), cs)
  | [] => some (.floating (signed negative (← scaled significand base)), [])

/-- Reads the fraction after its point and what follows. -/
def withFraction (negative : Bool) (significand : Nat) (base : Int) : Reader Value := fun cs =>
  let (significand, count, rest) := collect significand 0 cs
  let more := rest.dropWhile Char.isDigit
  if count = 0 && more.length = rest.length then none
  else withPower negative significand (base - count) more

/-- Reads a number. -/
def number : Reader Value := fun cs => do
  let (negative, cs) := match cs with
    | '-' :: rest => (true, rest)
    | cs => (false, cs)
  let (significand, count, rest) := collect 0 0 cs
  guard (0 < count)
  guard !(cs.head? == some '0' && 1 < count)
  let more := rest.dropWhile Char.isDigit
  let dropped := rest.length - more.length
  match more with
  | '.' :: after => withFraction negative significand dropped after
  | _ =>
    if dropped = 0 && !(more.head?.any fun c => c == 'e' || c == 'E') then
      let n : Int := if negative then -significand else significand
      if Wide.holds n && !(negative && significand = 0) then some (.integer n, more)
      else some (.floating (signed negative (.ofNat significand)), more)
    else withPower negative significand dropped more

end FileServer.Json
