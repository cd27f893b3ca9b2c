import FileServer.Text.Numeral

/-!
Floating-point numbers of 64 bits, with exact arithmetic behind every operation: a result is the
exact one rounded once, to the nearest number of 53 binary digits, a tie going to the even one.
-/

namespace FileServer

/-- A floating-point number: a sign and a whole number of 53 binary digits times a power of two, or
one of the values that are no such number. -/
inductive Binary64 where
  | finite (negative : Bool) (mantissa : Nat) (exponent : Int)
  | infinite (negative : Bool)
  | nan
  deriving Repr, DecidableEq

namespace Binary64

/-- The least exponent. -/
def minExponent : Int := -1074

/-- The greatest exponent. -/
def maxExponent : Int := 971

/-- The bound of the mantissa. -/
def mantissaBound : Nat := 0x20000000000000

/-- A fraction times a power of two, as a fraction. -/
def scale (num den : Nat) (exponent : Int) : Nat × Nat :=
  if 0 ≤ exponent then (num * Nat.pow 2 exponent.toNat, den)
  else (num, den * Nat.pow 2 (-exponent).toNat)

/-- The whole number nearest to a fraction, a tie going to the even one. -/
def nearest (num den : Nat) : Nat :=
  let q := num / den
  let twice := 2 * (num % den)
  if twice < den then q else if den < twice then q + 1 else q + q % 2

/-- The exponent at which a positive fraction has 53 binary digits before the point, or the least
one. -/
def exponentOf (num den : Nat) : Int :=
  let guess : Int := (num.log2 : Int) - den.log2 - 52
  let (n, d) := scale num den (-guess)
  max minExponent (if n < d * (mantissaBound / 2) then guess - 1 else guess)

/-- The number nearest to a fraction. -/
def ofFraction (negative : Bool) (num den : Nat) : Binary64 :=
  if num = 0 then finite negative 0 minExponent
  else
    let exponent := exponentOf num den
    let (n, d) := scale num den (-exponent)
    let mantissa := nearest n d
    let (mantissa, exponent) :=
      if mantissa = mantissaBound then (mantissaBound / 2, exponent + 1) else (mantissa, exponent)
    if maxExponent < exponent then infinite negative else finite negative mantissa exponent

/-- The number nearest to a whole number. -/
def ofNat (n : Nat) : Binary64 := ofFraction false n 1

/-- The number nearest to a decimal: `digits` times a power of ten. What is at least `10 ^ 309` is
beyond all numbers, and what is below `10 ^ -323` is nearest to zero. -/
def ofDecimal (negative : Bool) (digits : Nat) (power : Int) : Binary64 :=
  let size : Int := (Nat.toDigits 10 digits).length + power
  if digits = 0 || size < -323 then finite negative 0 minExponent
  else if 309 < size then infinite negative
  else if 0 ≤ power then ofFraction negative (digits * Nat.pow 10 power.toNat) 1
  else ofFraction negative digits (Nat.pow 10 (-power).toNat)

/-- The size of a number without its sign, as a fraction. -/
def fraction (mantissa : Nat) (exponent : Int) : Nat × Nat := scale mantissa 1 exponent

/-- The product of two numbers. -/
def mul : Binary64 → Binary64 → Binary64
  | finite s m e, finite s' m' e' =>
    let (n, d) := scale (m * m') 1 (e + e')
    ofFraction (s != s') n d
  | nan, _ => nan
  | _, nan => nan
  | infinite s, finite s' m _ => if m = 0 then nan else infinite (s != s')
  | finite s m _, infinite s' => if m = 0 then nan else infinite (s != s')
  | infinite s, infinite s' => infinite (s != s')

/-- The quotient of two numbers. -/
def div : Binary64 → Binary64 → Binary64
  | finite s m e, finite s' m' e' =>
    if m' = 0 then (if m = 0 then nan else infinite (s != s'))
    else
      let (n, d) := scale m m' (e - e')
      ofFraction (s != s') n d
  | nan, _ => nan
  | _, nan => nan
  | infinite s, finite s' _ _ => infinite (s != s')
  | finite s _ _, infinite s' => finite (s != s') 0 minExponent
  | infinite _, infinite _ => nan

/-- The number with the other sign. -/
def neg : Binary64 → Binary64
  | finite s m e => finite (!s) m e
  | infinite s => infinite (!s)
  | nan => nan

/-- Whether the number differs from zero. -/
def isNonzero : Binary64 → Bool
  | finite _ m _ => m != 0
  | _ => true

/-- The whole number nearest to the number, a tie going away from zero; `none` for what is no
number, and the bound for what is beyond all of them. -/
def roundAway : Binary64 → Option (Int ⊕ Bool)
  | finite s m e =>
    let (n, d) := fraction m e
    let k : Int := ((2 * n + d) / (2 * d) : Nat)
    some (.inl (if s then -k else k))
  | infinite s => some (.inr s)
  | nan => none

/-- The number as a whole number between two bounds, what lies outside going to the nearer one. -/
def saturate (min max : Int) (x : Binary64) : Int :=
  match x.roundAway with
  | some (.inl k) => if k < min then min else if max < k then max else k
  | some (.inr negative) => if negative then min else max
  | none => 0

/-- A sign, if the number has one. -/
def signText (negative : Bool) : List Char := if negative then ['-'] else []

/-- A whole number of units of `10 ^ -places`, with a point before the last `places` digits. -/
def pointed (places n : Nat) : List Char :=
  let digits := Text.padded (places + 1) n
  let whole := digits.length - places
  if places = 0 then digits else digits.take whole ++ '.' :: digits.drop whole

/-- The number with a fixed count of digits after the point, rounded to the nearest, a tie going to
the even digit. -/
def fixedText (places : Nat) : Binary64 → String
  | finite s m e =>
    let (n, d) := fraction m e
    String.ofList (signText s ++ pointed places (nearest (n * Nat.pow 10 places) d))
  | infinite s => String.ofList (signText s ++ "inf".toList)
  | nan => "NaN"

/-- The candidates for the shortest form of a fraction: the two neighbours on the grid of multiples
of `10 ^ power`, the nearer one first, that read back as the same number. -/
def readingBack (x : Binary64) (num den : Nat) (power : Int) : List Nat :=
  let (n, d) :=
    if 0 ≤ power then (num, den * Nat.pow 10 power.toNat)
    else (num * Nat.pow 10 (-power).toNat, den)
  let low := n / d
  let order := if 2 * (n % d) < d then [low, low + 1]
    else if d < 2 * (n % d) then [low + 1, low]
    else if low % 2 = 0 then [low, low + 1] else [low + 1, low]
  order.filter fun digits => 0 < digits && ofDecimal false digits power == x

/-- The digits and the power of ten of the shortest decimal that reads back as a positive number:
the coarsest grid, from `power` down through `fuel` finer ones, that has such a decimal. -/
def shortestFrom (x : Binary64) (num den : Nat) : Nat → Int → Nat × Int
  | 0, power => (num * Nat.pow 10 (-power).toNat / den, power)
  | fuel + 1, power =>
    match readingBack x num den power with
    | digits :: _ => (digits, power)
    | [] => shortestFrom x num den fuel (power - 1)

/-- The power of ten just above a positive fraction, or a little more. -/
def powerAbove (num den : Nat) : Int :=
  let bits : Int := (num.log2 : Int) - den.log2
  bits * 30103 / 100000 + 2

/-- The digits and the power of ten of the shortest decimal that reads back as the number. -/
def shortest (mantissa : Nat) (exponent : Int) : Nat × Int :=
  let (num, den) := fraction mantissa exponent
  shortestFrom (finite false mantissa exponent) num den 25 (powerAbove num den)

/-- A number by its digits and power of ten, without an exponent and with as many digits after the
point as are needed. -/
def positional (digits : Nat) (power : Int) : List Char :=
  if 0 ≤ power then Nat.toDigits 10 (digits * Nat.pow 10 power.toNat)
  else pointed (-power).toNat digits

/-- The shortest text that reads back as the number, without an exponent. -/
def text : Binary64 → String
  | finite s m e =>
    if m = 0 then String.ofList (signText s ++ ['0'])
    else
      let (digits, power) := shortest m e
      String.ofList (signText s ++ positional digits power)
  | infinite s => String.ofList (signText s ++ "inf".toList)
  | nan => "NaN"

end Binary64

end FileServer
