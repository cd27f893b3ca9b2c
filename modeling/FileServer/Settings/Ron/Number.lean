import FileServer.Number.Decimal
import FileServer.Number.Wide
import FileServer.Settings.Value

/-!
Numbers in an object notation: whole numbers in four bases, of which the digits may be grouped by
underscores, and floating-point numbers. Which of both kinds a text starts with is told by the
longer of two runs of characters.
-/

namespace FileServer.Ron

open Text

/-- Characters of a floating-point number. -/
def isFloatingChar (c : Char) : Bool :=
  c.isDigit || c == 'e' || c == 'E' || c == '.' || c == '+' || c == '-' || c == '_'

/-- Characters of a whole number, in any base. -/
def isWholeChar (c : Char) : Bool := (hexValue? c).isSome || c == '_'

/-- Characters of a name. -/
def isNameChar (c : Char) : Bool := c.isAlphanum || c == '_'

/-- Reads a word that does not go on. -/
def boundedWord (w : String) (cs : List Char) : Option (List Char) := do
  let rest ← word w.toList cs
  guard !(rest.head?.any isNameChar)
  some rest

/-- The names of numbers that are not finite. -/
def unbounded : List (String × Binary64) :=
  [("inf", .infinite false), ("+inf", .infinite false), ("-inf", .infinite true), ("NaN", .nan),
    ("+NaN", .nan), ("-NaN", .nan)]

/-- Reads a floating-point number; it has no underscores. -/
def floating : Reader Value := fun cs =>
  match unbounded.findSome? fun (w, x) => (boundedWord w cs).map (x, ·) with
  | some (x, rest) => some (.floating x, rest)
  | none => do
    let (text, rest) := span isFloatingChar cs
    some (.floating (← Binary64.ofText? (String.ofList text)), rest)

/-- Reads the base of a whole number; without a mark it is ten. -/
def base : List Char → Nat × List Char
  | '0' :: 'x' :: rest => (16, rest)
  | '0' :: 'o' :: rest => (8, rest)
  | '0' :: 'b' :: rest => (2, rest)
  | cs => (10, cs)

/-- The number that digits of a base spell; underscores between and behind them do not count. -/
def ofGrouped? (base : Nat) (digits : List Char) : Option Nat :=
  if digits.isEmpty || digits.head? == some '_' then none
  else (digits.filter (· != '_')).foldlM (fun n c => do
    let d ← hexValue? c
    if d < base then some (n * base + d) else none) 0

/-- A whole number without a sign; one that is too large for a number with a sign is rounded. -/
def unsigned (n : Nat) : Value :=
  if Wide.holds n then .integer n else .floating (.ofNat n)

/-- Reads a whole number of 64 bits. -/
def whole : Reader Value := fun cs => do
  let (negative, digits) := Binary64.readSign cs
  let (base, digits) := base digits
  let (digits, rest) := span isWholeChar digits
  let n ← ofGrouped? base digits
  match cs with
  | '+' :: _ | '-' :: _ =>
    let n : Int := if negative then -n else n
    guard (Wide.holds n)
    some (.integer n, rest)
  | _ =>
    guard (n ≤ Wide.greatestNatural)
    some (unsigned n, rest)

/-- Reads a number. What is no whole number of 64 bits is read as a floating-point number. -/
def number : Reader Value := fun cs =>
  let digits := (Binary64.readSign cs).2
  if (digits.takeWhile isWholeChar).length < (digits.takeWhile isFloatingChar).length then
    floating cs
  else (whole cs).or (floating cs)

end FileServer.Ron
