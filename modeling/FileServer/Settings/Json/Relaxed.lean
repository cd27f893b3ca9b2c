import FileServer.Number.Decimal
import FileServer.Settings.Json.Document
import FileServer.Text.LowerCase
import FileServer.Text.NameTable

/-!
Settings in the relaxed form of JSON that people write by hand: with comments, names without quotes,
single quotes, a comma at the end of a list, and more forms of numbers.
-/

namespace FileServer.Json.Relaxed

open Text

/-- Blanks between the parts of a text. -/
def isBlank (c : Char) : Bool :=
  let n := c.toNat
  (0x9 ≤ n && n ≤ 0xD) || n == 0x20 || n == 0xA0 || n == 0xFEFF || n == 0x1680 ||
    (0x2000 ≤ n && n ≤ 0x200A) || n == 0x2028 || n == 0x2029 || n == 0x202F || n == 0x205F ||
    n == 0x3000

/-- Whether a character ends a line. -/
def endsLine (c : Char) : Bool := c == '\n' || c == '\r' || c == '\u2028' || c == '\u2029'

/-- What is being dropped between the parts of a text. -/
inductive Gap where
  | blanks
  | lineComment
  | comment
  deriving Repr, DecidableEq

/-- Drops blanks and comments; a comment that is not closed is refused. -/
def gapFrom : Gap → List Char → Option (List Char)
  | .blanks, '/' :: '/' :: rest => gapFrom .lineComment rest
  | .blanks, '/' :: '*' :: rest => gapFrom .comment rest
  | .blanks, c :: rest => if isBlank c then gapFrom .blanks rest else some (c :: rest)
  | .lineComment, c :: rest => gapFrom (if endsLine c then .blanks else .lineComment) rest
  | .comment, '*' :: '/' :: rest => gapFrom .blanks rest
  | .comment, _ :: rest => gapFrom .comment rest
  | .comment, [] => none
  | _, [] => some []

/-- Drops blanks and comments. -/
def gap (cs : List Char) : Option (List Char) := gapFrom .blanks cs

/-- The character for which a letter stands after a backslash; most stand for themselves. -/
def escape? (c : Char) : Option Char :=
  match c with
  | 'b' => some '\x08'
  | 'f' => some '\x0c'
  | 'n' => some '\n'
  | 'r' => some '\r'
  | 't' => some '\t'
  | 'v' => some '\x0b'
  | '0' => some '\x00'
  | c => if c.isDigit || c == 'u' || c == 'x' then none else some c

/-- A part of a text: a character, or the number of a character or of one half of a character. -/
inductive Piece where
  | char (c : Char)
  | unit (n : Nat)
  deriving Repr, DecidableEq

/-- The character of two halves. The bits that both have in common are not added but kept. -/
def charOfHalves? (high low : Nat) : Option Char :=
  if 0xDC00 ≤ low ∧ low < 0xE000 then
    charOfUnit? (((high - 0xD800) * 0x400) ||| (low - 0xDC00 + 0x10000))
  else none

/-- The characters that pieces mean; a half without the other one means nothing. -/
def charsOf : List Piece → Option (List Char)
  | .char c :: rest => do return c :: (← charsOf rest)
  | .unit n :: .unit m :: rest =>
    if 0xD800 ≤ n ∧ n < 0xDC00 then do return (← charOfHalves? n m) :: (← charsOf rest)
    else do return (← charOfUnit? n) :: (← charsOf (.unit m :: rest))
  | .unit n :: rest => do return (← charOfUnit? n) :: (← charsOf rest)
  | [] => some []

/-- Reads the pieces of a string up to its closing quote. A backslash at the end of a line takes
that end out of the string. -/
def stringPieces (quote : Char) : List Char → Option (List Piece × List Char)
  | '\\' :: 'u' :: a :: b :: c :: d :: rest => do
    consRead (.unit (← unit? [a, b, c, d])) (stringPieces quote rest)
  | '\\' :: 'x' :: a :: b :: rest => do
    consRead (.unit (← unit? [a, b])) (stringPieces quote rest)
  | '\\' :: '\r' :: '\n' :: rest => stringPieces quote rest
  | '\\' :: c :: rest =>
    if endsLine c then stringPieces quote rest
    else do consRead (.char (← escape? c)) (stringPieces quote rest)
  | c :: rest =>
    if c == quote then some ([], rest)
    else if endsLine c then none
    else consRead (.char c) (stringPieces quote rest)
  | [] => none

/-- The text of pieces that were read. -/
def textOf (read : List Piece × List Char) : Option (String × List Char) := do
  some (String.ofList (← charsOf read.1), read.2)

/-- Reads a string in quotes of either kind. -/
def string : Reader String := fun cs =>
  match cs with
  | c :: rest => do
    guard (c == '"' || c == '\'')
    textOf (← stringPieces c rest)
  | [] => none

/-- Characters with which a name without quotes may start. -/
def startsName (c : Char) : Bool := c == '$' || c == '_' || inRanges letterRanges c.toNat

/-- Characters of a name without quotes. -/
def isNameChar (c : Char) : Bool :=
  startsName c || c == '\u200C' || c == '\u200D' || inRanges nameMarkRanges c.toNat

/-- Reads the pieces of a name without quotes; a character may be given by its number. -/
def namePieces : List Char → Option (List Piece × List Char)
  | '\\' :: 'u' :: a :: b :: c :: d :: rest => do
    consRead (.unit (← unit? [a, b, c, d])) (namePieces rest)
  | c :: rest => if isNameChar c then consRead (.char c) (namePieces rest) else some ([], c :: rest)
  | [] => some ([], [])

/-- Reads the name of a member. -/
def name : Reader String := fun cs =>
  match cs with
  | '"' :: _ | '\'' :: _ => string cs
  | c :: _ => do
    guard (startsName c || c == '\\')
    let (pieces, rest) ← namePieces cs
    guard !pieces.isEmpty
    textOf (pieces, rest)
  | [] => none

/-- The greatest number that is written in hexadecimal. -/
def maxHex : Nat := 0xFFFFFFFF

/-- Reads a number in hexadecimal after its mark. -/
def hexNumber : Reader Value := fun cs => do
  let (digits, rest) := span (fun c => (hexValue? c).isSome) cs
  guard !digits.isEmpty
  let n ← unit? digits
  guard (n ≤ maxHex)
  some (.integer n, rest)

/-- The value of a number written in decimal; one without point and power is a whole number of 64
bits, any other one must be finite. -/
def decimalValue? (text : List Char) (d : Binary64.Decimal) : Option Value :=
  if text.any fun c => c == '.' || c == 'e' || c == 'E' then
    match d.value with
    | .infinite _ => none
    | x => some (.floating x)
  else (Wide.read? (String.ofList text)).map .integer

/-- Reads a number. Only numbers in decimal may have a plus sign. -/
def number : Reader Value := fun cs => do
  let (negative, unsigned) := Binary64.readSign cs
  match unsigned with
  | 'I' :: 'n' :: 'f' :: 'i' :: 'n' :: 'i' :: 't' :: 'y' :: rest =>
    guard (cs.head? != some '+')
    some (.floating (.infinite negative), rest)
  | 'N' :: 'a' :: 'N' :: rest =>
    guard (cs.head? != some '+')
    some (.floating .nan, rest)
  | '0' :: 'x' :: rest | '0' :: 'X' :: rest =>
    guard (unsigned.length == cs.length)
    hexNumber rest
  | _ =>
    let (d, rest) ← Binary64.readDecimal cs
    guard !(1 < d.whole.length && d.whole.head? == some '0')
    some (← decimalValue? (cs.take (cs.length - rest.length)) d, rest)

/-- Reads a value without parts. -/
def scalar : Reader Value := fun cs =>
  match cs with
  | '"' :: _ | '\'' :: _ => (string cs).map fun (s, rest) => (.text s, rest)
  | 't' :: 'r' :: 'u' :: 'e' :: rest => some (.boolean true, rest)
  | 'f' :: 'a' :: 'l' :: 's' :: 'e' :: rest => some (.boolean false, rest)
  | 'n' :: 'u' :: 'l' :: 'l' :: rest => some (.nothing, rest)
  | _ => number cs

/-- Reads a name, a colon and a value. -/
def member (value : Reader Value) : Reader (String × Value) := fun cs => do
  let (name, cs) ← name cs
  let (v, cs) ← value (← gap (← mark ':' (← gap cs)))
  some ((name, v), cs)

/-- Reads a value that is nested no deeper than `depth`. -/
def value : Nat → Reader Value
  | 0, cs => scalar cs
  | depth + 1, cs =>
    match cs with
    | '[' :: rest => do
      let (items, rest) ← listing gap ']' true (value depth) rest
      some (.sequence none items, rest)
    | '\x7b' :: rest => do
      let (members, rest) ← listing gap '\x7d' true (member (value depth)) rest
      some (.table none (entriesOf members), rest)
    | _ => scalar cs

/-- The value that a text spells. -/
def read? (s : String) : Option Value := do
  let (v, rest) ← value s.length (← gap s.toList)
  if (← gap rest).isEmpty then some v else none

end FileServer.Json.Relaxed
