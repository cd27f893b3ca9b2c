import FileServer.Number.Decimal
import FileServer.Number.Wide
import FileServer.Settings.Value

/-!
The smallest parts of TOML: blanks, comments, strings, numbers, dates and keys.
-/

namespace FileServer.Toml

open Text

/-- Blanks inside a line. -/
def isBlank (c : Char) : Bool := c == ' ' || c == '\t'

/-- Drops blanks inside a line. -/
def blanks (cs : List Char) : List Char := cs.dropWhile isBlank

/-- Characters that may stand in a comment: all but control characters. -/
def isCommentChar (c : Char) : Bool := c == '\t' || (0x20 ≤ c.toNat && c.toNat != 0x7F)

/-- Reads the end of a line. -/
def newline : List Char → Option (List Char)
  | '\n' :: rest => some rest
  | '\r' :: '\n' :: rest => some rest
  | _ => none

/-- Reads blanks, an optional comment, and the end of the line or of the text. -/
def lineEnd (cs : List Char) : Option (List Char) :=
  let cs := match blanks cs with
    | '#' :: rest => rest.dropWhile isCommentChar
    | cs => cs
  if cs.isEmpty then some [] else newline cs

/-- Drops blanks, ends of lines and comments; the flag tells that a comment has begun. -/
def gapFrom : Bool → List Char → Option (List Char)
  | _, [] => some []
  | _, '\n' :: rest => gapFrom false rest
  | _, '\r' :: '\n' :: rest => gapFrom false rest
  | true, c :: rest => if isCommentChar c then gapFrom true rest else none
  | false, c :: rest =>
    if isBlank c then gapFrom false rest
    else if c == '#' then gapFrom true rest
    else some (c :: rest)

/-- Drops blanks, ends of lines and comments. -/
def gap (cs : List Char) : Option (List Char) := gapFrom false cs

/-- The character with a number given by hexadecimal digits, if it is one. -/
def charOfHex? (digits : List Char) : Option Char := do
  let n ← digits.foldlM (fun n c => (hexValue? c).map (n * 16 + ·)) 0
  if n.isValidChar then some (Char.ofNat n) else none

/-- The character for which a letter stands after a backslash. -/
def escape? (c : Char) : Option Char :=
  match c with
  | 'b' => some '\x08'
  | 't' => some '\t'
  | 'n' => some '\n'
  | 'f' => some '\x0c'
  | 'r' => some '\r'
  | '"' => some '"'
  | '\\' => some '\\'
  | _ => none

/-- Puts a character in front of what was read. -/
def consRead (c : Char) (read : Option (List Char × List Char)) : Option (List Char × List Char) :=
  read.map fun (cs, rest) => (c :: cs, rest)

/-- Reads a string in double quotes whose first quote has been read. -/
def basicString : List Char → Option (List Char × List Char)
  | '"' :: rest => some ([], rest)
  | '\\' :: 'u' :: a :: b :: c :: d :: rest => do
    consRead (← charOfHex? [a, b, c, d]) (basicString rest)
  | '\\' :: 'U' :: a :: b :: c :: d :: e :: f :: g :: h :: rest => do
    consRead (← charOfHex? [a, b, c, d, e, f, g, h]) (basicString rest)
  | '\\' :: c :: rest => do consRead (← escape? c) (basicString rest)
  | c :: rest => if isCommentChar c then consRead c (basicString rest) else none
  | [] => none

/-- Reads a string in single quotes whose first quote has been read. -/
def literalString : List Char → Option (List Char × List Char)
  | '\'' :: rest => some ([], rest)
  | c :: rest => if isCommentChar c then consRead c (literalString rest) else none
  | [] => none

/-- Whether a backslash before these characters stands at the end of its line. -/
def continues (cs : List Char) : Bool := (newline (blanks cs)).isSome

/-- Reads a string of several lines in double quotes whose first three have been read. The flag
tells that blanks and ends of lines are being dropped, as they are after a backslash at the end of a
line. Up to two quotes may stand before the last three. -/
def longBasicString : Bool → List Char → Option (List Char × List Char)
  | _, '"' :: '"' :: '"' :: '"' :: '"' :: rest => some (['"', '"'], rest)
  | _, '"' :: '"' :: '"' :: '"' :: rest => some (['"'], rest)
  | _, '"' :: '"' :: '"' :: rest => some ([], rest)
  | drop, '\r' :: '\n' :: rest =>
    if drop then longBasicString true rest else consRead '\n' (longBasicString false rest)
  | _, '\\' :: 'u' :: a :: b :: c :: d :: rest => do
    consRead (← charOfHex? [a, b, c, d]) (longBasicString false rest)
  | _, '\\' :: 'U' :: a :: b :: c :: d :: e :: f :: g :: h :: rest => do
    consRead (← charOfHex? [a, b, c, d, e, f, g, h]) (longBasicString false rest)
  | _, '\\' :: c :: rest =>
    if continues (c :: rest) then longBasicString true (c :: rest)
    else do consRead (← escape? c) (longBasicString false rest)
  | drop, c :: rest =>
    if drop && (isBlank c || c == '\n') then longBasicString true rest
    else if isCommentChar c || c == '\n' then consRead c (longBasicString false rest)
    else none
  | _, [] => none

/-- Reads a string of several lines in single quotes whose first three have been read. Up to two
quotes may stand before the last three. -/
def longLiteralString : List Char → Option (List Char × List Char)
  | '\'' :: '\'' :: '\'' :: '\'' :: '\'' :: rest => some (['\'', '\''], rest)
  | '\'' :: '\'' :: '\'' :: '\'' :: rest => some (['\''], rest)
  | '\'' :: '\'' :: '\'' :: rest => some ([], rest)
  | '\r' :: '\n' :: rest => consRead '\n' (longLiteralString rest)
  | c :: rest =>
    if isCommentChar c || c == '\n' then consRead c (longLiteralString rest) else none
  | [] => none

/-- Drops the end of line that may follow the opening of a string of several lines. -/
def afterOpening (cs : List Char) : List Char := (newline cs).getD cs

/-- Reads a string of any form. -/
def string : Reader String := fun cs =>
  let read := match cs with
    | '"' :: '"' :: '"' :: rest => longBasicString false (afterOpening rest)
    | '"' :: rest => basicString rest
    | '\'' :: '\'' :: '\'' :: rest => longLiteralString (afterOpening rest)
    | '\'' :: rest => literalString rest
    | _ => none
  read.map fun (s, rest) => (String.ofList s, rest)

/-- Characters of a key without quotes. -/
def isKeyChar (c : Char) : Bool := c.isAlphanum || c == '_' || c == '-'

/-- Reads one part of a key. -/
def keyPart : Reader String := fun cs =>
  match cs with
  | '"' :: rest => (basicString rest).map fun (s, rest) => (String.ofList s, rest)
  | '\'' :: rest => (literalString rest).map fun (s, rest) => (String.ofList s, rest)
  | _ =>
    let (name, rest) := span isKeyChar cs
    if name.isEmpty then none else some (String.ofList name, rest)

/-- Reads at most `fuel` parts of a key with points between them. -/
def keyParts : Nat → Reader (List String)
  | 0, _ => none
  | fuel + 1, cs => do
    let (part, cs) ← keyPart (blanks cs)
    match blanks cs with
    | '.' :: rest =>
      let (more, rest) ← keyParts fuel rest
      some (part :: more, rest)
    | cs => some ([part], cs)

/-- The number of parts that a key has to stay below. -/
def keyLimit : Nat := 80

/-- Reads a key: the parts before the last, and the last. -/
def key : Reader (List String × String) := fun cs => do
  let (parts, rest) ← keyParts cs.length cs
  guard (parts.length < keyLimit)
  some ((parts.dropLast, ← parts.getLast?), rest)

/-- Reads further digits, with single underscores between digits. -/
def moreDigits (p : Char → Bool) : List Char → List Char × List Char
  | '_' :: c :: rest =>
    if p c then
      let (digits, rest) := moreDigits p rest
      (c :: digits, rest)
    else ([], '_' :: c :: rest)
  | c :: rest =>
    if p c then
      let (digits, rest) := moreDigits p rest
      (c :: digits, rest)
    else ([], c :: rest)
  | [] => ([], [])

/-- Reads digits, with single underscores between them. -/
def digits (p : Char → Bool) : Reader (List Char) := fun cs =>
  match cs with
  | c :: rest =>
    if p c then
      let (more, rest) := moreDigits p rest
      some (c :: more, rest)
    else none
  | [] => none

/-- Reads the digits of a whole number, which has no needless zeros in front. -/
def wholeDigits : Reader (List Char) := fun cs =>
  match cs with
  | '0' :: rest => some (['0'], rest)
  | _ => digits Char.isDigit cs

/-- A whole number of 64 bits. -/
def integer64? (n : Int) : Option Value :=
  if Wide.holds n then some (.integer n) else none

/-- Reads digits to a base after its mark. -/
def based (base : Nat) (cs : List Char) : Option (Value × List Char) := do
  let isDigit (c : Char) := match hexValue? c with
    | some n => n < base
    | none => false
  let (ds, rest) ← digits isDigit cs
  let n := ds.foldl (fun n c => n * base + (hexValue? c).getD 0) 0
  some (← integer64? n, rest)

/-- Reads a whole number. -/
def integer : Reader Value := fun cs =>
  match cs with
  | '0' :: 'x' :: rest => based 16 rest
  | '0' :: 'o' :: rest => based 8 rest
  | '0' :: 'b' :: rest => based 2 rest
  | _ => do
    let (negative, cs) := Binary64.readSign cs
    let (ds, rest) ← wholeDigits cs
    let n : Int := ofDigits ds
    some (← integer64? (if negative then -n else n), rest)

/-- Reads a power of ten after its mark. -/
def power : Reader Int := fun cs => do
  let (negative, cs) := Binary64.readSign cs
  let (ds, rest) ← digits Char.isDigit cs
  let n : Int := ofDigits ds
  some (if negative then -n else n, rest)

/-- Whether a character is the mark of a power of ten. -/
def isPowerMark (c : Char) : Bool := c == 'e' || c == 'E'

/-- Reads an optional power of ten; what is no power is left. -/
def optionalPower (cs : List Char) : Int × List Char :=
  match cs with
  | c :: rest => if isPowerMark c then (power rest).getD (0, cs) else (0, cs)
  | [] => (0, cs)

/-- Reads a number with a fraction, a power of ten, or both. -/
def finiteFloat (negative : Bool) (cs : List Char) : Option (Binary64.Decimal × List Char) := do
  let (whole, cs) ← wholeDigits cs
  match cs with
  | '.' :: rest =>
    let (fraction, rest) ← digits Char.isDigit rest
    let (power, rest) := optionalPower rest
    some ({ negative, whole, fraction, power }, rest)
  | c :: rest =>
    guard (isPowerMark c)
    let (power, rest) ← power rest
    some ({ negative, whole, fraction := [], power }, rest)
  | [] => none

/-- Reads a floating-point number; one that is too large is refused. -/
def float : Reader Value := fun cs =>
  let (negative, cs) := Binary64.readSign cs
  match cs with
  | 'i' :: 'n' :: 'f' :: rest => some (.floating (.infinite negative), rest)
  | 'n' :: 'a' :: 'n' :: rest => some (.floating .nan, rest)
  | _ => do
    let (d, rest) ← finiteFloat negative cs
    guard (d.value != .infinite false)
    some (.floating d.value, rest)

end FileServer.Toml
