import FileServer.Settings.Json.Document

/-!
Strings and characters in an object notation: strings with escapes between double quotes, raw
strings between quotes with as many number signs as needed, and characters between single quotes.
-/

namespace FileServer.Ron

open Text

/-- The character for which a letter stands after a backslash. -/
def escape? (c : Char) : Option Char :=
  match c with
  | '\'' | '"' | '\\' => some c
  | 'n' => some '\n'
  | 'r' => some '\r'
  | 't' => some '\t'
  | '0' => some '\x00'
  | _ => none

/-- The greatest number of digits of a character that is given by its number. -/
def maxDigits : Nat := 6

/-- Reads what follows the backslash of a character. -/
def escaped : Reader Char := fun cs =>
  match cs with
  | 'x' :: a :: b :: rest => do some (← Json.charOfUnit? (← Json.unit? [a, b]), rest)
  | 'u' :: '\x7b' :: rest => do
    let (digits, rest) := span (fun c => (hexValue? c).isSome) rest
    guard (!digits.isEmpty && digits.length ≤ maxDigits)
    some (← Json.charOfUnit? (← Json.unit? digits), ← mark '\x7d' rest)
  | c :: rest => (escape? c).map (·, rest)
  | [] => none

/-- Reads at most `fuel` characters of a string up to its closing quote. -/
def stringChars : Nat → List Char → Option (List Char × List Char)
  | fuel + 1, '\\' :: rest => do
    let (c, rest) ← escaped rest
    Json.consRead c (stringChars fuel rest)
  | fuel + 1, c :: rest =>
    if c == '"' then some ([], rest) else Json.consRead c (stringChars fuel rest)
  | _, _ => none

/-- Reads a raw string up to its closing quote and the number signs behind that. -/
def rawChars (closing : List Char) : List Char → Option (List Char × List Char)
  | [] => none
  | c :: rest =>
    match word closing (c :: rest) with
    | some rest => some ([], rest)
    | none => Json.consRead c (rawChars closing rest)

/-- Reads a string of either kind. -/
def string : Reader String := fun cs => do
  let (s, rest) ←
    match cs with
    | '"' :: rest => stringChars cs.length rest
    | 'r' :: rest =>
      let (signs, rest) := span (· == '#') rest
      rawChars ('"' :: signs) (← mark '"' rest)
    | _ => none
  some (String.ofList s, rest)

/-- Reads a character. -/
def character : Reader Char := fun cs => do
  let (c, rest) ←
    match cs with
    | '\'' :: '\\' :: rest => escaped rest
    | '\'' :: c :: rest => if c == '\'' then none else some (c, rest)
    | _ => none
  some (c, ← mark '\'' rest)

end FileServer.Ron
