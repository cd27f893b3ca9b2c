import FileServer.Settings.Json.Number

/-!
Settings in JSON.
-/

namespace FileServer.Json

open Text

/-- How deep values may be nested. -/
def depthLimit : Nat := 127

/-- Drops blanks. -/
def blanks (cs : List Char) : List Char :=
  cs.dropWhile fun c => c == ' ' || c == '\t' || c == '\n' || c == '\r'

/-- The number of four hexadecimal digits. -/
def unit? (digits : List Char) : Option Nat :=
  digits.foldlM (fun n c => (hexValue? c).map (n * 16 + ·)) 0

/-- The character of two units, of which the first announces the second. -/
def charOfUnits? (first second : Nat) : Option Char :=
  if 0xD800 ≤ first ∧ first < 0xDC00 ∧ 0xDC00 ≤ second ∧ second < 0xE000 then
    some (Char.ofNat (0x10000 + (first - 0xD800) * 0x400 + (second - 0xDC00)))
  else none

/-- The character of one unit. -/
def charOfUnit? (n : Nat) : Option Char := if n.isValidChar then some (Char.ofNat n) else none

/-- The character for which a letter stands after a backslash. -/
def escape? (c : Char) : Option Char :=
  match c with
  | '"' => some '"'
  | '\\' => some '\\'
  | '/' => some '/'
  | 'b' => some '\x08'
  | 'f' => some '\x0c'
  | 'n' => some '\n'
  | 'r' => some '\r'
  | 't' => some '\t'
  | _ => none

/-- Puts an element in front of what was read. -/
def consRead {α : Type} (a : α) (read : Option (List α × List Char)) :
    Option (List α × List Char) :=
  read.map fun (as, rest) => (a :: as, rest)

/-- Reads a string whose first quote has been read. -/
def stringChars : List Char → Option (List Char × List Char)
  | '"' :: rest => some ([], rest)
  | '\\' :: 'u' :: a :: b :: c :: d :: '\\' :: 'u' :: e :: f :: g :: h :: rest => do
    let first ← unit? [a, b, c, d]
    match charOfUnit? first with
    | some ch => consRead ch (stringChars ('\\' :: 'u' :: e :: f :: g :: h :: rest))
    | none => do consRead (← charOfUnits? first (← unit? [e, f, g, h])) (stringChars rest)
  | '\\' :: 'u' :: a :: b :: c :: d :: rest => do
    consRead (← charOfUnit? (← unit? [a, b, c, d])) (stringChars rest)
  | '\\' :: c :: rest => do consRead (← escape? c) (stringChars rest)
  | c :: rest => if c.toNat < 0x20 then none else consRead c (stringChars rest)
  | [] => none

/-- Reads a string. -/
def string : Reader String := fun cs => do
  let (s, rest) ← stringChars (← mark '"' cs)
  some (String.ofList s, rest)

/-- Reads a value without parts. -/
def scalar : Reader Value := fun cs =>
  match cs with
  | '"' :: _ => (string cs).map fun (s, rest) => (.text s, rest)
  | 't' :: 'r' :: 'u' :: 'e' :: rest => some (.boolean true, rest)
  | 'f' :: 'a' :: 'l' :: 's' :: 'e' :: rest => some (.boolean false, rest)
  | 'n' :: 'u' :: 'l' :: 'l' :: rest => some (.nothing, rest)
  | _ => number cs

/-- Reads a name, a colon and a value. -/
def member (value : Reader Value) : Reader (String × Value) := fun cs => do
  let (name, cs) ← string cs
  let (v, cs) ← value (blanks (← mark ':' (blanks cs)))
  some ((name, v), cs)

/-- The entries of a table from its members; of several members of one name the last counts. -/
def entriesOf (members : List (String × Value)) : List (String × Value) :=
  members.foldl (fun entries (name, v) => Value.putEntry name v entries) []

/-- Reads a value that is nested no deeper than `depth`. -/
def value : Nat → Reader Value
  | 0, cs => scalar cs
  | depth + 1, cs =>
    match cs with
    | '[' :: rest => do
      let (items, rest) ← listing (some ∘ blanks) ']' false (value depth) rest
      some (.sequence none items, rest)
    | '\x7b' :: rest => do
      let (members, rest) ← listing (some ∘ blanks) '\x7d' false (member (value depth)) rest
      some (.table none (entriesOf members), rest)
    | _ => scalar cs

/-- The value that a text spells. -/
def read? (s : String) : Option Value := do
  let (v, rest) ← value depthLimit (blanks s.toList)
  if (blanks rest).isEmpty then some v else none

end FileServer.Json
