import FileServer.Settings.Toml.Moment
import FileServer.Settings.Toml.Table

/-!
Settings in TOML: values, and the lines of a text with their headers and pairs.
-/

namespace FileServer.Toml

open Text

/-- How deep values may be nested. -/
def depthLimit : Nat := 79

/-- Reads a value without parts. -/
def scalar : Reader Value := fun cs =>
  match cs with
  | '"' :: _ | '\'' :: _ => (string cs).map fun (s, rest) => (.text s, rest)
  | 't' :: 'r' :: 'u' :: 'e' :: rest => some (.boolean true, rest)
  | 'f' :: 'a' :: 'l' :: 's' :: 'e' :: rest => some (.boolean false, rest)
  | _ => (moment cs).or ((float cs).or (integer cs))

/-- Reads a key, an equals sign and a value. -/
def pair (value : Reader Value) : Reader ((List String × String) × Value) := fun cs => do
  let (k, cs) ← key cs
  let (v, cs) ← value (blanks (← mark '=' (blanks cs)))
  some ((k, v), cs)

/-- The table of the pairs inside braces. -/
def tableOfPairs (pairs : List ((List String × String) × Value)) : Option Value := do
  let entries ← pairs.foldlM (fun entries ((path, name), v) => addPair path name v entries) []
  some (.table none (entryValues entries))

/-- Reads a value that is nested no deeper than `depth`. -/
def value : Nat → Reader Value
  | 0, cs => scalar cs
  | depth + 1, cs =>
    match cs with
    | '[' :: rest => do
      let (items, rest) ← listing gap ']' true (value depth) rest
      some (.sequence none items, rest)
    | '\x7b' :: rest => do
      let (pairs, rest) ← listing (some ∘ blanks) '\x7d' false (pair (value depth)) rest
      some (← tableOfPairs pairs, rest)
    | _ => scalar cs

/-- Reads one line into a draft and gives what follows it. -/
def line (d : Draft) (cs : List Char) : Option (Draft × List Char) :=
  match blanks cs with
  | '[' :: '[' :: rest => do
    let ((path, name), rest) ← key rest
    let rest ← lineEnd (← mark ']' (← mark ']' rest))
    some (← d.startListed path name, rest)
  | '[' :: rest => do
    let ((path, name), rest) ← key rest
    let rest ← lineEnd (← mark ']' rest)
    some (← d.startTable path name, rest)
  | cs =>
    match lineEnd cs with
    | some rest => some (d, rest)
    | none => do
      let (((path, name), v), rest) ← pair (value depthLimit) cs
      some (← d.add path name v, ← lineEnd rest)

/-- Reads all lines, at most `fuel` of them. -/
def lines : Nat → Draft → List Char → Option Draft
  | _, d, [] => some d
  | 0, _, _ => none
  | fuel + 1, d, cs => do
    let (d, rest) ← line d cs
    lines fuel d rest

/-- The entries of the table that a text spells. -/
def read? (s : String) : Option (List (String × Value)) := do
  let cs := match s.toList with
    | '\uFEFF' :: rest => rest
    | cs => cs
  let d ← lines cs.length {} cs
  return entryValues (← d.finish)

end FileServer.Toml
