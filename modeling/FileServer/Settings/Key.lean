import FileServer.Number.Wide
import FileServer.Settings.Value
import FileServer.Text.LowerCase
import FileServer.Text.Reader

/-!
Keys that lead into nested settings: names with points between them and places of sequences in
square brackets. Setting a value at such a key makes the tables and sequences on the way.
-/

namespace FileServer

/-- One step into a nested value. -/
inductive KeyStep where
  | name (s : String)
  | index (i : Int)
  deriving Repr, DecidableEq

/-- A key: a name and the steps that follow it. -/
structure Key where
  head : String
  steps : List KeyStep := []
  deriving Repr, DecidableEq

namespace Key

open Text

/-- Characters of a name inside a key. -/
def isNameChar (c : Char) : Bool := c.isAlphanum || c == ' ' || c == '_' || c == '-'

/-- Reads a name. -/
def readName : Reader String := fun cs =>
  let (name, rest) := span isNameChar cs
  if name.isEmpty then none else some (String.ofList name, rest)

/-- Blanks around the number of a place. -/
def isPad (c : Char) : Bool := c == ' ' || c == '\t'

/-- Reads the number of a place with blanks around it, a negative one counting from the end. -/
def readIndex : Reader Int := fun cs => do
  let (negative, cs) := match cs.dropWhile isPad with
    | '-' :: rest => (true, rest)
    | all => (false, all)
  let (digits, cs) := span Char.isDigit cs
  guard !digits.isEmpty
  let n : Int := if negative then -(ofDigits digits : Int) else ofDigits digits
  guard (Wide.holds n)
  some (n, cs.dropWhile isPad)

/-- Reads one step. -/
def readStep : Reader KeyStep := fun cs =>
  match cs with
  | '.' :: rest => (readName rest).map fun (s, cs) => (.name s, cs)
  | '[' :: rest => do
    let (i, rest) ← readIndex rest
    let rest ← mark ']' rest
    some (.index i, rest)
  | _ => none

/-- Reads steps to the end of the text, at most `fuel` of them. -/
def readSteps : Nat → List Char → Option (List KeyStep)
  | _, [] => some []
  | 0, _ => none
  | fuel + 1, cs => do
    let (step, rest) ← readStep cs
    return step :: (← readSteps fuel rest)

/-- The key that a text spells; a text that spells none is a name as a whole. -/
def ofText (s : String) : Key :=
  let read : Option Key := do
    let (head, rest) ← readName s.toList
    return { head, steps := ← readSteps rest.length rest }
  read.getD { head := s }

end Key

namespace Value

/-- The entries of a table; anything else has none. -/
def entries : Value → List (String × Value)
  | table _ entries => entries
  | _ => []

/-- The items of a sequence; anything else has none. -/
def items : Value → List Value
  | sequence _ items => items
  | _ => []

/-- The place where a table was given; one that is made of something else has none. -/
def tableOrigin : Value → Option String
  | table origin _ => origin
  | _ => none

mutual

/-- Puts a value under a name in a table, which is made of anything else. Names are in small
letters. A table is merged into what stands there, entry by entry; any other value replaces it. -/
def merge (root : Value) (name : String) : Value → Value
  | table _ incoming =>
    let key := Text.lower name
    let old := (root.entries.lookup key).getD emptyTable
    table root.tableOrigin (putEntry key (mergeAll old incoming) root.entries)
  | v => table root.tableOrigin (putEntry (Text.lower name) v root.entries)

/-- Puts several values under their names in a table. -/
def mergeAll (root : Value) : List (String × Value) → Value
  | [] => root
  | (name, v) :: rest => mergeAll (merge root name v) rest

end

/-- The place in a sequence that a number means; one before the beginning means none. -/
def indexIn (length : Nat) (i : Int) : Option Nat :=
  if 0 ≤ i then some i.toNat else if (-i).toNat ≤ length then some (length - (-i).toNat) else none

/-- Changes the value at the end of the steps, which are given with the last one first; tables and
sequences are made on the way. `none` means a place before the beginning of a sequence. -/
def update (head : String) (change : Value → Option Value) : List KeyStep → Value → Option Value
  | [], root => do
    let key := Text.lower head
    let new ← change ((root.entries.lookup key).getD nothing)
    some (table root.tableOrigin (putEntry key new root.entries))
  | .name s :: before, root =>
    update head (fun parent => do
      let key := Text.lower s
      let new ← change ((parent.entries.lookup key).getD nothing)
      some (table parent.tableOrigin (putEntry key new parent.entries))) before root
  | .index i :: before, root =>
    update head (fun parent => do
      let items := parent.items
      let place ← indexIn items.length i
      let items := items ++ List.replicate (place + 1 - items.length) nothing
      let new ← change (items.getD place nothing)
      let origin := match parent with
        | sequence origin _ => origin
        | _ => none
      some (sequence origin (items.set place new))) before root

/-- Sets a value at a key. -/
def setAt (root : Value) (key : Key) (v : Value) : Option Value :=
  match key.steps.reverse with
  | [] => some (root.merge key.head v)
  | .name s :: before => update key.head (fun parent => some (parent.merge s v)) before root
  | before => update key.head (fun _ => some v) before root

/-- Sets the entries of a table at their keys, in order. -/
def setAll (root : Value) (given : List (String × Value)) : Option Value :=
  given.foldlM (fun root e => root.setAt (Key.ofText e.1) e.2) root

end Value

end FileServer
