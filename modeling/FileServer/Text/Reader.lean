import FileServer.Text.Numeral

/-!
Readers of the front of a text. A reader gives what it has read and the text that follows, or
refuses the text.
-/

namespace FileServer.Text

/-- A reader of the front of a text, giving a value and what follows it. -/
abbrev Reader (α : Type) := List Char → Option (α × List Char)

/-- Reads one given character. -/
def mark (m : Char) : List Char → Option (List Char)
  | c :: rest => if c == m then some rest else none
  | [] => none

/-- Reads given characters. -/
def word (w : List Char) (cs : List Char) : Option (List Char) :=
  if w.isPrefixOf cs then some (cs.drop w.length) else none

/-- Reads the characters up to the first that does not belong to a class; there may be none. -/
def span (p : Char → Bool) (cs : List Char) : List Char × List Char :=
  (cs.takeWhile p, cs.dropWhile p)

/-- Reads the elements of a list up to its closing character. Between two elements stands a comma,
and one may follow the last where `trailing` allows it; `skip` drops what does not count. At most
`fuel` elements are read. -/
def elements {α : Type} (skip : List Char → Option (List Char)) (closing : Char) (trailing : Bool)
    (element : Reader α) : Nat → Reader (List α)
  | 0, _ => none
  | fuel + 1, cs => do
    let (a, cs) ← element (← skip cs)
    match ← skip cs with
    | c :: rest =>
      if c == closing then some ([a], rest)
      else if c == ',' then
        let rest ← skip rest
        match if trailing then mark closing rest else none with
        | some rest => some ([a], rest)
        | none =>
          let (more, rest) ← elements skip closing trailing element fuel rest
          some (a :: more, rest)
      else none
    | [] => none

/-- Reads a list whose opening character has been read. -/
def listing {α : Type} (skip : List Char → Option (List Char)) (closing : Char) (trailing : Bool)
    (element : Reader α) (cs : List Char) : Option (List α × List Char) := do
  let cs ← skip cs
  match mark closing cs with
  | some rest => some ([], rest)
  | none => elements skip closing trailing element cs.length cs

end FileServer.Text
