import FileServer.Settings.Value
import FileServer.Text.Blank
import FileServer.Text.Reader

/-!
Settings in the form of sections with names in square brackets and lines with a name and a value.
All values are texts.
-/

namespace FileServer.Ini

open Text

/-- The character for which a letter stands after a backslash; most stand for themselves. -/
def escaped (c : Char) : Char :=
  match c with
  | '0' => '\x00'
  | 'a' => '\x07'
  | 'b' => '\x08'
  | 't' => '\t'
  | 'r' => '\r'
  | 'n' => '\n'
  | c => c

/-- The character that four hexadecimal digits mean; a plus sign may take the place of the first. -/
def numbered? (digits : List Char) : Option Char := do
  let digits := match digits with
    | '+' :: rest => rest
    | all => all
  let n ← digits.foldlM (fun n c => (hexValue? c).map (n * 16 + ·)) 0
  if n.isValidChar then some (Char.ofNat n) else none

/-- Reads up to a character at which `stop` holds, or to the end where `open_` allows it. A
backslash takes the next character out of its role, and the end of a line out of the text. -/
def until_ (stop : Char → Bool) (open_ : Bool) : List Char → Option (List Char × List Char)
  | '\\' :: 'x' :: a :: b :: c :: d :: rest => do
    let n ← numbered? [a, b, c, d]
    (until_ stop open_ rest).map fun (s, rest) => (n :: s, rest)
  | '\\' :: '\n' :: rest => until_ stop open_ rest
  | '\\' :: c :: rest =>
    if c == 'x' then none
    else (until_ stop open_ rest).map fun (s, rest) => (escaped c :: s, rest)
  | ['\\'] => none
  | c :: rest =>
    if stop c then some ([], c :: rest)
    else (until_ stop open_ rest).map fun (s, rest) => (c :: s, rest)
  | [] => if open_ then some ([], []) else none

/-- Characters that end a line. -/
def endsLine (c : Char) : Bool := c == '\n' || c == '\r'

/-- Reads the rest of a line. -/
def restOfLine : Reader (List Char) := until_ endsLine true

/-- Reads a text up to its closing quote, and the rest of the line as well. -/
def quotedLine (quote : Char) : Reader (List Char) := fun cs => do
  let (s, rest) ← until_ (· == quote) false cs
  let (more, rest) ← restOfLine (rest.drop 1)
  some (s ++ more, rest)

/-- Reads the value of a name; a part in quotes may run over several lines. -/
def value : Reader (List Char) := fun cs => do
  let cs := cs.dropWhile fun c => isBlank c && !endsLine c
  let (s, rest) ← match cs with
    | '"' :: rest => quotedLine '"' rest
    | '\'' :: rest => quotedLine '\'' rest
    | _ => restOfLine cs
  some (trim s, rest)

/-- The sections that have been read so far, the last one first; the first of all has no name. -/
abbrev Sections := List (Option String × List (String × Value))

/-- Adds a name and its value to the last section; a later value of one name counts. -/
def addEntry (name : String) (v : Value) : Sections → Sections
  | (title, entries) :: before => (title, Value.putEntry name v entries) :: before
  | [] => [(none, [(name, v)])]

/-- What has been read, and whether the last character of it ended a line. -/
structure Progress where
  sections : Sections := [(none, [])]
  atLineStart : Bool := true

/-- Reads one comment, title or entry, and gives what follows it. A comment has a line of its own,
and starts with it. -/
def item (p : Progress) (cs : List Char) : Option (Progress × List Char) :=
  match cs with
  | ';' :: rest | '#' :: rest =>
    if p.atLineStart then some (p, (rest.dropWhile (· != '\n')).drop 1) else none
  | '[' :: rest => do
    let (title, rest) ← until_ (· == ']') false rest
    let title := String.ofList (trim title)
    some ({ sections := (some title, []) :: p.sections, atLineStart := false }, rest.drop 1)
  | _ => do
    let (name, rest) ← until_ (fun c => c == '=' || c == ':') false cs
    let name := String.ofList (trim name)
    guard !name.isEmpty
    let (v, rest) ← value (rest.drop 1)
    let v := Value.text (String.ofList v)
    some ({ sections := addEntry name v p.sections, atLineStart := false }, rest)

/-- What has been read once blanks were dropped. -/
def Progress.behind (p : Progress) (blanks : List Char) : Progress :=
  { p with atLineStart := (blanks.getLast?.map (· == '\n')).getD p.atLineStart }

/-- Reads at most `fuel` comments, titles and entries. -/
def itemsFrom : Nat → Progress → List Char → Option Sections
  | fuel, p, cs =>
    match span isBlank cs, fuel with
    | (_, []), _ => some p.sections
    | _, 0 => none
    | (blanks, cs), fuel + 1 => do
      let (p, rest) ← item (p.behind blanks) cs
      itemsFrom fuel p rest

/-- The entries of the table that a text spells: those before the first title, and one table for
each title. -/
def read? (s : String) : Option (List (String × Value)) := do
  let sections ← itemsFrom s.length {} s.toList
  return sections.reverse.foldl (fun entries (title, inner) =>
    match title with
    | some title => Value.putEntry title (.table none inner) entries
    | none => inner.foldl (fun entries (name, v) => Value.putEntry name v entries) entries) []

end FileServer.Ini
