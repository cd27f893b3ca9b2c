import FileServer.Settings.Yaml.Cursor

/-!
Passages: texts of several indented lines behind a mark. Literal ones keep their lines, folded ones
join them where no line is indented further than the others.
-/

namespace FileServer.Yaml.Passage

/-- What becomes of the breaks at the end of a passage: one is kept, none, or all of them. -/
inductive Chomp where
  | clip
  | strip
  | keep
  deriving Repr, DecidableEq

/-- The choice that a sign makes. -/
def Chomp.ofSign? (m : Char) : Option Chomp :=
  if m == '-' then some .strip else if m == '+' then some .keep else none

/-- What stands behind the mark of a passage: the choice about its end, and how far its lines are
indented beyond the block around them. -/
structure Header where
  chomp : Chomp := .clip
  indent? : Option Nat := none
  deriving Repr, DecidableEq

/-- Reads a digit, which is not zero, if there is one. -/
def digit? (cs : List Char) : Option (Option Nat × List Char) :=
  match cs with
  | m :: rest =>
    if m == '0' then none
    else some (match Text.digitValue? m with | some n => (some n, rest) | none => (none, cs))
  | [] => some (none, [])

/-- Reads what stands behind the mark; sign and digit may change places. -/
def header (cs : List Char) : Option (Header × List Char) := do
  match cs.head?.bind Chomp.ofSign? with
  | some chomp =>
    let (indent?, rest) ← digit? (cs.drop 1)
    some ({ chomp, indent? }, rest)
  | none =>
    let (indent?, rest) ← digit? cs
    match indent?.bind fun _ => rest.head?.bind Chomp.ofSign? with
    | some chomp => some ({ chomp, indent? }, rest.drop 1)
    | none => some ({ indent? }, rest)

/-- Drops at most `fuel` blanks before a column and breaks, and counts the breaks. -/
def empties (column : Nat) : Nat → Cursor → Nat × Cursor
  | 0, c => (0, c)
  | fuel + 1, c =>
    if c.head == ' ' && c.column < column then empties column fuel c.behindBlank
    else if isBreak c.head then
      let (n, c) := empties column fuel c.nextLine
      (n + 1, c)
    else (0, c)

/-- Drops at most `fuel` blanks and breaks, and gives the greatest column that was met, and how many
breaks there were. -/
def firstEmpties : Nat → Cursor → Nat × Nat × Cursor
  | 0, c => (c.column, 0, c)
  | fuel + 1, c =>
    if c.head == ' ' then firstEmpties fuel c.behindBlank
    else if isBreak c.head then
      let (widest, n, after) := firstEmpties fuel c.nextLine
      (max c.column widest, n + 1, after)
    else (c.column, 0, c)

/-- A line of a passage, and how many breaks follow it. -/
structure Line where
  text : List Char
  breaks : Nat
  deriving Repr, DecidableEq

/-- Whether a line is indented further than the others. -/
def Line.isIndented (l : Line) : Bool := l.text.head?.any isBlank

/-- Reads at most `fuel` lines that start at a column. -/
def lines (column : Nat) : Nat → Cursor → List Line × Cursor
  | 0, c => ([], c)
  | fuel + 1, c =>
    if c.column != column || c.isEnd || (column == 0 && c.isAtEnding) then ([], c)
    else
      let (text, c) := c.span fun m => !endsLine m
      if c.isEnd then ([⟨text, 0⟩], c)
      else
        let (n, c) := empties column c.rest.length c.nextLine
        let (more, c) := lines column fuel c
        (⟨text, n + 1⟩ :: more, c)

/-- What is written between two lines. -/
def between (isFolded : Bool) (l next : Line) : List Char :=
  if isFolded && !l.isIndented && !next.isIndented then
    if l.breaks ≤ 1 then [' '] else List.replicate (l.breaks - 1) '\n'
  else List.replicate l.breaks '\n'

/-- Lines as one text, without the breaks behind the last one. -/
def joined (isFolded : Bool) : List Line → List Char
  | [] => []
  | [l] => l.text
  | l :: next :: rest => l.text ++ between isFolded l next ++ joined isFolded (next :: rest)

/-- What is written behind the last line: `breaks` follow it, and `isOpen` tells that the text ends
in a further line that reaches the column. -/
def Chomp.ending (chomp : Chomp) (breaks : Nat) (isOpen : Bool) : List Char :=
  let first := List.replicate (min breaks 1) '\n' ++ if isOpen then ['\n'] else []
  match chomp with
  | .strip => []
  | .clip => first
  | .keep => first ++ List.replicate (breaks - 1) '\n'

/-- What is written for a passage without lines, of which the header is followed by a break if
`isBroken` is set, and then by empty lines. -/
def Chomp.ofEmpty (chomp : Chomp) (isBroken : Bool) (breaks : Nat) : List Char :=
  match chomp with
  | .strip => []
  | .clip => if isBroken then ['\n'] else []
  | .keep => if isBroken then List.replicate (max breaks 1) '\n' else []

/-- Reads a passage at its mark, in a block of which the content starts at the margin. -/
def read (margin : Nat) (c : Cursor) : Option (String × Cursor) := do
  let isFolded := c.head == '>'
  let (header, rest) ← header (c.rest.drop 1)
  let (_, c) ← (c.upTo rest).blanks
  guard (endsLine c.head)
  let isBroken := !c.isEnd
  let c := c.nextLine
  guard (c.head != '\t')
  let (column, before, c) := match header.indent? with
    | some n =>
      let column := margin - 1 + n
      (column, empties column c.rest.length c)
    | none =>
      let (widest, n, c) := firstEmpties c.rest.length c
      (max widest margin, n, c)
  if c.isEnd then some (String.ofList (header.chomp.ofEmpty isBroken before), c)
  else
    guard !(c.column < column && margin ≤ c.column)
    let (lines, c) := lines column (c.rest.length + 1) c
    let ending := match lines.getLast? with
      | some last => header.chomp.ending last.breaks (c.isEnd && max column 1 ≤ c.column)
      | none => if header.chomp = .keep then List.replicate before '\n' else []
    let start := if lines.isEmpty then [] else List.replicate before '\n'
    some (String.ofList (start ++ joined isFolded lines ++ ending), c)

end FileServer.Yaml.Passage
