import FileServer.Text.Reader

/-!
Places in a text of lines. Where a part of YAML stands in its line decides what it belongs to, so
a place knows its line and its column beside what follows it.
-/

namespace FileServer.Yaml

/-- Blanks within a line. -/
def isBlank (c : Char) : Bool := c == ' ' || c == '\t'

/-- Characters that break a line. -/
def isBreak (c : Char) : Bool := c == '\n' || c == '\r'

/-- The character at which a text ends, and which is met at its end. -/
def endMark : Char := '\x00'

/-- Whether a line ends at a character. -/
def endsLine (c : Char) : Bool := isBreak c || c == endMark

/-- Whether a word ends at a character, wherever it stands. -/
def endsWord (c : Char) : Bool := isBlank c || endsLine c

/-- Characters that part what stands in brackets. -/
def isBracketMark (c : Char) : Bool :=
  c == ',' || c == '[' || c == ']' || c == '\x7b' || c == '\x7d'

/-- A place in a text: what follows it, how many characters stand before it in the text, lines
before its line, and characters before it in the line. It is leading if only blanks stand before it
in the line. -/
structure Cursor where
  rest : List Char
  index : Nat := 0
  line : Nat := 0
  column : Nat := 0
  isLeading : Bool := true
  deriving Repr, DecidableEq

namespace Cursor

/-- The start of a text. -/
def ofText (s : String) : Cursor := { rest := s.toList.takeWhile (· != endMark) }

/-- The character at a distance. -/
def ahead (n : Nat) (c : Cursor) : Char := (c.rest.drop n).head?.getD endMark

/-- The character that follows. -/
def head (c : Cursor) : Char := c.ahead 0

/-- Whether the text ends here. -/
def isEnd (c : Cursor) : Bool := c.rest.isEmpty

/-- The place behind a blank. -/
def behindBlank (c : Cursor) : Cursor :=
  { c with rest := c.rest.drop 1, index := c.index + 1, column := c.column + 1 }

/-- The place behind a number of characters of one line, not all of which are blank. -/
def behind (n : Nat) (c : Cursor) : Cursor :=
  { c with
    rest := c.rest.drop n, index := c.index + n, column := c.column + n
    isLeading := c.isLeading && n == 0 }

/-- The place behind what was read of one line, given by what was left. -/
def upTo (rest : List Char) (c : Cursor) : Cursor := c.behind (c.rest.length - rest.length)

/-- The start of the next line, if the line breaks here. -/
def nextLine (c : Cursor) : Cursor :=
  match c.rest with
  | '\r' :: '\n' :: rest => { rest, index := c.index + 2, line := c.line + 1 }
  | m :: rest => if isBreak m then { rest, index := c.index + 1, line := c.line + 1 } else c
  | [] => c

/-- The characters up to the first that does not belong to a class, and the place behind them. No
such class holds a character that breaks a line. -/
def span (p : Char → Bool) (c : Cursor) : List Char × Cursor :=
  let (cs, rest) := Text.span p c.rest
  (cs, { c with
    rest, index := c.index + cs.length, column := c.column + cs.length,
    isLeading := c.isLeading && cs.all isBlank })

/-- The end of the line. -/
def lineEnd (c : Cursor) : Cursor := (c.span fun m => !endsLine m).2

/-- Reads the blanks of a line and drops a comment behind them. A comment without a blank before it
is refused. -/
def blanks (c : Cursor) : Option (List Char × Cursor) :=
  let (read, c) := c.span isBlank
  if c.head == '#' then (if read.isEmpty then none else some (read, c.lineEnd)) else some (read, c)

/-- Drops blanks, breaks and comments, and tells whether a line was left. Before the column at which
a block starts tabs may stand only in lines without content; `margin` is the column behind. At most
`fuel` parts are dropped. -/
def gap (margin : Nat) : Nat → Cursor → Option (Bool × Cursor)
  | 0, c => some (false, c)
  | fuel + 1, c =>
    if c.head == '\t' && c.isLeading && c.column + 1 < margin then do
      let (_, c) ← c.blanks
      guard (endsLine c.head)
      gap margin fuel c
    else if isBlank c.head then gap margin fuel c.behindBlank
    else if isBreak c.head then (gap margin fuel c.nextLine).map fun (_, c) => (true, c)
    else if c.head == '#' then gap margin fuel c.lineEnd
    else some (false, c)

/-- Whether three given characters stand alone at the start of a line. -/
def isAtRule (m : Char) (c : Cursor) : Bool :=
  c.column == 0 && c.head == m && c.ahead 1 == m && c.ahead 2 == m && endsWord (c.ahead 3)

/-- Whether a document starts here. -/
def isAtOpening (c : Cursor) : Bool := c.isAtRule '-'

/-- Whether a document ends here. -/
def isAtEnding (c : Cursor) : Bool := c.isAtRule '.'

/-- Whether a document starts or ends here. -/
def isAtBoundary (c : Cursor) : Bool := c.isAtOpening || c.isAtEnding

end Cursor

end FileServer.Yaml
