import FileServer.Settings.Yaml.Layout
import FileServer.Settings.Yaml.Passage
import FileServer.Settings.Yaml.Plain
import FileServer.Settings.Yaml.Quoted

/-!
The tokens of a text. Each step reads one mark or text at its place in the layout and gives the
layout behind it, or refuses the text.
-/

namespace FileServer.Yaml.Layout

/-- Adds a token for characters of the line, and passes the blanks and the comment behind them. -/
def pass (n : Nat) (t : Token) (l : Layout) : Option Layout := do
  let (_, c) ← (l.cursor.behind n).blanks
  some ((l.goTo c).push t)

/-- Reads the name of a directive. -/
def directiveName (c : Cursor) : Option (String × Cursor) := do
  let (name, c) := c.span Tag.isHandleChar
  guard (!name.isEmpty && endsWord c.head)
  some (String.ofList name, c)

/-- The greatest number of digits of a version. -/
def maxVersionDigits : Nat := 9

/-- Reads one number of a version. -/
def versionNumber (c : Cursor) : Option Cursor := do
  let (digits, c) := c.span Char.isDigit
  guard (!digits.isEmpty && digits.length ≤ maxVersionDigits)
  some c

/-- Reads the rest of a directive. One that is not known takes back what others have said. -/
def directiveToken (name : String) (c : Cursor) : Option (Token × Cursor) :=
  match name with
  | "YAML" => do
    let c ← versionNumber (c.span isBlank).2
    guard (c.head == '.')
    some (.version, ← versionNumber (c.behind 1))
  | "TAG" => do
    let (_, c) := c.span isBlank
    let ((handle, start), rest) ← Tag.directive c.rest
    let c := c.upTo rest
    guard (endsWord c.head)
    some (.meaning handle start, c)
  | _ => some (.meaning "" "", c.lineEnd)

/-- Reads a directive, which has a line of its own outside of all blocks. -/
def directive (l : Layout) : Option Layout := do
  let l ← (l.closeBlocks 0).dropCandidate
  let (name, c) ← directiveName (l.cursor.behind 1)
  let (t, c) ← directiveToken name c
  let (_, c) ← c.blanks
  guard (endsLine c.head)
  some (((l.allowKey false).goTo c.nextLine).push t)

/-- Reads the mark at which a document starts or ends. -/
def boundary (t : Token) (l : Layout) : Option Layout := do
  let l ← (l.closeBlocks 0).dropCandidate
  some (((l.allowKey false).goTo (l.cursor.behind 3)).push t)

/-- Reads the mark at which a document ends; nothing else stands in its line. -/
def ending (l : Layout) : Option Layout := do
  let l ← l.boundary .ending
  let (_, c) ← l.cursor.blanks
  guard (endsLine c.head)
  some (l.goTo c)

/-- How deep brackets may be nested. -/
def maxBrackets : Nat := 255

/-- Reads an opening bracket or brace. -/
def openBracket (t : Token) (l : Layout) : Option Layout := do
  let l := l.markCandidate.reserveColumn.enter.allowKey true
  guard (l.outerCandidates.length ≤ maxBrackets)
  let l := if t = .brace then { l with isBraced := true }
    else { l with bareEntries := false :: l.bareEntries }
  l.pass 1 t

/-- Reads a closing bracket or brace. In brackets a colon may stand directly behind it. -/
def closeBracket (t : Token) (l : Layout) : Option Layout := do
  let l := (← l.dropCandidate).leave.allowKey false
  let l := if t = .bracketEnd then
      let l := l.endBareEntry
      { l with bareEntries := l.bareEntries.drop 1 }
    else l
  let l ← l.pass 1 t
  some (if l.inBrackets then { l with colonIndex := l.cursor.index } else l)

/-- Reads a comma. -/
def comma (l : Layout) : Option Layout := do
  ((← l.dropCandidate).allowKey true).endBareEntry.pass 1 .comma

/-- Reads the dash of an item. -/
def dash (l : Layout) : Option Layout := do
  guard (!l.inBrackets && l.allowsKey)
  let column := l.cursor.column
  let l := l.openBlock column l.tokens.size .items
  let (blanks, c) ← (l.cursor.behind 1).blanks
  guard !(blanks.contains '\t' && c.head == '-' && endsWord (c.ahead 1))
  let l := l.goTo c
  let l := if isBreak c.head || isBracketMark c.head then l.reserveColumn else l
  some (((← l.dropCandidate).allowKey true).push .dash)

/-- Drops blanks other than tabs, breaks and comments, and tells whether there was a blank or a
break. At most `fuel` parts are dropped. -/
def spaces : Nat → Cursor → Bool × Cursor
  | 0, c => (false, c)
  | fuel + 1, c =>
    if c.head == ' ' then (true, (spaces fuel c.behindBlank).2)
    else if isBreak c.head then (true, (spaces fuel c.nextLine).2)
    else if c.head == '#' then spaces fuel c.lineEnd
    else (false, c)

/-- Reads the mark of a key. -/
def keyMark (l : Layout) : Option Layout := do
  guard (l.inBrackets || l.allowsKey)
  let l := if l.inBrackets then { l with isBraced := true }
    else l.openBlock l.cursor.column l.tokens.size .entries
  let l := (← l.dropCandidate).allowKey !l.inBrackets
  let c := l.cursor.behind 1
  let (isApart, c) := spaces (c.rest.length + 1) c
  guard (isApart && c.head != '\t')
  some ((l.goTo c).push .key)

/-- Reads the colon behind a key. What stands before it is the key, if it may be one; the mark of
the key then goes before it. -/
def colon (l : Layout) : Option Layout := do
  let start := l.cursor
  let isBare := !l.bareEntries.isEmpty && !l.isBraced
  let l := if isBare then { l with bareEntries := true :: l.bareEntries.drop 1 } else l
  let after := start.behind 1
  let after ← if after.head == '\t' then do
      let (blanks, c) ← after.blanks
      guard (blanks.contains ' ' || !(Tag.isHandleChar c.head))
      some c
    else some after
  let l := l.goTo after
  match l.candidate with
  | some k =>
    guard !(isBare && k.line < start.line)
    let l := l.pushAt k.position .key
    let l := if isBare then l.pushAt k.position .brace else l
    let l := (l.openBlock k.column k.position .entries).reserveColumn
    some (({ l with candidate := none }.allowKey false).push .value)
  | none =>
    let l := if isBare then l.push .brace else l
    guard (l.inBrackets || l.allowsKey)
    let l := (l.openBlock start.column l.tokens.size .entries).reserveColumn
    some ((l.allowKey !l.inBrackets).push .value)

/-- Characters of the name of an anchor. -/
def isAnchorChar (m : Char) : Bool := !(endsWord m || isBracketMark m || m == '\uFEFF')

/-- Reads the name of an anchor behind its mark. -/
def named (token : String → Token) (l : Layout) : Option Layout := do
  let l := l.markCandidate.allowKey false
  let (name, c) := (l.cursor.behind 1).span isAnchorChar
  guard !name.isEmpty
  some ((l.goTo c).push (token (String.ofList name)))

/-- Reads a tag. -/
def tagged (l : Layout) : Option Layout := do
  let l := l.markCandidate.allowKey false
  let (t, rest) ← Tag.read l.cursor.rest
  let c := l.cursor.upTo rest
  guard (endsWord c.head || (l.inBrackets && isBracketMark c.head))
  some ((l.goTo c).push (.tag t))

/-- Reads a passage. -/
def passage (l : Layout) : Option Layout := do
  let l := (l.markCandidate.allowKey true).dropUnmarked
  let (s, c) ← Passage.read l.margin l.cursor
  some ((l.goTo c).push (.text false s))

/-- Drops what does not count. Outside of brackets a key may stand in a new line. -/
def skipGap (l : Layout) : Option Layout := do
  let (isNewLine, c) ← l.cursor.gap l.margin (l.cursor.rest.length + 1)
  let l := l.goTo c
  some (if isNewLine && !l.inBrackets then l.allowKey true else l)

/-- Reads a text in quotes, and what does not count behind it. In brackets a colon may stand
directly behind it. -/
def quoted (l : Layout) : Option Layout := do
  let l := l.markCandidate.allowKey false
  let (s, c) ← Quoted.read l.inBrackets l.margin l.cursor
  let l ← (l.goTo c).skipGap
  some ({ l with colonIndex := l.cursor.index }.push (.text false s))

/-- Reads a plain text. If it ends at the start of a line, a key may follow. -/
def plain (l : Layout) : Option Layout := do
  let l := (l.markCandidate.allowKey false).dropUnmarked
  let (s, c) ← Plain.read l.inBrackets l.margin l.cursor
  let l := l.goTo c
  some ((if c.isLeading then l.allowKey true else l).push (.text true s))

/-- Whether a colon ends a key here. -/
def isAtColon (l : Layout) : Bool :=
  let next := l.cursor.ahead 1
  l.cursor.head == ':' && (endsWord next ||
    (l.inBrackets && (isBracketMark next || l.cursor.index == l.colonIndex)))

/-- Reads the mark or text that starts here. -/
def token (l : Layout) : Option Layout :=
  let c := l.cursor
  let isAlone := endsWord (c.ahead 1)
  match c.head with
  | '[' => l.openBracket .bracket
  | '\x7b' => l.openBracket .brace
  | ']' => l.closeBracket .bracketEnd
  | '\x7d' => l.closeBracket .braceEnd
  | ',' => l.comma
  | '-' => if isAlone then l.dash else l.plain
  | '?' => if isAlone then l.keyMark else l.plain
  | ':' => if l.isAtColon then l.colon else l.plain
  | '*' => l.named .alias
  | '&' => l.named .anchor
  | '!' => l.tagged
  | '|' | '>' => if l.inBrackets then l.plain else l.passage
  | '\'' | '"' => l.quoted
  | '%' | '@' | '\x60' => none
  | _ => l.plain

/-- Reads what is next in the text, behind what does not count. -/
def next (l : Layout) : Option Layout := do
  let l ← (← l.skipGap).dropStale
  let c := l.cursor
  let l := l.closeBlocks (c.column + 1)
  if c.isEnd then some l
  else if c.column == 0 && c.head == '%' then l.directive
  else if c.isAtOpening then l.boundary .opening
  else if c.isAtEnding then l.ending
  else do
    guard !(c.column + 1 < l.margin)
    l.token

/-- Reads to the end of the text, in at most `fuel` steps. There all blocks are closed, and all
brackets must be. -/
def toEnd : Nat → Layout → Option Layout
  | 0, _ => none
  | fuel + 1, l => do
    let l ← l.next
    if l.cursor.isEnd then
      guard !l.inBrackets
      (l.closeBlocks 0).dropCandidate
    else toEnd fuel l

end Layout

/-- The tokens of a text. -/
def tokens? (s : String) : Option (List Token) := do
  let c := Cursor.ofText s
  let l ← Layout.toEnd (c.rest.length + 2) { cursor := c }
  some l.tokens.toList

end FileServer.Yaml
