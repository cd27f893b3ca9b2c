import FileServer.Settings.Yaml.Fold

/-!
Plain texts: words without quotes, which may go on in further lines as long as these are indented.
-/

namespace FileServer.Yaml.Plain

/-- Whether a plain word ends before characters: at a blank, at a colon that ends a key, and in
brackets at what parts their content. -/
def ends (inBrackets : Bool) : List Char → Bool
  | [] => true
  | m :: rest =>
    let next := rest.head?.getD endMark
    endsWord m || (inBrackets && isBracketMark m) ||
      (m == ':' && (endsWord next || (inBrackets && isBracketMark next)))

/-- The plain word with which characters start. -/
def word (inBrackets : Bool) : List Char → List Char
  | [] => []
  | m :: rest => if ends inBrackets (m :: rest) then [] else m :: word inBrackets rest

/-- Passes a blank at the start of a line. Before the margin a tab may stand only in a line without
content. -/
def passBlank (margin : Nat) (c : Cursor) : Option Cursor :=
  if c.head == '\t' && c.column < margin then do
    let (_, c) ← c.blanks
    guard (endsLine c.head)
    some c
  else some c.behindBlank

/-- Reads at most `fuel` words, which outside of brackets stand at the margin or behind it. They end
before a comment and before the start or the end of a document. -/
def words (inBrackets : Bool) (margin : Nat) : Nat → Cursor → Option (List Char × Cursor)
  | 0, _ => none
  | fuel + 1, c =>
    if c.isAtBoundary || c.head == '#' then some ([], c)
    else do
      guard !(inBrackets && c.head == '-' && isBracketMark (c.ahead 1))
      let word := word inBrackets c.rest
      let c := c.behind word.length
      if isBlank c.head || isBreak c.head then
        let (fold, c) ← Fold.read (passBlank margin) fuel c
        if !inBrackets && c.column < margin then some (word, c)
        else
          let (more, c) ← words inBrackets margin fuel c
          some (if more.isEmpty then word else word ++ fold.text ++ more, c)
      else some (word, c)

/-- Reads a plain text. -/
def read (inBrackets : Bool) (margin : Nat) (c : Cursor) : Option (String × Cursor) := do
  guard !(inBrackets && c.column < margin)
  let (cs, c) ← words inBrackets margin (c.rest.length + 1) c
  some (String.ofList cs, c)

end FileServer.Yaml.Plain
