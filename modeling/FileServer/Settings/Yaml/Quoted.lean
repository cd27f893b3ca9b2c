import FileServer.Settings.Json.Document
import FileServer.Settings.Yaml.Fold

/-!
Texts in quotes, which may run over several lines: in single quotes a quote is written twice, in
double quotes a backslash starts an escape.
-/

namespace FileServer.Yaml.Quoted

open Json (unit? charOfUnit? consRead)

/-- The character for which a letter stands after a backslash. -/
def escape? (m : Char) : Option Char :=
  match m with
  | '0' => some '\x00'
  | 'a' => some '\x07'
  | 'b' => some '\x08'
  | 't' | '\t' => some '\t'
  | 'n' => some '\n'
  | 'v' => some '\x0b'
  | 'f' => some '\x0c'
  | 'r' => some '\r'
  | 'e' => some '\x1b'
  | ' ' | '"' | '/' | '\\' => some m
  | 'N' => some '\u0085'
  | '_' => some '\u00a0'
  | 'L' => some '\u2028'
  | 'P' => some '\u2029'
  | _ => none

/-- Reads the characters of a word in single quotes. -/
def singleChars : List Char → Option (List Char × List Char)
  | '\'' :: '\'' :: rest => consRead '\'' (singleChars rest)
  | m :: rest =>
    if m == '\'' || endsWord m then some ([], m :: rest) else consRead m (singleChars rest)
  | [] => some ([], [])

/-- Reads the characters of a word in double quotes. -/
def doubleChars : List Char → Option (List Char × List Char)
  | '\\' :: 'x' :: a :: b :: rest => do
    consRead (← charOfUnit? (← unit? [a, b])) (doubleChars rest)
  | '\\' :: 'u' :: a :: b :: c :: d :: rest => do
    consRead (← charOfUnit? (← unit? [a, b, c, d])) (doubleChars rest)
  | '\\' :: 'U' :: a :: b :: c :: d :: e :: f :: g :: h :: rest => do
    consRead (← charOfUnit? (← unit? [a, b, c, d, e, f, g, h])) (doubleChars rest)
  | '\\' :: m :: rest =>
    if isBreak m then some ([], '\\' :: m :: rest)
    else do consRead (← escape? m) (doubleChars rest)
  | m :: rest =>
    if m == '"' || endsWord m then some ([], m :: rest) else consRead m (doubleChars rest)
  | [] => some ([], [])

/-- Passes a blank at the start of a line, where a tab before the block is refused. -/
def passBlank (margin : Nat) (c : Cursor) : Option Cursor :=
  if c.head == '\t' && c.column + 1 < margin then none else some c.behindBlank

/-- Reads at most `fuel` words up to the closing quote. No line may start before the block, or start
or end a document. A backslash at the end of a line takes that end out of the text. -/
def words (quote : Char) (margin : Nat) : Nat → Cursor → Option (List Char × Cursor)
  | 0, _ => none
  | fuel + 1, c => do
    guard !(c.isAtBoundary || c.isEnd || c.column + 1 < margin)
    let (word, rest) ← if quote == '\'' then singleChars c.rest else doubleChars c.rest
    let c := c.upTo rest
    let c := if c.head == '\\' && quote == '"' then (c.behind 1).nextLine else c
    if c.head == quote then some (word, c.behind 1)
    else
      let (fold, c) ← Fold.read (passBlank margin) fuel c
      let (more, c) ← words quote margin fuel c
      some (word ++ fold.text ++ more, c)

/-- Whether a text in quotes may be followed by a character. What is no end of a line must part the
content of brackets or end a key, and outside of brackets a key has one line. -/
def mayPrecede (m : Char) (inBrackets isOneLine : Bool) : Bool :=
  endsLine m || (inBrackets && (m == ',' || m == '\x7d' || m == ']')) ||
    (m == ':' && (inBrackets || isOneLine))

/-- Reads a text in quotes, and the blanks and the comment behind it. -/
def read (inBrackets : Bool) (margin : Nat) (c : Cursor) : Option (String × Cursor) := do
  let (cs, after) ← words c.head margin (c.rest.length + 1) (c.behind 1)
  let (_, after) ← after.blanks
  guard (mayPrecede after.head inBrackets (c.line == after.line))
  some (String.ofList cs, after)

end FileServer.Yaml.Quoted
