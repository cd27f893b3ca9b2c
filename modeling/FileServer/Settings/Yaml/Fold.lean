import FileServer.Settings.Yaml.Cursor

/-!
What stands between the words of a text that may run over several lines: blanks, which stay, or
breaks of lines, of which one is written as a blank and each further one as itself.
-/

namespace FileServer.Yaml

/-- What stands between two words: blanks, whether a line was left, and how many empty lines
follow. -/
structure Fold where
  blanks : List Char := []
  crosses : Bool := false
  empties : Nat := 0
  deriving Repr, DecidableEq

namespace Fold

/-- What is written between the two words. -/
def text (f : Fold) : List Char :=
  if f.crosses && f.empties == 0 then [' ']
  else if f.crosses then List.replicate f.empties '\n'
  else f.blanks ++ List.replicate f.empties '\n'

/-- A blank in front of what follows it; at the end of a line it is dropped. -/
def behindBlank (m : Char) (f : Fold) : Fold :=
  if f.crosses then f else { f with blanks := m :: f.blanks }

/-- A break in front of what follows it; the first one of several leaves the line. -/
def behindBreak (isFirst : Bool) (f : Fold) : Fold :=
  if isFirst then { f with crosses := true } else { f with empties := f.empties + 1 }

/-- Reads at most `fuel` blanks and breaks. A blank at the start of a line is passed by `passed`,
which may refuse it. -/
def read (passed : Cursor → Option Cursor) : Nat → Cursor → Option (Fold × Cursor)
  | 0, c => some ({}, c)
  | fuel + 1, c =>
    if isBlank c.head then
      if c.isLeading then do read passed fuel (← passed c)
      else (read passed fuel c.behindBlank).map fun (f, after) => (f.behindBlank c.head, after)
    else if isBreak c.head then
      (read passed fuel c.nextLine).map fun (f, after) => (f.behindBreak !c.isLeading, after)
    else some ({}, c)

end Fold

end FileServer.Yaml
