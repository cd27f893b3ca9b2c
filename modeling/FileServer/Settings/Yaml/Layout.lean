import FileServer.Settings.Yaml.Cursor
import FileServer.Settings.Yaml.Token

/-!
The layout of a text up to a place: what has been read, which blocks and brackets are open there,
and which text may still turn out to be a key, since a key is known by the colon that follows it.
-/

namespace FileServer.Yaml

/-- A block that is open: the margin around it, and whether it has a mark of its own. Blocks without
one only keep the value of a key or a dash from standing at the column of that key or dash. -/
structure Block where
  outerMargin : Nat
  isMarked : Bool
  deriving Repr, DecidableEq

/-- What may turn out to be a key: how many tokens were read before it, where it starts, and whether
it can be nothing else. -/
structure Candidate where
  position : Nat
  index : Nat
  line : Nat
  column : Nat
  isRequired : Bool
  deriving Repr, DecidableEq

/-- What has been read of a text. The margin is the first column of what belongs to a value in the
innermost block; without blocks it is zero. For each open bracket and brace the candidate outside of
it is kept. For each open bracket it is known whether an entry without braces has been started in
it; such entries are told by their colon as long as no brace or key mark was met. -/
structure Layout where
  cursor : Cursor
  tokens : Array Token := #[]
  margin : Nat := 0
  blocks : List Block := []
  candidate : Option Candidate := none
  outerCandidates : List (Option Candidate) := []
  allowsKey : Bool := true
  colonIndex : Nat := 0
  isBraced : Bool := false
  bareEntries : List Bool := []

namespace Layout

/-- Whether the place is in brackets or braces. -/
def inBrackets (l : Layout) : Bool := !l.outerCandidates.isEmpty

/-- Adds a token. -/
def push (t : Token) (l : Layout) : Layout := { l with tokens := l.tokens.push t }

/-- Adds a token before those from a position on. -/
def pushAt (position : Nat) (t : Token) (l : Layout) : Layout :=
  { l with tokens := l.tokens.insertIdxIfInBounds position t }

/-- Goes to a place. -/
def goTo (c : Cursor) (l : Layout) : Layout := { l with cursor := c }

/-- Lets what follows be a key, or not. -/
def allowKey (b : Bool) (l : Layout) : Layout := { l with allowsKey := b }

/-- Closes the innermost block if it has no mark. -/
def dropUnmarked (l : Layout) : Layout :=
  match l.blocks with
  | ⟨outerMargin, false⟩ :: blocks => { l with margin := outerMargin, blocks }
  | _ => l

/-- Starts a block without a mark, which reserves one column, in a block with a mark. -/
def reserveColumn (l : Layout) : Layout :=
  if !l.inBrackets && l.blocks.head?.any Block.isMarked then
    { l with margin := l.margin + 1, blocks := ⟨l.margin, false⟩ :: l.blocks }
  else l

/-- Starts a block at a column, if none has been started there. Its mark goes before the tokens from
a position on. In brackets there are no blocks. -/
def openBlock (column position : Nat) (mark : Token) (l : Layout) : Layout :=
  if l.inBrackets then l
  else
    let l := if l.margin ≤ column + 1 then l.dropUnmarked else l
    if l.margin ≤ column then
      { l.pushAt position mark with
        margin := column + 1, blocks := ⟨l.margin, true⟩ :: l.blocks }
    else l

/-- Closes blocks as long as the margin is greater than a limit. -/
def closed (limit : Nat) : List Block → Nat → Array Token → List Block × Nat × Array Token
  | [], margin, tokens => ([], margin, tokens)
  | b :: rest, margin, tokens =>
    if limit < margin then
      closed limit rest b.outerMargin (if b.isMarked then tokens.push .blockEnd else tokens)
    else (b :: rest, margin, tokens)

/-- Closes the blocks whose content does not reach to a limit. -/
def closeBlocks (limit : Nat) (l : Layout) : Layout :=
  if l.inBrackets then l
  else
    let (blocks, margin, tokens) := closed limit l.blocks l.margin l.tokens
    { l with blocks, margin, tokens }

/-- Takes what follows as a possible key, where keys are allowed. At the column of a block with a
mark it must be one. -/
def markCandidate (l : Layout) : Layout :=
  if l.allowsKey then
    let c := l.cursor
    let isRequired := !l.inBrackets && l.margin == c.column + 1 &&
      l.blocks.head?.any Block.isMarked
    { l with candidate := some ⟨l.tokens.size, c.index, c.line, c.column, isRequired⟩ }
  else l

/-- Gives the possible key up, unless it has to be one. -/
def dropCandidate (l : Layout) : Option Layout :=
  if l.candidate.any Candidate.isRequired then none else some { l with candidate := none }

/-- The greatest number of characters of a key without brackets around it. -/
def maxKeyLength : Nat := 1024

/-- Gives a possible key up that is too long or ends in another line; brackets allow both. -/
def dropStale (l : Layout) : Option Layout :=
  match l.candidate with
  | some k =>
    if !l.inBrackets && (k.line < l.cursor.line || k.index + maxKeyLength < l.cursor.index) then
      l.dropCandidate
    else some l
  | none => some l

/-- Enters brackets. -/
def enter (l : Layout) : Layout :=
  { l with candidate := none, outerCandidates := l.candidate :: l.outerCandidates }

/-- Leaves brackets. -/
def leave (l : Layout) : Layout :=
  match l.outerCandidates with
  | k :: rest => { l with candidate := k, outerCandidates := rest }
  | [] => l

/-- Ends an entry without braces in the innermost bracket, if one has been started. -/
def endBareEntry (l : Layout) : Layout :=
  match l.bareEntries with
  | true :: rest => { l.push .braceEnd with isBraced := false, bareEntries := false :: rest }
  | _ => l

end Layout

end FileServer.Yaml
