import FileServer.Settings.Ron.Number
import FileServer.Settings.Ron.Quoted

/-!
Settings in an object notation with round brackets for groups with named or unnamed parts, braces
for tables with any keys, and marks for what is present or absent. A text may start with switches
that make the notation shorter.
-/

namespace FileServer.Ron

open Text

/-- Blanks between the parts of a text. -/
def isBlank (c : Char) : Bool := c == ' ' || c == '\t' || c == '\n' || c == '\r'

/-- What is being dropped between the parts of a text; comments in brackets may be nested. -/
inductive Gap where
  | blanks
  | lineComment
  | comment (outer : Nat)
  deriving Repr, DecidableEq

/-- Drops blanks and comments; a comment that is not closed is refused. -/
def gapFrom : Gap → List Char → Option (List Char)
  | .blanks, '/' :: '/' :: rest => gapFrom .lineComment rest
  | .blanks, '/' :: '*' :: rest => gapFrom (.comment 0) rest
  | .blanks, c :: rest => if isBlank c then gapFrom .blanks rest else some (c :: rest)
  | .lineComment, c :: rest => gapFrom (if c == '\n' then .blanks else .lineComment) rest
  | .comment outer, '/' :: '*' :: rest => gapFrom (.comment (outer + 1)) rest
  | .comment 0, '*' :: '/' :: rest => gapFrom .blanks rest
  | .comment (outer + 1), '*' :: '/' :: rest => gapFrom (.comment outer) rest
  | .comment outer, _ :: rest => gapFrom (.comment outer) rest
  | .comment _, [] => none
  | _, [] => some []

/-- Drops blanks and comments. -/
def gap (cs : List Char) : Option (List Char) := gapFrom .blanks cs

/-- Characters of a name behind its raw mark. -/
def isRawChar (c : Char) : Bool := isNameChar c || c == '.' || c == '+' || c == '-'

/-- Reads a name. With a raw mark it may have points and signs; without one such a name is refused,
and the mark of a raw string is none. -/
def name : Reader String := fun cs =>
  match cs with
  | 'r' :: '"' :: _ => none
  | 'r' :: '#' :: rest => do
    let (s, rest) := span isRawChar rest
    guard !s.isEmpty
    some (String.ofList s, rest)
  | c :: _ => do
    guard (c.isAlpha || c == '_')
    let (s, rest) := span isNameChar cs
    guard !(rest.head?.any isRawChar)
    some (String.ofList s, rest)
  | [] => none

/-- The words that stand for values. -/
def wordValues : List (String × Value) :=
  [("true", .boolean true), ("false", .boolean false), ("None", .nothing),
    ("inf", .floating (.infinite false)), ("-inf", .floating (.infinite true)),
    ("NaN", .floating .nan)]

/-- Reads a word that stands for a value. -/
def wordValue : Reader Value := fun cs =>
  wordValues.findSome? fun (w, v) => (boundedWord w cs).map (v, ·)

/-- Reads a value without parts; a name alone stands for nothing. -/
def leaf : Reader Value := fun cs =>
  ((wordValue cs).or ((name cs).map fun (_, rest) => (.nothing, rest))).or <|
    match cs with
    | '"' :: _ | 'r' :: _ => (string cs).map fun (s, rest) => (.text s, rest)
    | '\'' :: _ => (character cs).map fun (c, rest) => (.text (String.singleton c), rest)
    | '.' :: _ => floating cs
    | c :: _ => if c.isDigit || c == '+' || c == '-' then number cs else none
    | [] => none

/-- Reads a name, a colon and a value. -/
def part (value : Reader Value) : Reader (String × Value) := fun cs => do
  let (n, cs) ← name cs
  let (v, cs) ← value (← gap (← mark ':' (← gap cs)))
  some ((n, v), cs)

/-- An entry of a table, and whether its key is a character and not a string. -/
abbrev Entry := Bool × String × Value

/-- Reads a key, a colon and a value; keys are texts. -/
def entry (value : Reader Value) : Reader Entry := fun cs => do
  let (k, rest) ← value cs
  match k with
  | .scalar _ (.string k) => do
    let (v, rest) ← value (← gap (← mark ':' (← gap rest)))
    some ((cs.head? == some '\'', k, v), rest)
  | _ => none

/-- The table of entries. Of several with the same key the last one counts, but one under a string
goes before one under a character. -/
def tableOf (entries : List Entry) : Value :=
  let (characters, strings) := entries.partition (·.1)
  .table none (Json.entriesOf ((characters ++ strings).map (·.2)))

/-- Reads a group whose opening bracket has been read. Its parts have names if it starts with a name
and a colon. -/
def group (value : Reader Value) : Reader Value := fun cs => do
  let isNamed ← match name (← gap cs) with
    | some (_, rest) => (gap rest).map (·.head? == some ':')
    | none => some false
  if isNamed then
    let (parts, rest) ← listing gap ')' true (part value) cs
    some (.table none (Json.entriesOf parts), rest)
  else
    let (items, rest) ← listing gap ')' true value cs
    some (.sequence none items, rest)

/-- Reads what stands behind the mark of a present value. Where `bare` is set it may stand there
without brackets. -/
def present (bare : Bool) (value : Reader Value) : Reader Value := fun cs => do
  let cs ← gap cs
  match cs with
  | '(' :: rest => do
    let (v, rest) ← value (← gap rest)
    let rest ← gap rest
    let rest ← match rest with
      | ',' :: rest => gap rest
      | rest => some rest
    some (v, ← mark ')' rest)
  | _ => if bare then value cs else none

/-- Reads a value, with readers for its parts and for what is marked as present. -/
def valueOver (bare : Bool) (value marked : Reader Value) : Reader Value := fun cs =>
  match cs with
  | '(' :: ')' :: rest => some (.nothing, rest)
  | '(' :: rest => group value rest
  | '[' :: rest => do
    let (items, rest) ← listing gap ']' true value rest
    some (.sequence none items, rest)
  | '\x7b' :: rest => do
    let (entries, rest) ← listing gap '\x7d' true (entry value) rest
    some (tableOf entries, rest)
  | _ =>
    match wordValue cs, boundedWord "Some" cs, name cs with
    | some read, _, _ => some read
    | _, some rest, _ => present bare marked rest
    | _, _, some (_, rest) => do
      match ← gap rest with
      | '(' :: rest => group value rest
      | rest => some (.nothing, rest)
    | _, _, none => leaf cs

/-- Reads a value. A group, a sequence and a table take two from the depth that is left, a mark of
presence takes one. -/
def value (bare : Bool) : Nat → Reader Value
  | 0 => leaf
  | 1 => valueOver bare (fun _ => none) leaf
  | depth + 2 => valueOver bare (value bare depth) (value bare (depth + 1))

/-- The depth of a text. -/
def depthLimit : Nat := 128

/-- The switches that a text may turn on. -/
inductive Switch where
  | bareGroups
  | barePresence
  | bareVariants
  deriving Repr, DecidableEq

/-- The switch of a name. -/
def Switch.ofName? (name : String) : Option Switch :=
  match name with
  | "unwrap_newtypes" => some bareGroups
  | "implicit_some" => some barePresence
  | "unwrap_variant_newtypes" => some bareVariants
  | _ => none

/-- Reads given words with blanks and comments between and behind them. -/
def words : List String → List Char → Option (List Char)
  | [], cs => some cs
  | w :: more, cs => do words more (← gap (← word w.toList cs))

/-- Reads one list of switches. -/
def switches : Reader (List Switch) := fun cs => do
  let (names, rest) ← listing gap ')' true name (← words ["#", "!", "[", "enable", "("] cs)
  let found ← names.mapM Switch.ofName?
  guard !found.isEmpty
  some (found, ← words ["]"] (← gap rest))

/-- Reads at most `fuel` lists of switches. -/
def allSwitches : Nat → Reader (List Switch)
  | fuel + 1, '#' :: rest => do
    let (found, rest) ← switches ('#' :: rest)
    let (more, rest) ← allSwitches fuel rest
    some (found ++ more, rest)
  | _, cs => some ([], cs)

/-- The value that a text spells. -/
def read? (s : String) : Option Value := do
  let (found, cs) ← allSwitches s.length (← gap s.toList)
  let (v, rest) ← value (found.contains .barePresence) depthLimit cs
  if (← gap rest).isEmpty then some v else none

end FileServer.Ron
