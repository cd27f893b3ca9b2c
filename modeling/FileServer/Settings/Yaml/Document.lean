import FileServer.Settings.Yaml.Node
import FileServer.Settings.Yaml.Tokens

/-!
Settings in YAML. A text is one document: a value, in which parts may have names and be used again
under these names.
-/

namespace FileServer.Yaml

/-- The parts that have been named, the last one first. A part is not known before it has been read
to its end. -/
abbrev Anchors := List (String × Option Node)

/-- What is left of a text, the parts that have been named in it, and what its directive says about
a handle. -/
structure Reading where
  tokens : List Token
  anchors : Anchors := []
  meaning : Option (String × String) := none

/-- A reader of tokens. -/
abbrev TokenReader := StateT Reading Option

namespace Reading

/-- The next token. -/
def peek : TokenReader (Option Token) := return (← get).tokens.head?

/-- Passes the next token. -/
def skip : TokenReader Unit := modify fun r => { r with tokens := r.tokens.drop 1 }

/-- Passes the next token if it is a given one, and tells whether it was. -/
def take (t : Token) : TokenReader Bool := do
  if (← peek) = some t then
    skip
    return true
  else return false

/-- The value that was read under a name; the name must have been given. -/
def named (name : String) : TokenReader Node := do
  match (← get).anchors.lookup name with
  | some n => return n.getD .void
  | none => failure

/-- Names the part that follows, and gives the number of parts that were named before. -/
def name (name : String) : TokenReader Nat :=
  modifyGet fun r => (r.anchors.length, { r with anchors := (name, none) :: r.anchors })

/-- Tells the value of a part that has been named. -/
def define (number : Option Nat) (n : Node) : TokenReader Unit :=
  match number with
  | some i => modify fun r =>
    let place := r.anchors.length - 1 - i
    { r with anchors := r.anchors.modify place fun (name, _) => (name, some n) }
  | none => pure ()

/-- Reads a tag, if there is one. -/
def tag : TokenReader (Option Tag) := do
  match ← peek with
  | some (.tag t) =>
    skip
    match t.resolved? (← get).meaning with
    | some t => return some t
    | none => failure
  | _ => return none

/-- Reads an anchor, if there is one, and gives the number of its part. -/
def anchor : TokenReader (Option Nat) := do
  match ← peek with
  | some (.anchor s) =>
    skip
    return some (← name s)
  | _ => return none

/-- Reads a tag and an anchor, in any order; either may be missing. -/
def properties : TokenReader (Option Tag × Option Nat) := do
  match ← anchor with
  | some i => return (← tag, some i)
  | none =>
    match ← tag with
    | some t => return (some t, ← anchor)
    | none => return (none, none)

/-- Whether the value of a key or an item in brackets is missing. -/
def isMissing (closing : Token) : TokenReader Bool := do
  let t ← peek
  return t = some .comma || t = some closing

/-- Whether the key or the value of an entry in a block is missing. -/
def isMissingInBlock : TokenReader Bool := do
  let t ← peek
  return t = some .key || t = some .value || t = some .blockEnd

/-- The table of keys and values that follow each other. -/
def tableOf (parts : List Node) : TokenReader Node := liftM (Node.table? parts)

mutual

/-- Reads a value. Blocks are read where `inBlock` is set, and dashes that are not indented where
`takesDashes` is set. -/
def node : Nat → (inBlock takesDashes : Bool) → TokenReader Node
  | 0, _, _ => failure
  | fuel + 1, inBlock, takesDashes => do
    match ← peek with
    | some (.alias s) =>
      skip
      named s
    | _ =>
      let (tag, number) ← properties
      let n ← content fuel inBlock takesDashes tag (tag.isSome || number.isSome)
      define number n
      return n

/-- Reads a value behind its tag and anchor. If it has either, it may be missing. -/
def content : Nat → (inBlock takesDashes : Bool) → Option Tag → Bool → TokenReader Node
  | 0, _, _, _, _ => failure
  | fuel + 1, inBlock, takesDashes, tag, mayMiss => do
    match ← peek, inBlock, takesDashes with
    | some .dash, _, true => return .sequence (← bareItems fuel)
    | some (.text isPlain s), _, _ =>
      skip
      return .ofText isPlain tag s
    | some .bracket, _, _ =>
      skip
      return .sequence (← bracketItems fuel true)
    | some .brace, _, _ =>
      skip
      tableOf (← braceEntries fuel true)
    | some .items, true, _ =>
      skip
      return .sequence (← items fuel)
    | some .entries, true, _ =>
      skip
      tableOf (← entries fuel)
    | _, _, _ => if mayMiss then return .ofText true tag "" else failure

/-- Reads items whose dashes are not indented. -/
def bareItems : Nat → TokenReader (List Node)
  | 0 => failure
  | fuel + 1 => do
    if ← take .dash then
      let isMissing := (← isMissingInBlock) || (← peek) = some .dash
      let n ← if isMissing then pure .absent else node fuel true false
      return n :: (← bareItems fuel)
    else return []

/-- Reads the items of a block to its end. -/
def items : Nat → TokenReader (List Node)
  | 0 => failure
  | fuel + 1 => do
    if ← take .blockEnd then return []
    else if ← take .dash then
      let t ← peek
      let n ← if t = some .dash || t = some .blockEnd then pure .absent else node fuel true false
      return n :: (← items fuel)
    else failure

/-- Reads the keys and values of a block to its end. -/
def entries : Nat → TokenReader (List Node)
  | 0 => failure
  | fuel + 1 => do
    if ← take .blockEnd then return []
    else
      let hasMark ← take .key
      if !hasMark && (← peek) ≠ some .value then failure
      let k ← if !hasMark || (← isMissingInBlock) then pure .absent else node fuel true true
      let hasValue ← take .value
      let v ← if !hasValue || (← isMissingInBlock) then pure .absent else node fuel true true
      return k :: v :: (← entries fuel)

/-- Reads the keys and values between braces to the closing one. Without the mark of a key what is
read has no value. -/
def braceEntries : Nat → (isFirst : Bool) → TokenReader (List Node)
  | 0, _ => failure
  | fuel + 1, isFirst => do
    if ← take .braceEnd then return []
    else
      if !isFirst && !(← take .comma) then failure
      if ← take .braceEnd then return []
      else
        let hasMark ← take .key
        if !hasMark && (← peek) ≠ some .value then
          let k ← node fuel false false
          return k :: .absent :: (← braceEntries fuel false)
        else
          let isBare := !hasMark || (← isMissing .braceEnd) || (← peek) = some .value
          let k ← if isBare then pure .absent else node fuel false false
          let v ← if ← take .value then
              if ← isMissing .braceEnd then pure .absent else node fuel false false
            else pure .absent
          return k :: v :: (← braceEntries fuel false)

/-- Reads the items between brackets to the closing one. An item may be an entry. -/
def bracketItems : Nat → (isFirst : Bool) → TokenReader (List Node)
  | 0, _ => failure
  | fuel + 1, isFirst => do
    if ← take .bracketEnd then return []
    else
      if !isFirst && !(← take .comma) then failure
      if ← take .bracketEnd then return []
      else
        let n ← if ← take .key then tableOf (← bracketEntry fuel) else node fuel false false
        return n :: (← bracketItems fuel false)

/-- Reads the key and the value of an item between brackets. What stands in the place of a key that
is missing is passed. -/
def bracketEntry : Nat → TokenReader (List Node)
  | 0 => failure
  | fuel + 1 => do
    let k ← if (← isMissing .bracketEnd) || (← peek) = some .value then do
        skip
        pure .absent
      else node fuel false false
    let v ← if ← take .value then
        if ← isMissing .bracketEnd then pure .absent else node fuel false false
      else pure .absent
    return [k, v]

end

end Reading

/-- Reads the directives before a document: what the last one says about a handle, if it does. The
version is told once at most. -/
def directives : (hasVersion : Bool) → Option (String × String) → List Token →
    Option (Option (String × String) × List Token)
  | hasVersion, _, .version :: rest => if hasVersion then none else directives true none rest
  | hasVersion, _, .meaning h start :: rest => directives hasVersion (some (h, start)) rest
  | _, meaning, rest => some (meaning, rest)

/-- Whether a document has nothing but its opening mark. -/
def isVacant : List Token → Bool
  | [] => true
  | t :: _ =>
    match t with
    | .version | .meaning .. | .opening | .ending => true
    | _ => false

/-- Reads the value of a document. Behind directives its opening mark must stand. -/
def document (tokens : List Token) : Option (Node × List Token) := do
  let (meaning, rest) ← directives false none tokens
  let value (rest : List Token) : Option (Node × List Token) := do
    let (n, after) ← (Reading.node (4 * rest.length + 4) true false).run { tokens := rest, meaning }
    some (n, after.tokens)
  match rest with
  | .opening :: rest => if isVacant rest then some (.absent, rest) else value rest
  | rest => if rest.length = tokens.length then value rest else none

/-- The value of the only document, if there is one. -/
def root? (tokens : List Token) : Option (Option Node) :=
  match tokens.dropWhile (· = .ending) with
  | [] => some none
  | tokens => do
    let (n, after) ← document tokens
    guard (after.all (· = .ending))
    some (some n)

/-- The entries of the table that a text spells; a text without a document spells an empty one. -/
def read (s : String) : Except SettingsError (List (String × Value)) := do
  match (tokens? s).bind root? with
  | none => throw .unreadable
  | some none => return []
  | some (some n) =>
    match ← n.toValue with
    | .table _ entries => return entries
    | _ => throw .unreadable

end FileServer.Yaml
