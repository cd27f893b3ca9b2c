import FileServer.Text.Reader

/-!
Tags, which tell the kind of a value: a handle, which stands for the start of a name, and the rest
of the name. Directives before a document give handles their meaning.
-/

namespace FileServer.Yaml

open Text

/-- A tag. -/
structure Tag where
  handle : String
  suffix : String
  deriving Repr, DecidableEq

namespace Tag

/-- Characters of a handle. -/
def isHandleChar (c : Char) : Bool := c.isAlphanum || c == '_' || c == '-'

/-- Characters of the rest of a name. -/
def isNameChar (c : Char) : Bool :=
  isHandleChar c || "#;/?:@&=+$,.!~*'()[]%".toList.contains c

/-- Characters of the rest of a name where no brackets tell its end. -/
def isBareChar (c : Char) : Bool := isNameChar c && !(",[]!".toList.contains c)

/-- The byte of two hexadecimal digits. -/
def byte? (a b : Char) : Option Nat := do return (← hexValue? a) * 16 + (← hexValue? b)

/-- How many bytes follow the first byte of a character. -/
def followers? (lead : Nat) : Option Nat :=
  if lead < 0x80 then some 0
  else if 0xC0 ≤ lead ∧ lead < 0xE0 then some 1
  else if 0xE0 ≤ lead ∧ lead < 0xF0 then some 2
  else if 0xF0 ≤ lead ∧ lead < 0xF8 then some 3
  else none

/-- Reads the bytes that follow the first one, and gives the number with all of them as digits. -/
def following : Nat → Nat → Reader Nat
  | 0, n, cs => some (n, cs)
  | count + 1, n, '%' :: a :: b :: rest => do
    let byte ← byte? a b
    guard (0x80 ≤ byte && byte < 0xC0)
    following count (n * 0x100 + byte) rest
  | _, _, _ => none

/-- Reads a character that is given by bytes. Its number has the bytes as digits, so few characters
outside of ASCII can be given. -/
def escaped : Reader Char := fun cs =>
  match cs with
  | '%' :: a :: b :: rest => do
    let lead ← byte? a b
    let (n, rest) ← following (← followers? lead) lead rest
    if n.isValidChar then some (Char.ofNat n, rest) else none
  | _ => none

/-- Reads at most `fuel` characters of a class, which may be given by bytes. -/
def chars (p : Char → Bool) : Nat → Reader (List Char)
  | fuel + 1, '%' :: rest => do
    let (c, rest) ← escaped ('%' :: rest)
    let (more, rest) ← chars p fuel rest
    some (c :: more, rest)
  | fuel + 1, c :: rest =>
    if p c then do
      let (more, rest) ← chars p fuel rest
      some (c :: more, rest)
    else some ([], c :: rest)
  | _, cs => some ([], cs)

/-- Reads a handle; it need not end with the mark with which it starts. -/
def handleChars : Reader (List Char) := fun cs => do
  let (name, rest) := span isHandleChar (← mark '!' cs)
  match rest with
  | '!' :: rest => some ('!' :: name ++ ['!'], rest)
  | rest => some ('!' :: name, rest)

/-- Whether a handle ends with the mark with which it starts. -/
def isClosed (handle : List Char) : Bool := 2 ≤ handle.length && handle.getLast? == some '!'

/-- Reads a tag. What is no closed handle is a part of the name, and the mark alone is a name. -/
def read : Reader Tag := fun cs =>
  match cs with
  | '!' :: '<' :: rest => do
    let (name, rest) ← chars isNameChar rest.length rest
    some (⟨"", String.ofList name⟩, ← mark '>' rest)
  | _ => do
    let (handle, rest) ← handleChars cs
    let (name, rest) ← chars isBareChar rest.length rest
    if isClosed handle then
      guard !name.isEmpty
      some (⟨String.ofList handle, String.ofList name⟩, rest)
    else
      let name := handle.drop 1 ++ name
      some (if name.isEmpty then ⟨"", "!"⟩ else ⟨"!", String.ofList name⟩, rest)

/-- Reads what a directive gives: a handle, and the start of the names for which it stands. -/
def directive : Reader (String × String) := fun cs => do
  let (handle, rest) ← handleChars cs
  guard (handle.length == 1 || isClosed handle)
  let rest := rest.dropWhile fun c => c == ' ' || c == '\t'
  let (first, rest) ← match rest with
    | '!' :: rest => some ('!', rest)
    | '%' :: _ => escaped rest
    | c :: rest => if isBareChar c then some (c, rest) else none
    | [] => none
  let (more, rest) ← chars isNameChar rest.length rest
  some ((String.ofList handle, String.ofList (first :: more)), rest)

/-- The start of the names of the kinds that every reader knows. -/
def known : String := "tag:yaml.org,2002:"

/-- The tag with the meaning of its handle. A closed handle needs a meaning. -/
def resolved? (meaning : Option (String × String)) (t : Tag) : Option Tag :=
  match meaning with
  | some (handle, start) => if t.handle = handle then some { t with handle := start } else plain
  | none => plain
where
  /-- The meaning of a handle that no directive gives. -/
  plain : Option Tag :=
    if t.handle = "!!" then some { t with handle := known }
    else if isClosed t.handle.toList then none
    else some t

end Tag

end FileServer.Yaml
