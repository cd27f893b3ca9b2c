import FileServer.Text.Utf8

/-!
Paths as they are written: names between slashes, relative unless a slash comes first. A path is
read here without looking at any file.
-/

namespace FileServer

/-- A name of a file or directory, or one of the two names made of dots. -/
abbrev Name := Bytes

/-- The slash between names. -/
def slash : UInt8 := 47

/-- The name by which a directory refers to itself. -/
def Name.here : Name := [46]

/-- The name by which a directory refers to the one that holds it. -/
def Name.parent : Name := [46, 46]

/-- The parts of a byte sequence between all its slashes, which are one more than the slashes. -/
def splitSlashes : Bytes → List Bytes
  | [] => [[]]
  | b :: rest =>
    match splitSlashes rest with
    | [] => [[b]]
    | part :: parts => if b = slash then [] :: part :: parts else (b :: part) :: parts

/-- A path as it is written. -/
structure Path where
  bytes : Bytes
  deriving Repr, DecidableEq

namespace Path

/-- The path that a text spells. -/
def ofString (s : String) : Path := ⟨Utf8.ofString s⟩

/-- The path as a text, with replacements for ill-formed parts. -/
def display (p : Path) : String := Utf8.toStringLossy p.bytes

/-- Whether the path starts at the top. -/
def isAbsolute (p : Path) : Bool := p.bytes.head? == some slash

/-- Whether the path ends in a slash. -/
def endsInSlash (p : Path) : Bool := p.bytes.getLast? == some slash

/-- The names of the path in order. -/
def names (p : Path) : List Name := (splitSlashes p.bytes).filter (!·.isEmpty)

/-- The names between slashes. -/
def joinNames : List Name → Bytes
  | [] => []
  | [name] => name
  | name :: rest => name ++ slash :: joinNames rest

/-- The path that goes through the names from the top. -/
def absolute (names : List Name) : Path := ⟨slash :: joinNames names⟩

/-- The path that goes on from `p` by `q`; an absolute `q` stands by itself. -/
def join (p q : Path) : Path :=
  if q.isAbsolute then q
  else if p.bytes.isEmpty || p.endsInSlash then ⟨p.bytes ++ q.bytes⟩
  else ⟨p.bytes ++ slash :: q.bytes⟩

/-- The path goes on by one name. -/
def child (p : Path) (name : Name) : Path := p.join ⟨name⟩

/-- The names that lead somewhere: those that are not a single dot. -/
def properNames (p : Path) : List Name := p.names.filter (· != Name.here)

/-- The last name of the path, unless it leads upward. -/
def fileName? (p : Path) : Option Name :=
  p.properNames.getLast?.bind fun name => if name = Name.parent then none else some name

end Path

end FileServer
