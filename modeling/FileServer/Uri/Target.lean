import FileServer.Text.Utf8

/-!
Request targets: a path with an optional query, the single asterisk, an absolute URI, or a bare
authority. A fragment is dropped unread. Of the URI only the path and the query are kept.
-/

namespace FileServer

/-- Why a request target is refused. -/
inductive TargetError where
  | empty
  | tooLong
  | schemeTooLong
  | invalidCharacter
  | invalidAuthority
  | invalidFormat
  deriving Repr, DecidableEq

/-- The wording of a refusal. -/
def TargetError.message : TargetError → String
  | .empty => "empty string"
  | .tooLong => "uri too long"
  | .schemeTooLong => "scheme too long"
  | .invalidCharacter => "invalid uri character"
  | .invalidAuthority => "invalid authority"
  | .invalidFormat => "invalid format"

/-- The path of a request, still percent-encoded, and its query, absent or perhaps empty. -/
structure Target where
  path : String
  query : Option String := none
  deriving Repr, DecidableEq

namespace Target

/-- The longest target, in bytes. -/
def maxLength : Nat := 65534

/-- The longest scheme, in bytes. -/
def maxSchemeLength : Nat := 64

/-- Bytes a path may hold besides those above ASCII. -/
def isPathByte (b : UInt8) : Bool :=
  b == 0x21 || b == 0x22 || (0x24 ≤ b && b ≤ 0x3B) || b == 0x3D || (0x40 ≤ b && b ≤ 0x5F) ||
    (0x61 ≤ b && b ≤ 0x7E) || 0x80 ≤ b

/-- Bytes a query may hold. -/
def isQueryByte (b : UInt8) : Bool :=
  b == 0x21 || (0x24 ≤ b && b ≤ 0x3B) || b == 0x3D || 0x3F ≤ b

/-- Bytes of a scheme. -/
def isSchemeByte (b : UInt8) : Bool :=
  let c := Char.ofNat b.toNat
  c.isAlphanum || c == '+' || c == '-' || c == '.' || c == '~'

/-- Bytes of an authority. -/
def isAuthorityByte (b : UInt8) : Bool :=
  let c := Char.ofNat b.toNat
  b < 0x80 && (c.isAlphanum || "!$&'()*+,-.:;=@[]_~".toList.contains c)

/-- Bytes that end an authority: slash, question mark, number sign. -/
def endsAuthority (b : UInt8) : Bool := b == 47 || b == 63 || b == 35

/-- Reads a path and an optional query; an empty path is the slash. -/
def ofPathAndQuery (bs : Bytes) : Except TargetError Target := do
  let path := bs.takeWhile fun b => b != 63 && b != 35
  let query : Option Bytes := match bs.drop path.length with
    | 63 :: rest => some (rest.takeWhile (· != 35))
    | _ => none
  unless path.all isPathByte && query.all (·.all isQueryByte) do throw .invalidCharacter
  match Utf8.toString? path, query.map Utf8.toString? with
  | some path, none => pure { path := if path.isEmpty then "/" else path }
  | some path, some (some query) =>
    pure { path := if path.isEmpty then "/" else path, query := some query }
  | _, _ => throw .invalidCharacter

/-- What has been seen of an authority: colons since the last bracket or at sign, brackets, a
percent sign since then, and whether the last byte was an at sign. -/
structure AuthorityScan where
  colons : Nat := 0
  opened : Bool := false
  closed : Bool := false
  percent : Bool := false
  atEnd : Bool := false
  deriving Repr, DecidableEq

/-- Takes one byte of an authority into account. -/
def AuthorityScan.step (a : AuthorityScan) (b : UInt8) : Except TargetError AuthorityScan :=
  match Char.ofNat b.toNat with
  | ':' => if 8 ≤ a.colons then throw .invalidAuthority
    else pure { a with colons := a.colons + 1, atEnd := false }
  | '[' => if a.percent || a.opened then throw .invalidAuthority
    else pure { a with opened := true, atEnd := false }
  | ']' => if !a.opened || a.closed then throw .invalidAuthority
    else pure { a with closed := true, colons := 0, percent := false, atEnd := false }
  | '@' => pure { a with colons := 0, percent := false, atEnd := true }
  | '%' => pure { a with percent := true, atEnd := false }
  | _ => if isAuthorityByte b then pure { a with atEnd := false } else throw .invalidCharacter

/-- Whether what was seen makes an authority. -/
def AuthorityScan.isComplete (a : AuthorityScan) : Bool :=
  a.opened == a.closed && a.colons ≤ 1 && !a.atEnd && !a.percent

/-- The authority at the front of the bytes and what follows it. -/
def splitAuthority (bs : Bytes) : Except TargetError (Bytes × Bytes) := do
  let authority := bs.takeWhile (!endsAuthority ·)
  let scan ← authority.foldlM AuthorityScan.step {}
  unless scan.isComplete do throw .invalidAuthority
  pure (authority, bs.drop authority.length)

/-- What follows the scheme and its `://`, if the bytes begin with one. -/
def afterScheme? (bs : Bytes) : Except TargetError (Option Bytes) :=
  let scheme := bs.takeWhile isSchemeByte
  match bs.drop scheme.length with
  | 58 :: 47 :: 47 :: rest =>
    if maxSchemeLength < scheme.length then throw .schemeTooLong else pure (some rest)
  | _ => pure none

/-- Reads an absolute URI or a bare authority. -/
def ofAbsolute (bs : Bytes) : Except TargetError Target := do
  match ← afterScheme? bs with
  | none =>
    let (_, rest) ← splitAuthority bs
    unless rest.isEmpty do throw .invalidFormat
    pure { path := "" }
  | some bs =>
    if bs.isEmpty then throw .empty
    let (authority, rest) ← splitAuthority bs
    if authority.isEmpty then throw .invalidFormat
    ofPathAndQuery rest

/-- Reads a request target. -/
def ofBytes (bs : Bytes) : Except TargetError Target :=
  if maxLength < bs.length then throw .tooLong
  else match bs with
    | [] => throw .empty
    | [47] => pure { path := "/" }
    | [42] => pure { path := "*" }
    | [b] => do
      let (_, rest) ← splitAuthority [b]
      if rest.isEmpty then pure { path := "" } else throw .invalidCharacter
    | 47 :: _ => ofPathAndQuery bs
    | _ => ofAbsolute bs

end Target

end FileServer
