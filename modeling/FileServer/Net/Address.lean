import FileServer.Text.Reader

/-!
Internet addresses of both lengths, alone and with a port, and their texts.
-/

namespace FileServer

/-- An internet address: four bytes or eight groups of two bytes. -/
inductive IpAddress where
  | v4 (a b c d : UInt8)
  | v6 (groups : List UInt16)
  deriving Repr, DecidableEq

/-- An address and a port. The scope tells links apart on which the same long address is in use. -/
structure SocketAddress where
  ip : IpAddress
  port : UInt16
  scope : UInt32 := 0
  deriving Repr, DecidableEq

/-- A text that is no address. -/
inductive AddressError where
  | ip
  | socket
  deriving Repr, DecidableEq

/-- The wording of a text that is no address. -/
def AddressError.message : AddressError → String
  | ip => "invalid IP address syntax"
  | socket => "invalid socket address syntax"

namespace IpAddress

open Text

/-- Whether the address is a long one. -/
def isV6 : IpAddress → Bool
  | v4 .. => false
  | v6 _ => true

/-- Four bytes with points between them. -/
def v4Text (a b c d : UInt8) : List Char :=
  List.intercalate ['.'] ([a, b, c, d].map fun n => Nat.toDigits 10 n.toNat)

/-- Groups in hexadecimal with colons between them. -/
def groupsText (groups : List UInt16) : List Char :=
  List.intercalate [':'] (groups.map fun n => Nat.toDigits 16 n.toNat)

/-- The length of the run of zeros at the front. -/
def zeroRun (groups : List UInt16) : Nat := (groups.takeWhile (· == 0)).length

/-- Where the first of the longest runs of zeros begins, and its length; `index` is the place of the
first group. -/
def longestZeros (index : Nat) : List UInt16 → Nat × Nat
  | [] => (index, 0)
  | g :: rest =>
    let here := zeroRun (g :: rest)
    let later := longestZeros (index + 1) rest
    if later.2 ≤ here then (index, here) else later

/-- The text of a long address: two colons for the longest run of at least two zeros, and the last
four bytes as a short address where the address stands for one. -/
def v6Text (groups : List UInt16) : List Char :=
  match groups with
  | [0, 0, 0, 0, 0, 0xffff, g, h] =>
    "::ffff:".toList ++ v4Text (g >>> 8).toUInt8 g.toUInt8 (h >>> 8).toUInt8 h.toUInt8
  | groups =>
    let (first, count) := longestZeros 0 groups
    if 2 ≤ count then
      groupsText (groups.take first) ++ [':', ':'] ++ groupsText (groups.drop (first + count))
    else groupsText groups

/-- The text of an address. -/
def text : IpAddress → String
  | v4 a b c d => String.ofList (v4Text a b c d)
  | v6 groups => String.ofList (v6Text groups)

/-- Reads a decimal number below 256 without needless zeros. -/
def octet : Reader UInt8 := fun cs =>
  let digits := cs.takeWhile Char.isDigit
  let n := Text.ofDigits digits
  if digits.isEmpty || 3 < digits.length || 255 < n ||
      (digits.head? == some '0' && 1 < digits.length)
  then none else some (n.toUInt8, cs.drop digits.length)

/-- Reads a short address. -/
def readV4 : Reader (UInt8 × UInt8 × UInt8 × UInt8) := fun cs => do
  let (a, cs) ← octet cs
  let (b, cs) ← octet (← mark '.' cs)
  let (c, cs) ← octet (← mark '.' cs)
  let (d, cs) ← octet (← mark '.' cs)
  some ((a, b, c, d), cs)

/-- Reads one group of at most four hexadecimal digits. -/
def group : Reader UInt16 := fun cs =>
  let digits := cs.takeWhile fun c => (Text.hexValue? c).isSome
  if digits.isEmpty || 4 < digits.length then none
  else
    let n := digits.foldl (fun n c => n * 16 + (Text.hexValue? c).getD 0) 0
    some (n.toUInt16, cs.drop digits.length)

/-- Reads the colon in front of every group but the first. -/
def separator (first : Bool) (cs : List Char) : Option (List Char) :=
  if first then some cs else mark ':' cs

/-- Reads at most `limit` groups, as many as there are; a short address may take the place of the
last two. The flag tells whether one did. -/
def groups (first : Bool) : Nat → List Char → (List UInt16 × Bool) × List Char
  | 0, cs => (([], false), cs)
  | limit + 1, cs =>
    match if 1 ≤ limit then (separator first cs).bind readV4 else none with
    | some ((a, b, c, d), cs) =>
      (([a.toUInt16 * 256 + b.toUInt16, c.toUInt16 * 256 + d.toUInt16], true), cs)
    | none =>
      match (separator first cs).bind group with
      | some (g, cs) =>
        let ((more, short), cs) := groups false limit cs
        ((g :: more, short), cs)
      | none => (([], false), cs)

/-- Reads a long address. -/
def readV6 : Reader (List UInt16) := fun cs => do
  let ((front, short), cs) := groups true 8 cs
  if front.length = 8 then some (front, cs)
  else
    guard !short
    let cs ← mark ':' cs
    let cs ← mark ':' cs
    let ((back, _), cs) := groups true (7 - front.length) cs
    some (front ++ List.replicate (8 - front.length - back.length) 0 ++ back, cs)

/-- The address that a text spells. -/
def ofText (s : String) : Except AddressError IpAddress :=
  match readV4 s.toList with
  | some ((a, b, c, d), []) => pure (v4 a b c d)
  | _ =>
    match readV6 s.toList with
    | some (groups, []) => pure (v6 groups)
    | _ => throw .ip

end IpAddress

namespace SocketAddress

open IpAddress Text

/-- The text of an address with its port; a long address stands in brackets. -/
def text (a : SocketAddress) : String :=
  let port := toString a.port.toNat
  if a.ip.isV6 then
    let scope := if a.scope = 0 then "" else "%" ++ toString a.scope.toNat
    "[" ++ a.ip.text ++ scope ++ "]:" ++ port
  else a.ip.text ++ ":" ++ port

/-- Reads a decimal number below a bound. -/
def number (bound : Nat) : Reader Nat := fun cs =>
  let digits := cs.takeWhile Char.isDigit
  let n := Text.ofDigits digits
  if digits.isEmpty || bound ≤ n then none else some (n, cs.drop digits.length)

/-- Reads a colon and a port to the end of the text. -/
def portOf (cs : List Char) : Option UInt16 := do
  let (n, rest) ← number 65536 (← mark ':' cs)
  if rest.isEmpty then some n.toUInt16 else none

/-- Reads a short address and a port. -/
def readV4Socket (cs : List Char) : Option SocketAddress := do
  let ((a, b, c, d), cs) ← readV4 cs
  some { ip := v4 a b c d, port := ← portOf cs }

/-- Reads an optional scope. -/
def scopeOf (cs : List Char) : Option (UInt32 × List Char) :=
  match cs with
  | '%' :: rest => (number 4294967296 rest).map fun (n, rest) => (n.toUInt32, rest)
  | _ => some (0, cs)

/-- Reads a long address in brackets and a port. -/
def readV6Socket (cs : List Char) : Option SocketAddress := do
  let (groups, cs) ← readV6 (← mark '[' cs)
  let (scope, cs) ← scopeOf cs
  some { ip := v6 groups, port := ← portOf (← mark ']' cs), scope }

/-- The address with a port that a text spells. -/
def ofText (s : String) : Except AddressError SocketAddress :=
  match readV4Socket s.toList with
  | some a => pure a
  | none =>
    match readV6Socket s.toList with
    | some a => pure a
    | none => throw .socket

end SocketAddress

end FileServer
