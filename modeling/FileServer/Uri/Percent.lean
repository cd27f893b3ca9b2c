import FileServer.Text.Utf8

/-!
Percent-encoding. An escape is a percent sign and two hexadecimal digits; anything else stands for
itself. What `encode` writes holds only unreserved characters, slashes and escapes, and `decode`
reads it back.
-/

namespace FileServer.Percent

/-- Bytes that a link holds as they are: letters, digits, `-`, `.`, `_`, `~` and `/`. -/
def isPlain (b : UInt8) : Bool :=
  let c := Char.ofNat b.toNat
  c.isAlphanum || c == '-' || c == '.' || c == '_' || c == '~' || c == '/'

/-- The digit of a number below sixteen, letters being capitals. -/
def hexDigit (n : Nat) : Char := if n < 10 then Char.ofNat (48 + n) else Char.ofNat (55 + n)

/-- One byte as it stands in a link. -/
def encodeByte (b : UInt8) : List Char :=
  if isPlain b then [Char.ofNat b.toNat]
  else ['%', hexDigit (b.toNat / 16), hexDigit (b.toNat % 16)]

/-- The bytes of a text as a link. -/
def encode (s : String) : String := String.ofList ((Utf8.ofString s).flatMap encodeByte)

/-- The value of a hexadecimal digit given as a byte. -/
def digit? (b : UInt8) : Option UInt8 :=
  if 48 ≤ b ∧ b ≤ 57 then some (b - 48)
  else if 65 ≤ b ∧ b ≤ 70 then some (b - 55)
  else if 97 ≤ b ∧ b ≤ 102 then some (b - 87)
  else none

/-- Replaces every escape by the byte it stands for, once. -/
def decodeBytes : Bytes → Bytes
  | 37 :: hi :: lo :: rest =>
    match digit? hi, digit? lo with
    | some h, some l => (h * 16 + l) :: decodeBytes rest
    | _, _ => 37 :: decodeBytes (hi :: lo :: rest)
  | b :: rest => b :: decodeBytes rest
  | [] => []

/-- The bytes that a text with escapes stands for. -/
def decode (s : String) : Bytes := decodeBytes (Utf8.ofString s)

end FileServer.Percent
