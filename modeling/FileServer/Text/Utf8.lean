/-!
UTF-8. A byte sequence is read as a sequence of symbols, each a character or a mark for an
ill-formed part; the strict and the forgiving reader are two views of that one sequence, so they
agree on every sequence that the strict one accepts.
-/

namespace FileServer

/-- Raw bytes: file contents, path names, header values. -/
abbrev Bytes := List UInt8

namespace Utf8

/-- The UTF-8 form of a list of characters. -/
def encode (cs : List Char) : Bytes := cs.flatMap String.utf8EncodeChar

/-- A byte that continues a longer form. -/
def isTail (b : UInt8) : Bool := 0x80 ≤ b && b ≤ 0xBF

/-- The first two bytes of a two-byte form. -/
def startsTwo (b₀ b₁ : UInt8) : Bool := 0xC2 ≤ b₀ && b₀ ≤ 0xDF && isTail b₁

/-- The first two bytes of a three-byte form, surrogates and overlong forms excluded. -/
def startsThree (b₀ b₁ : UInt8) : Bool :=
  0xE0 ≤ b₀ && b₀ ≤ 0xEF && isTail b₁ && (b₀ != 0xE0 || 0xA0 ≤ b₁) && (b₀ != 0xED || b₁ ≤ 0x9F)

/-- The first two bytes of a four-byte form, overlong forms and values past U+10FFFF excluded. -/
def startsFour (b₀ b₁ : UInt8) : Bool :=
  0xF0 ≤ b₀ && b₀ ≤ 0xF4 && isTail b₁ && (b₀ != 0xF0 || 0x90 ≤ b₁) && (b₀ != 0xF4 || b₁ ≤ 0x8F)

/-- The character whose code point has the given six-bit groups below its lead bits. -/
def scalar (lead : Nat) (tails : List UInt8) : Char :=
  Char.ofNat (tails.foldl (fun n b => n * 64 + b.toNat % 64) lead)

/-- The bytes as characters, `none` standing for each maximal ill-formed part. -/
def symbols : Bytes → List (Option Char)
  | [] => []
  | b₀ :: r₀ =>
    if b₀ < 0x80 then some (Char.ofNat b₀.toNat) :: symbols r₀
    else match r₀ with
      | [] => [none]
      | b₁ :: r₁ =>
        if startsTwo b₀ b₁ then some (scalar (b₀.toNat % 32) [b₁]) :: symbols r₁
        else if startsThree b₀ b₁ then
          match r₁ with
          | [] => [none]
          | b₂ :: r₂ =>
            if isTail b₂ then some (scalar (b₀.toNat % 16) [b₁, b₂]) :: symbols r₂
            else none :: symbols (b₂ :: r₂)
        else if startsFour b₀ b₁ then
          match r₁ with
          | [] => [none]
          | b₂ :: r₂ =>
            if isTail b₂ then
              match r₂ with
              | [] => [none]
              | b₃ :: r₃ =>
                if isTail b₃ then some (scalar (b₀.toNat % 8) [b₁, b₂, b₃]) :: symbols r₃
                else none :: symbols (b₃ :: r₃)
            else none :: symbols (b₂ :: r₂)
        else none :: symbols (b₁ :: r₁)

/-- The characters, if every part is well formed. -/
def decode? (bs : Bytes) : Option (List Char) := (symbols bs).mapM id

/-- The characters, with U+FFFD for every ill-formed part. -/
def decodeLossy (bs : Bytes) : List Char := (symbols bs).map (·.getD '\uFFFD')

/-- The bytes of a text. -/
def ofString (s : String) : Bytes := encode s.toList

/-- The text the bytes spell, if they are well formed. -/
def toString? (bs : Bytes) : Option String := (decode? bs).map String.ofList

/-- The text the bytes spell, with U+FFFD for every ill-formed part. -/
def toStringLossy (bs : Bytes) : String := String.ofList (decodeLossy bs)

end Utf8

end FileServer
