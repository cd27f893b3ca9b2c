import FileServer.Message.Response
import FileServer.Number.Wide
import FileServer.Text.Blank
import FileServer.Wire.Head

/-!
Where the body of a request ends, and whether the connection goes on behind it.
-/

namespace FileServer.Wire

open Text

/-- The form of the body of a request. -/
inductive BodyForm where
  | sized (length : Nat)
  | chunked
  deriving Repr, DecidableEq

/-- The longest body that can be declared. -/
def maxBodyLength : Nat := Wide.greatestNatural - 2

/-- What the fields of a request say about its body and the connection. -/
structure Framing where
  length : Option Nat := none
  isCoded : Bool := false
  isChunked : Bool := false
  staysOpen : Bool
  deriving Repr, DecidableEq

/-- The words between commas in the value of a field, in small letters. -/
def words (value : Bytes) : List (List Char) :=
  match visibleText? value with
  | some text =>
    (text.toList.map Char.toLower).splitOn ',' |>.map trim
  | none => []

/-- The number that digits declare. -/
def lengthOf? (value : Bytes) : Option Nat := do
  let text ← visibleText? value
  if text.startsWith "+" then none else Wide.readNatural? text

/-- Takes a field into account. -/
def Framing.step (version : Version) (f : Framing) (h : Field) : Except HeadError Framing :=
  match h.1 with
  | "transfer-encoding" =>
    if version = .v10 then throw .codingUnexpected
    else pure { f with
      isCoded := true, isChunked := (words h.2).getLast? == some "chunked".toList }
  | "content-length" =>
    if f.isCoded then pure f
    else match lengthOf? h.2, f.length with
      | none, _ => throw .contentLength
      | some n, some m => if n = m then pure f else throw .contentLength
      | some n, none =>
        if maxBodyLength < n then throw .tooLarge else pure { f with length := some n }
  | "connection" =>
    pure { f with
      staysOpen :=
        if f.staysOpen then !(words h.2).contains "close".toList
        else (words h.2).contains "keep-alive".toList }
  | _ => pure f

/-- What the fields of a request say; the first that cannot be true is reported. -/
def Framing.of (r : Request) : Except HeadError Framing := do
  let f ← r.headers.fields.foldlM (Framing.step r.version) { staysOpen := r.version = .v11 }
  if f.isCoded && !f.isChunked then throw .codingUnknown
  pure f

/-- The form of the body of a request. -/
def Framing.body (f : Framing) : BodyForm :=
  if f.isChunked then .chunked else .sized (f.length.getD 0)

/-- Reads the line with the hexadecimal length of a chunk; an extension behind it is dropped. -/
def chunkLength : HeadReader Nat := do
  let digits ← bytesOf fun b => (hexValue? (Char.ofNat b.toNat)).isSome
  let _ ← bytesOf isBlankByte
  let extension ← bytesOf fun b => b != 10 && b != 13
  if digits.isEmpty || extension.head?.any (· != 59) then throw (.refused .field)
  lineEnd .field
  pure (digits.foldl (fun n b => n * 16 + (hexValue? (Char.ofNat b.toNat)).getD 0) 0)

/-- Drops so many bytes. -/
def dropBytes (n : Nat) : HeadReader Unit := fun bs =>
  if bs.length < n then throw .pending else pure ((), bs.drop n)

/-- Drops the last chunk, which is empty, and the fields behind it. A chunk with data counts as more
to come: a body is looked at once, and one look shows one chunk. -/
def dropLastChunk : HeadReader Unit := do
  if (← chunkLength) != 0 then throw .pending
  let _ ← fields maxFields

/-- What follows the body of a request, if one look at what has come shows the end of the body. -/
def behindBody? (form : BodyForm) (bs : Bytes) : Option Bytes :=
  let read := match form with
    | .sized n => dropBytes n bs
    | .chunked => dropLastChunk bs
  match read with
  | .ok (_, rest) => some rest
  | .error _ => none

end FileServer.Wire
