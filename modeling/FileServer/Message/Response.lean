import FileServer.Message.Request
import FileServer.Message.Status

/-!
Responses: a status, header fields and a body. The body is held in memory, or streamed from an open
file in pieces whose size is bounded; in both cases the pieces make up the body.
-/

namespace FileServer

/-- What follows the head of a response. -/
inductive Body where
  | held (bytes : Bytes)
  | streamed (content : Bytes)
  deriving Repr, DecidableEq

namespace Body

/-- The largest piece read from a file at a time. -/
def pieceSize : Nat := 65536

/-- No body. -/
def empty : Body := held []

/-- All bytes of the body. -/
def bytes : Body → Bytes
  | held bytes => bytes
  | streamed content => content

/-- The size of the body, where it is known before the body is sent. -/
def exactSize? : Body → Option Nat
  | held bytes => some bytes.length
  | streamed _ => none

/-- Cuts bytes into pieces of `size`, the last one being what is left, with at most `fuel` cuts. -/
def cut (size : Nat) : Nat → Bytes → List Bytes
  | 0, _ => []
  | fuel + 1, bytes =>
    if bytes.isEmpty then [] else bytes.take size :: cut size fuel (bytes.drop size)

/-- The pieces in which the body is sent; none is empty. -/
def pieces : Body → List Bytes
  | held bytes => if bytes.isEmpty then [] else [bytes]
  | streamed content => cut pieceSize (content.length / pieceSize + 1) content

end Body

/-- An answer to a request. -/
structure Response where
  status : Status
  headers : Headers := {}
  body : Body := .empty
  deriving Repr, DecidableEq

namespace Response

/-- Makes a response from a number and raw fields. -/
def parse (code : Nat) (fields : List (Bytes × Bytes)) (body : Bytes) :
    Except MessageError Response := do
  let some status := Status.ofNat? code | throw .status
  pure { status, headers := ← ({} : Headers).appendAll fields, body := .held body }

end Response

end FileServer
