import FileServer.Message.Headers
import FileServer.Uri.Target

/-!
Requests: a method, a target, a protocol version and header fields, each held to its rule when the
request is made.
-/

namespace FileServer

/-- Protocol versions by their numbers. -/
inductive Version where
  | v09
  | v10
  | v11
  | v2
  | v3
  deriving Repr, DecidableEq

/-- The number of a version as it is logged. -/
def Version.number : Version → String
  | .v09 => "0.9"
  | .v10 => "1.0"
  | .v11 => "1.1"
  | .v2 => "2"
  | .v3 => "3"

/-- Why a message cannot be made. -/
inductive MessageError where
  | status
  | method
  | target (e : TargetError)
  | headerName
  | headerValue
  deriving Repr, DecidableEq

/-- The wording of a message that cannot be made. -/
def MessageError.message : MessageError → String
  | .status => "invalid status code"
  | .method => "invalid HTTP method"
  | .target e => e.message
  | .headerName => "invalid HTTP header name"
  | .headerValue => "failed to parse header value"

/-- A request without its body, which the server never reads. -/
structure Request where
  method : String
  target : Target
  version : Version := .v11
  headers : Headers := {}
  deriving Repr, DecidableEq

/-- Adds fields in order; the first field that breaks a rule is reported. -/
def Headers.appendAll (h : Headers) (fields : List (Bytes × Bytes)) :
    Except MessageError Headers :=
  fields.foldlM (fun h (name, value) =>
    match headerName? name with
    | none => throw .headerName
    | some name => if isHeaderValue value then pure (h.append name value) else throw .headerValue) h

/-- Whether bytes spell a method. -/
def isMethod (bs : Bytes) : Bool :=
  !bs.isEmpty && bs.all fun b => isTokenChar (Char.ofNat b.toNat)

/-- Makes a request; of several broken rules the first in the order of the arguments is reported. -/
def Request.make (method target : Bytes) (version : Version) (fields : List (Bytes × Bytes)) :
    Except MessageError Request := do
  unless isMethod method do throw .method
  let target ← (Target.ofBytes target).mapError .target
  let headers ← ({} : Headers).appendAll fields
  pure { method := Utf8.toStringLossy method, target, version, headers }

end FileServer
