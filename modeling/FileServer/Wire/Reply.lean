import FileServer.Calendar.HttpDate
import FileServer.Message.Response

/-!
A response as it is sent over a connection: the line with its status, its fields, those that belong
to the connection, and the body unless the request or the status rules it out.
-/

namespace FileServer.Wire

/-- What a connection has to know of a request to answer it. -/
structure Addressee where
  method : String
  version : Version := .v11
  staysOpen : Bool
  deriving Repr, DecidableEq

/-- Whether a response to a method may have a body. -/
def mayHaveBody (method : String) (status : Status) : Bool :=
  method != "HEAD" && 200 ≤ status.code && status.code != 204 && status.code != 304 &&
    !(method == "CONNECT" && status.code < 300)

/-- The bytes of body that are sent in response to a method. -/
def sentBody (method : String) (r : Response) : Bytes :=
  if mayHaveBody method r.status then r.body.bytes else []

/-- What a response says about the connection: nothing where it does what the version does
anyway. -/
def connectionField (a : Addressee) : List Field :=
  match a.version, a.staysOpen with
  | .v10, true => [("connection", Utf8.ofString "keep-alive")]
  | .v10, false => []
  | _, true => []
  | _, false => [("connection", Utf8.ofString "close")]

/-- The length of an empty body, where a body is allowed and its length is not declared. -/
def emptyField (a : Addressee) (r : Response) : List Field :=
  if (r.headers.get? "content-length").isNone && r.body.bytes.isEmpty &&
      mayHaveBody a.method r.status then
    [("content-length", Utf8.ofString "0")]
  else []

/-- The field with the time of an answer. -/
def dateField (now : Instant) : List Field :=
  ((Calendar.HttpDate.write? now).map fun date => ("date", Utf8.ofString date)).toList

/-- A field as a line. -/
def fieldLine (f : Field) : Bytes := Utf8.ofString (f.1 ++ ": ") ++ f.2 ++ [13, 10]

/-- The line with the status. -/
def statusLine (version : Version) (status : Status) : Bytes :=
  Utf8.ofString ("HTTP/" ++ version.number ++ " " ++ toString status.code ++ " " ++
    status.reason?.getD "<none>" ++ "\r\n")

/-- The head of a response. -/
def headBytes (a : Addressee) (now : Instant) (r : Response) : Bytes :=
  let fields := r.headers.fields ++ connectionField a ++ emptyField a r ++ dateField now
  statusLine a.version r.status ++ fields.flatMap fieldLine ++ [13, 10]

/-- All bytes that are sent for a response. -/
def replyBytes (a : Addressee) (now : Instant) (r : Response) : Bytes :=
  headBytes a now r ++ sentBody a.method r

end FileServer.Wire
