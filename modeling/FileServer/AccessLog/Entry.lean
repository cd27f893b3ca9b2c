import FileServer.Calendar.Instant
import FileServer.Message.Request

/-!
Entries of the access log: what was asked, by whom, and what was sent in return.
-/

namespace FileServer

/-- One request and its answer, as they are logged. The time is shown `offset` seconds east of
Greenwich. -/
structure LogEntry where
  remoteAddress : String
  time : Instant := ⟨0, 0⟩
  offset : Int := 0
  method : String
  path : String
  query : Option String := none
  version : String := "1.1"
  status : Nat := 200
  bodyBytes : Nat := 0
  referer : Option String := none
  userAgent : Option String := none
  micros : Nat := 0
  deriving Repr, DecidableEq

namespace LogEntry

/-- The side of the entry that is known before the request is answered. -/
def ofRequest (remoteAddress : String) (r : Request) : LogEntry :=
  { remoteAddress
    method := r.method
    path := r.target.path
    query := r.target.query
    version := r.version.number
    referer := (r.headers.get? "referer").bind visibleText?
    userAgent := (r.headers.get? "user-agent").bind visibleText? }

/-- The path and the query as they were asked for. -/
def uri (e : LogEntry) : String :=
  match e.query with
  | some query => e.path ++ "?" ++ query
  | none => e.path

/-- The first line of the request. -/
def requestLine (e : LogEntry) : String := e.method ++ " " ++ e.uri ++ " HTTP/" ++ e.version

end LogEntry

end FileServer
