import FileServer.AccessLog.Account
import FileServer.AccessLog.Format
import FileServer.Journal.Writer
import FileServer.Settings.Basic
import FileServer.Site.Serve
import FileServer.Wire.Framing
import FileServer.Wire.Reply

/-!
A connection: requests come one after another and are answered in this order, each with its entry in
the access log, until the client or the settings end it or something comes that is no request.
-/

namespace FileServer.Wire

/-- A connection: who is at its other end, the bytes that have come and not been used, and whether
there can be another request. -/
structure Connection where
  peer : String
  unread : Bytes := []
  isOpen : Bool := true
  deriving Repr, DecidableEq

/-- When a request was answered, and in how many microseconds. -/
structure Moment where
  time : Instant := ⟨0, 0⟩
  micros : Nat := 0
  deriving Repr, DecidableEq

/-- What is sent and recorded in one turn of a connection. -/
structure Turn where
  sent : Bytes := []
  entry : Option LogEntry := none
  incidents : List Incident := []
  deriving Repr, DecidableEq

/-- What stands next on a connection. -/
inductive Next where
  | pending
  | refused (e : HeadError)
  | request (r : Request) (f : Framing) (rest : Bytes)
  deriving Repr, DecidableEq

namespace Connection

/-- Takes bytes that have come. -/
def receive (c : Connection) (bs : Bytes) : Connection := { c with unread := c.unread ++ bs }

/-- What stands next. -/
def next (c : Connection) : Next :=
  match readHead c.unread with
  | .error .pending => .pending
  | .error (.refused e) => .refused e
  | .ok (r, rest) =>
    match Framing.of r with
    | .error e => .refused e
    | .ok f => .request r f rest

/-- The connection without any further request. -/
def closed (c : Connection) : Connection := { c with unread := [], isOpen := false }

/-- Answers a head that is refused, and ends the connection. -/
def refuse (c : Connection) (e : HeadError) (m : Moment) : Turn × Connection :=
  let sent := match e.status? with
    | some status => replyBytes { method := "GET", staysOpen := false } m.time { status }
    | none => []
  ({ sent, incidents := [.connectionFailed e.details] }, c.closed)

/-- The entry of a request in the access log, if there is one. -/
def entryOf (c : Connection) (s : LoggingSettings) (r : Request) (response : Response)
    (m : Moment) : Option LogEntry :=
  if s.accessLog then some ((LogEntry.ofRequest c.peer r).answered response m.time m.micros)
  else none

/-- Whether the answer to a request has to wait for the disk. -/
def needsDisk (site : Site) (r : Request) : Bool :=
  (r.method == "GET" || r.method == "HEAD") && (Site.translate site.rootPath r.target.path).isSome

/-- Answers a request. A body without a visible end ends the connection behind the answer, which
says so if it waited for the disk, for the body is looked at in the meantime. A request that had to
be given up ends the connection without an answer. -/
def answer (c : Connection) (s : Settings) (site : Site) (d : Disk) (r : Request) (f : Framing)
    (rest : Bytes) (m : Moment) : Except Undatable (Turn × Connection) := do
  let a ← site.handle d r
  let behind := behindBody? f.body rest
  let staysOpen := f.staysOpen && s.performance.keepAlive
  let client : Addressee :=
    { method := r.method
      version := r.version
      staysOpen := staysOpen && (behind.isSome || !needsDisk site r) }
  let turn : Turn :=
    { sent := replyBytes client m.time a.response.allowAnyOrigin
      entry := c.entryOf s.logging r a.response m
      incidents := a.incidents }
  pure (turn, match staysOpen, behind with
    | true, some rest => { c with unread := rest }
    | _, _ => c.closed)

/-- What the end of the input means: nothing between two requests, and a failure in the middle of
one. -/
def finish (c : Connection) (m : Moment) : Turn × Connection :=
  if c.isOpen && !c.unread.all isLineEndByte then c.refuse .cutShort m else ({}, c.closed)

/-- All turns of a connection that can be taken with the bytes that have come, at most `fuel`. -/
def turns (s : Settings) (site : Site) (d : Disk) (m : Moment) :
    Nat → Connection → Except Undatable (List Turn × Connection)
  | 0, c => pure ([], c)
  | fuel + 1, c =>
    if !c.isOpen then pure ([], c)
    else match c.next with
      | .pending => pure ([], c)
      | .refused e =>
        let (turn, c) := c.refuse e m
        pure ([turn], c)
      | .request r f rest => do
        let (turn, c) ← c.answer s site d r f rest m
        let (more, c) ← turns s site d m fuel c
        pure (turn :: more, c)

end Connection

namespace Turn

/-- The lines that a turn adds to the logs: what went wrong, and then the entry. -/
def lines (t : Turn) (format : String) : List (Journal.Stream × String) :=
  t.incidents.map (fun i => (.errors, i.record.line)) ++
    (t.entry.map fun e => (.access, e.format format)).toList

end Turn

end FileServer.Wire
