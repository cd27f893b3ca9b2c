import FileServer.Host.Files
import FileServer.Launch.Run
import FileServer.Wire.Admission
import FileServer.Wire.Connection
import Std.Async.Select
import Std.Async.Signal
import Std.Async.TCP
import Std.Async.Timer

/-!
The sockets of the machine: connections are accepted and carried from turn to turn.
-/

namespace FileServer.Host

open Std.Async Wire

/-- What all connections of a server share. -/
structure Service where
  settings : Settings
  site : Site
  writer : Journal.Writer
  hall : IO.Ref Hall

/-- The address as the machine takes it. -/
def netAddress (a : SocketAddress) : Std.Net.SocketAddress :=
  match a.ip with
  | .v4 a₁ a₂ a₃ a₄ => .v4 ⟨⟨#v[a₁, a₂, a₃, a₄]⟩, a.port⟩
  | .v6 groups => .v6 ⟨⟨Vector.ofFn fun i => groups.getD i 0⟩, a.port⟩

/-- The address that the machine gives. -/
def ofNetAddress : Std.Net.SocketAddress → SocketAddress
  | .v4 a =>
    { ip := .v4 a.addr.octets[0] a.addr.octets[1] a.addr.octets[2] a.addr.octets[3]
      port := a.port }
  | .v6 a => { ip := .v6 a.addr.segments.toList, port := a.port }

/-- The number of a failure, which some reports give with a sign. -/
def failureNumber (n : UInt32) : Int := if n < 0x80000000 then n.toNat else (0 - n).toNat

/-- The failure that the machine reports. -/
def failureOf : IO.Error → Failure
  | .alreadyExists _ n _ | .invalidArgument _ n _ | .permissionDenied _ n _
  | .resourceExhausted _ n _ | .inappropriateType _ n _ | .noSuchThing _ n _ =>
    .numbered (failureNumber n)
  | .otherError n _ | .resourceBusy n _ | .resourceVanished n _ | .unsupportedOperation n _
  | .hardwareFault n _ | .unsatisfiedConstraints n _ | .illegalOperation n _ | .protocolError n _
  | .timeExpired n _ => .numbered (failureNumber n)
  | .interrupted _ n _ | .noFileOrDirectory _ n _ => .numbered (failureNumber n)
  | .unexpectedEof => .plain .unexpectedEof
  | .userError words => .worded .other words

/-- The present. -/
def now : IO Instant := do
  let t ← Std.Time.Timestamp.now
  return ⟨t.val.second.val, t.val.nano.val.toNat⟩

/-- How many connections may wait to be accepted. -/
def backlog : UInt32 := 1024

/-- Takes the port of an address. -/
def listen (a : SocketAddress) : IO (Except Failure TCP.Socket.Server) := do
  try
    let server ← TCP.Socket.Server.mk
    server.bind (netAddress a)
    server.listen backlog
    return .ok server
  catch e => return .error (failureOf e)

/-- What comes next from a client: bytes, the end of them, or nothing in time. -/
inductive Arrival where
  | bytes (bs : ByteArray)
  | ended
  | late

/-- How many bytes are taken from a client at once. -/
def chunk : UInt64 := 65536

/-- The longest time for which a client is waited for, in seconds. -/
def longestWait : Nat := 1000000000

/-- Waits for a client, no longer than the settings say. -/
def arrival (seconds : Nat) (client : TCP.Socket.Client) : Async Arrival := do
  let ofBytes (bs : Option ByteArray) : Arrival := (bs.map .bytes).getD .ended
  if seconds = 0 then return ofBytes (← client.recv? chunk)
  let milliseconds : Int := 1000 * min seconds longestWait
  Selectable.one #[
    .case (client.recvSelector chunk) fun bs => pure (ofBytes bs),
    .case (← Selector.sleep ⟨milliseconds⟩) fun _ => pure .late]

namespace Service

/-- Sends what a turn has to send and writes what it has to record. -/
def deliver (sv : Service) (client : TCP.Socket.Client) (t : Turn) : Async Unit := do
  for (stream, line) in t.lines sv.settings.logging.accessLogFormat do
    writeLine sv.writer stream line
  unless t.sent.isEmpty do client.send ⟨t.sent.toArray⟩

/-- Carries a connection by one turn, or ends it where a request has to be given up. -/
def advance (sv : Service) (client : TCP.Socket.Client) (c : Connection) :
    Async (Except Undatable Connection) := do
  let refused (e : HeadError) : Async (Except Undatable Connection) := do
    let (turn, c) := c.refuse e { time := ← now }
    sv.deliver client turn
    return .ok c
  match c.next with
  | .refused e => refused e
  | .pending =>
    match ← arrival sv.settings.performance.readTimeout client with
    | .bytes bs => return .ok (c.receive bs.toList)
    | .late => refused .timedOut
    | .ended =>
      let (turn, c) := c.finish { time := ← now }
      sv.deliver client turn
      return .ok c
  | .request r f rest =>
    let started ← IO.monoNanosNow
    let disk ← siteDisk sv.site r.visit
    let micros := ((← IO.monoNanosNow) - started) / 1000
    match c.answer sv.settings sv.site disk r f rest { time := ← now, micros } with
    | .error e => return .error e
    | .ok (turn, c) =>
      sv.deliver client turn
      return .ok c

/-- Serves a connection to its end. One on which a request had to be given up keeps its place in the
hall. -/
def serve (sv : Service) (client : TCP.Socket.Client) (peer : SocketAddress) : Async Unit := do
  let mut c : Connection := { peer := peer.ip.text }
  try
    while c.isOpen do
      match ← sv.advance client c with
      | .ok next => c := next
      | .error _ => return
    client.shutdown
  catch e =>
    writeLine sv.writer .errors (Incident.connectionFailed (toString e)).record.line
  sv.hall.modify Hall.leave

/-- Lets a connection in or sends it away. -/
def accept (sv : Service) (client : TCP.Socket.Client) : Async Unit := do
  let peer := ofNetAddress (← client.getPeerName)
  sv.hall.modify Hall.arrive
  sv.hall.modify (Hall.judge sv.settings.performance.maxConnections)
  match ← sv.hall.modifyGet Hall.settle with
  | some (.refused before limit) =>
    let incident := Incident.connectionRefused before.toNat limit peer.text
    writeLine sv.writer .errors incident.record.line
  | _ => background (sv.serve client peer)

/-- Accepts connections for as long as the program runs. -/
def acceptAll (sv : Service) (server : TCP.Socket.Server) : Async Unit := do
  repeat
    try
      sv.accept (← server.accept)
    catch e =>
      writeLine sv.writer .errors (Incident.notAccepted (toString e)).record.line

/-- Serves until the program is told to stop. -/
def run (sv : Service) (server : TCP.Socket.Server) : IO Unit := do
  let terminate ← (← Signal.Waiter.mk .sigterm false).wait
  let interrupt ← (← Signal.Waiter.mk .sigint false).wait
  let _ ← (sv.acceptAll server).toIO
  let _ ← IO.waitAny [terminate, interrupt]
  writeLine sv.writer .access Desk.shutdownLine

end Service

end FileServer.Host
