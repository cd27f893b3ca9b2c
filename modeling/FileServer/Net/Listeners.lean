import FileServer.Net.Address
import FileServer.System.Failure

/-!
Listening sockets. A port is held by one listener at a time on each address, and a listener on all
addresses holds its port on every one of them.
-/

namespace FileServer

namespace IpAddress

/-- Whether the address stands for all addresses of its length. -/
def isUnspecified : IpAddress → Bool
  | v4 a b c d => [a, b, c, d].all (· == 0)
  | v6 groups => groups.all (· == 0)

/-- Whether the address takes in another one; all long addresses take in the short ones. -/
def covers (a b : IpAddress) : Bool :=
  a == b || (a.isUnspecified && (a.isV6 || !b.isV6))

end IpAddress

/-- The addresses on which something listens. -/
structure Listeners where
  held : List SocketAddress := []
  deriving Repr, DecidableEq

namespace Listeners

/-- The first of the ports that are given to those who name none. -/
def firstFreePort : Nat := 32768

/-- Whether two listeners cannot be there at once. -/
def clash (a b : SocketAddress) : Bool :=
  a.port == b.port && (a.ip.covers b.ip || b.ip.covers a.ip)

/-- A port above all those held. -/
def freePort (l : Listeners) : UInt16 :=
  (l.held.foldl (fun n a => max n (a.port.toNat + 1)) firstFreePort).toUInt16

/-- Starts to listen on an address, with a port of its own for port zero. -/
def bind (l : Listeners) (a : SocketAddress) : Except Failure (SocketAddress × Listeners) :=
  let a := if a.port = 0 then { a with port := l.freePort } else a
  if l.held.any (clash a) then throw (.numbered 98) else pure (a, ⟨a :: l.held⟩)

/-- Stops listening on an address. -/
def close (l : Listeners) (a : SocketAddress) : Listeners := ⟨l.held.erase a⟩

end Listeners

end FileServer
