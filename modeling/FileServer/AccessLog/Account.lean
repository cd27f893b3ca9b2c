import FileServer.AccessLog.Entry
import FileServer.Message.Response
import FileServer.Number.Wide

/-!
The account of an answer in the access log: its status and how many bytes of body it has.
-/

namespace FileServer

/-- The length of the body that the fields of a response declare. -/
def Response.declaredLength? (r : Response) : Option Nat :=
  ((r.headers.get? "content-length").bind visibleText?).bind Wide.readNatural?

/-- The bytes of body that are put to the account of a response: those in memory, or what the
response declares of a file. -/
def Response.accountedBytes (r : Response) : Nat :=
  (r.body.exactSize?.or r.declaredLength?).getD 0

/-- The entry of a request that has been answered. -/
def LogEntry.answered (e : LogEntry) (r : Response) (time : Instant) (micros : Nat) : LogEntry :=
  { e with time, status := r.status.code, bodyBytes := r.accountedBytes, micros }

end FileServer
