import FileServer.Disk.Walk
import FileServer.Journal.Record
import FileServer.Message.Request

/-!
What can go wrong with a request, and how it is recorded in the error log.
-/

namespace FileServer

/-- Something about a request or a connection that is recorded. -/
inductive Incident where
  | pathRejected (path : String)
  | rootLeft (path : String) (place : Location)
  | methodRefused (method : String)
  | fileNotOpened (path : Path) (cause : Disk.Error)
  | directoryNotListed (path : Path) (cause : Disk.Error)
  | responseNotBuilt (code : Nat) (cause : MessageError)
  | connectionRefused (active limit : Nat) (peer : String)
  | connectionFailed (details : String)
  | notAccepted (cause : String)
  deriving Repr, DecidableEq

/-- The record of an incident. -/
def Incident.record : Incident → Journal.Record
  | pathRejected path => ⟨.warning, "Rejected request path: " ++ path⟩
  | rootLeft path place =>
    ⟨.warning, "Path traversal attempt blocked: " ++ path ++ " -> " ++
      (Path.absolute place).display⟩
  | methodRefused method => ⟨.warning, "Method not allowed: " ++ method⟩
  | fileNotOpened path cause =>
    ⟨.error, "Failed to open file '" ++ path.display ++ "': " ++ cause.message⟩
  | directoryNotListed path cause =>
    ⟨.error, "Failed to list directory '" ++ path.display ++ "': " ++ cause.message⟩
  | responseNotBuilt code cause =>
    ⟨.error, "Failed to build " ++ toString code ++ " response: " ++ cause.message⟩
  | connectionRefused active limit peer =>
    ⟨.warning, "Max connections reached: " ++ toString active ++ "/" ++ toString limit ++
      ". Connection from " ++ peer ++ " rejected."⟩
  | connectionFailed details => ⟨.error, "Failed to serve connection: " ++ details⟩
  | notAccepted cause => ⟨.error, "Failed to accept connection: " ++ cause⟩

end FileServer
