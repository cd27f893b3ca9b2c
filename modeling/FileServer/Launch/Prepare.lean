import FileServer.Disk.Walk
import FileServer.Launch.Error
import FileServer.Settings.Basic
import FileServer.Site.Basic

/-!
From settings to what the server needs before it listens: the site and the address.
-/

namespace FileServer

/-- The place of the directory that a text names. -/
def rootOf (d : Disk) (text : String) : Except StartupError Location :=
  match d.locate (.ofString text) with
  | .error cause => throw (.unusableRoot text cause.failure)
  | .ok (place, node) =>
    if node.isDirectory then pure place
    else throw (.unusableRoot text (.worded .invalidInput "not a directory"))

namespace Settings

/-- The site that the settings describe. -/
def site (s : Settings) (d : Disk) : Except StartupError Site := do
  return { root := ← rootOf d s.server.root
           serverName := s.http.serverName
           indexFiles := s.http.indexFiles
           listing := s.http.directoryListing
           mediaTypes := .withExtras s.mediaTypes }

/-- The address on which the server listens. -/
def address (s : Settings) : Except StartupError SocketAddress :=
  match IpAddress.ofText s.server.host with
  | .ok ip => pure { ip, port := s.server.port.toUInt16 }
  | .error e => throw (.invalidAddress (s.server.host ++ ": " ++ e.message))

end Settings

end FileServer
