import FileServer.Launch.Banner
import FileServer.Launch.Prepare
import FileServer.Net.Listeners
import FileServer.Settings.Load

/-!
The program from its start to its end: the settings are loaded, the logs opened, the root and the
address checked, the port taken, and the banner shown. What goes wrong first ends the program.
-/

namespace FileServer

/-- What a program is started with: its arguments and the variables of its environment. -/
structure Invocation where
  arguments : List String := []
  environment : List (String × String) := []
  deriving Repr, DecidableEq

/-- A server that has started. -/
structure Running where
  settings : Settings
  site : Site
  address : SocketAddress
  listeners : Listeners
  deriving Repr, DecidableEq

namespace Invocation

/-- The name of the file with settings where no argument gives one. -/
def defaultName : String := "config"

/-- The name of the file with settings. -/
def settingsName (i : Invocation) : String := i.arguments.head?.getD defaultName

end Invocation

namespace Settings

/-- The banner of a server that has started. -/
def banner (s : Settings) (site : Site) (address : SocketAddress) : Desk.Banner :=
  { address
    root := site.rootPath
    workers := s.server.workers
    accessLogFile := s.logging.accessLogFile
    errorLogFile := s.logging.errorLogFile }

/-- Opens the logs that the settings ask for. -/
def openLogs (s : Settings) (k : Desk) : Except StartupError Unit × Desk :=
  let (result, k) := k.openLogs (s.logging.accessLogFile.map .ofString)
    (s.logging.errorLogFile.map .ofString)
  (result.mapError .unopenedLog, k)

/-- Checks the root and the address and takes the port. -/
def listen (s : Settings) (d : Disk) (l : Listeners) : Except StartupError Running := do
  let site ← s.site d
  let address ← s.address
  let (_, listeners) ← (l.bind address).mapError (.unboundAddress address)
  return { settings := s, site, address, listeners }

end Settings

/-- A program: how it ended or what is running, and what it has written. -/
abbrev Started := Except StartupError Running × Desk

namespace Invocation

/-- Starts the server up to its banner. -/
def start (i : Invocation) (l : Listeners) (k : Desk) : Started :=
  match Settings.load k.disk i.settingsName i.environment with
  | .error e => (.error (.invalidSettings e), k)
  | .ok s =>
    match s.openLogs k with
    | (.error e, k) => (.error e, k)
    | (.ok _, k) =>
      match s.listen k.disk l with
      | .error e => (.error e, k)
      | .ok r => (.ok r, k.showBanner (s.banner r.site r.address))

/-- Runs the program without any client until it is told to stop, and gives its exit code. -/
def run (i : Invocation) (l : Listeners) (k : Desk) : Nat × Desk :=
  match i.start l k with
  | (.error e, k) => (1, k.showFatal e.message)
  | (.ok _, k) => (0, k.logShutdown)

end Invocation

end FileServer
