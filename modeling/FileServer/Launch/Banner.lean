import FileServer.Journal.Desk
import FileServer.Net.Address

/-!
What the program says on its console: the banner of a server that has started, and the reason why
one has not.
-/

namespace FileServer.Desk

/-- What the banner tells: the address, the root, the number of threads if it is set, and the files
of the logs if they have some. -/
structure Banner where
  address : SocketAddress
  root : Path
  workers : Option Nat := none
  accessLogFile : Option String := none
  errorLogFile : Option String := none
  deriving Repr, DecidableEq

/-- The lines of the banner. -/
def Banner.lines (b : Banner) : List String :=
  ["Serving HTTP on " ++ b.address.ip.text ++ " port " ++ toString b.address.port.toNat ++
      " (http://" ++ b.address.text ++ "/) ...",
    "Root directory: " ++ b.root.display] ++
  (b.workers.map fun n => "Worker threads: " ++ toString n).toList ++
  (b.accessLogFile.map ("Access log: " ++ ·)).toList ++
  (b.errorLogFile.map ("Error log: " ++ ·)).toList

/-- Shows the banner on the console, wherever the logs go. -/
def showBanner (k : Desk) (b : Banner) : Desk := b.lines.foldl say k

/-- Shows why the program ends early. -/
def showFatal (k : Desk) (words : String) : Desk := k.complain ("[FATAL] " ++ words)

/-- Writes the last line of the access log. -/
def logShutdown (k : Desk) : Desk := k.log .access shutdownLine

end FileServer.Desk
