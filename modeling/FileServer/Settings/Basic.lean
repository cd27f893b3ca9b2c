/-!
The settings of the server, in sections, each with its defaults.
-/

namespace FileServer

/-- Where the server listens, what it serves, and with how many threads. -/
structure ServerSettings where
  host : String := "0.0.0.0"
  port : Nat := 8000
  root : String := "."
  workers : Option Nat := none
  deriving Repr, DecidableEq

/-- What is logged, in which form, and where. -/
structure LoggingSettings where
  accessLog : Bool := true
  accessLogFormat : String := "common"
  accessLogFile : Option String := none
  errorLogFile : Option String := none
  deriving Repr, DecidableEq

/-- How long connections are kept and how many there may be. -/
structure PerformanceSettings where
  keepAlive : Bool := true
  readTimeout : Nat := 30
  maxConnections : Option Nat := none
  deriving Repr, DecidableEq

/-- How the server presents itself and what stands for a directory. -/
structure HttpSettings where
  serverName : String := "devserve/0.1.0"
  indexFiles : List String := ["index.html", "index.htm"]
  directoryListing : Bool := true
  deriving Repr, DecidableEq

/-- All settings; the last ones are media types of extensions. -/
structure Settings where
  server : ServerSettings := {}
  logging : LoggingSettings := {}
  performance : PerformanceSettings := {}
  http : HttpSettings := {}
  mediaTypes : List (String × String) := []
  deriving Repr, DecidableEq

end FileServer
