import FileServer.Net.Address
import FileServer.Settings.Error
import FileServer.System.Failure

/-!
What can stop the server before it takes its first connection.
-/

namespace FileServer

/-- Why the server does not start. -/
inductive StartupError where
  | invalidSettings (cause : SettingsError)
  | invalidAddress (words : String)
  | unusableRoot (path : String) (cause : Failure)
  | unboundAddress (address : SocketAddress) (cause : Failure)
  | unopenedLog (cause : Failure)
  | unstartedThreads (cause : Failure)
  deriving Repr, DecidableEq

namespace StartupError

/-- The text of what lies behind the error, if something does. -/
def source? : StartupError → Option String
  | invalidSettings cause => some cause.message
  | invalidAddress _ => none
  | unusableRoot _ cause => some cause.message
  | unboundAddress _ cause => some cause.message
  | unopenedLog cause => some cause.message
  | unstartedThreads cause => some cause.message

/-- The text of the error. -/
def message : StartupError → String
  | invalidSettings cause => "invalid configuration: " ++ cause.message
  | invalidAddress words => "invalid listen address " ++ words
  | unusableRoot path cause => "cannot serve directory '" ++ path ++ "': " ++ cause.message
  | unboundAddress address cause => "failed to bind " ++ address.text ++ ": " ++ cause.message
  | unopenedLog cause => "failed to open log file: " ++ cause.message
  | unstartedThreads cause => "failed to start runtime: " ++ cause.message

end StartupError

end FileServer
