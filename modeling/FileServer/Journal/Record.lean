/-!
Records of the error log. Each is one line: how serious it is, and what happened.
-/

namespace FileServer.Journal

/-- How serious a record is. -/
inductive Severity where
  | warning
  | error
  deriving Repr, DecidableEq

/-- The mark at the front of a record. -/
def Severity.tag : Severity → String
  | warning => "[WARN]"
  | error => "[ERROR]"

/-- A record of the error log. -/
structure Record where
  severity : Severity
  text : String
  deriving Repr, DecidableEq

/-- The record as a line. -/
def Record.line (r : Record) : String := r.severity.tag ++ " " ++ r.text

end FileServer.Journal
