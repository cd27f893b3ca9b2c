import FileServer.Disk.Edit

/-!
Where the two logs are written. Each goes to a file, which is only ever added to, or to the console;
two logs may share a file.
-/

namespace FileServer.Journal

/-- The two logs. -/
inductive Stream where
  | access
  | errors
  deriving Repr, DecidableEq

/-- Where a log is written. -/
inductive Sink where
  | console
  | file (place : Location)
  deriving Repr, DecidableEq

/-- Where both logs are written. -/
structure Writer where
  access : Sink := .console
  errors : Sink := .console
  deriving Repr, DecidableEq

namespace Writer

/-- Where a log is written. -/
def sink (w : Writer) : Stream → Sink
  | .access => w.access
  | .errors => w.errors

/-- Opens the file of a log, if it has one; directories above it and the file itself are made where
they are missing. -/
def openSink (now : Instant) : Option Path → Disk.Edit Sink
  | none => pure .console
  | some path => do
    Disk.Edit.makeParents path
    return .file (← Disk.Edit.openForWriting path now)

/-- Opens the files of both logs, the access log first. -/
def openFiles (now : Instant) (access errors : Option Path) : Disk.Edit Writer := do
  return { access := ← openSink now access, errors := ← openSink now errors }

end Writer

end FileServer.Journal
