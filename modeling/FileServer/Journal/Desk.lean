import FileServer.Journal.Record
import FileServer.Journal.Writer

/-!
What a running program writes: to the console, where it has two outputs, and to its logs. Until the
logs are opened, both go to the console.
-/

namespace FileServer

/-- The files, what has been written to the two outputs of the console so far, and the open logs. -/
structure Desk where
  disk : Disk
  output : String := ""
  complaints : String := ""
  writer : Option Journal.Writer := none
  clock : Instant := ⟨0, 0⟩
  deriving Repr, DecidableEq

namespace Desk

/-- Writes a line to the first output of the console. -/
def say (k : Desk) (line : String) : Desk := { k with output := k.output ++ line ++ "\n" }

/-- Writes a line to the second output of the console. -/
def complain (k : Desk) (line : String) : Desk :=
  { k with complaints := k.complaints ++ line ++ "\n" }

/-- Writes a line at the end of a file; one that is gone takes nothing. -/
def appendLine (k : Desk) (place : Location) (line : String) : Desk :=
  { k with disk := ((Disk.Edit.append place (Utf8.ofString (line ++ "\n")) k.clock).run k.disk).2 }

/-- Writes a line to a log. -/
def log (k : Desk) (stream : Journal.Stream) (line : String) : Desk :=
  match (k.writer.getD {}).sink stream, stream with
  | .file place, _ => k.appendLine place line
  | .console, .access => k.say line
  | .console, .errors => k.complain line

/-- Writes a record to the error log. -/
def record (k : Desk) (r : Journal.Record) : Desk := k.log .errors r.line

/-- The last line of the access log. -/
def shutdownLine : String :=
  "[Shutdown] Keyboard interrupt or terminate signal received, exiting."

/-- Opens the logs. They are opened once; a second time the files are touched and the logs stay as
they are. -/
def openLogs (k : Desk) (access errors : Option Path) : Except Failure Unit × Desk :=
  match (Journal.Writer.openFiles k.clock access errors).run k.disk with
  | (.error e, disk) => (.error e.failure, { k with disk })
  | (.ok writer, disk) =>
    match k.writer with
    | some _ => (.error (.worded .alreadyExists "Log writer already initialized"), { k with disk })
    | none => (.ok (), { k with disk, writer := some writer })

end Desk

end FileServer
