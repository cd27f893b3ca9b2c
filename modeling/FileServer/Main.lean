import FileServer.Host.Sockets

/-!
The command line: the file with settings may be named as the first argument.
-/

namespace FileServer.Host

/-- What the program is started with. -/
def invocation (arguments : List String) : IO Invocation := do
  let block ← known (IO.FS.readBinFile "/proc/self/environ")
  return { arguments, environment := Environment.ofBlock (block.getD .empty).toList }

/-- The tree as far as it matters for the start. -/
def startDisk (i : Invocation) : IO Disk := do
  let d ← settingsDisk i.settingsName
  match Settings.load d i.settingsName i.environment with
  | .error _ => return d
  | .ok s =>
    let logs := [s.logging.accessLogFile, s.logging.errorLogFile].filterMap id
    (s.server.root :: logs).foldlM (fun d path => survey d (.ofString path)) d

/-- Says what the program has said so far. -/
def sayAll (k : Desk) : IO Unit := do
  let out ← IO.getStdout
  out.putStr k.output
  out.flush
  (← IO.getStderr).putStr k.complaints

/-- Starts the server, serves until it is told to stop, and gives the exit code. -/
def launch (i : Invocation) : IO UInt32 := do
  let desk : Desk := { disk := ← startDisk i, clock := ← now }
  let (result, k) := i.start {} desk
  let writer := k.writer.getD {}
  touch writer.access
  touch writer.errors
  match result with
  | .error e =>
    sayAll (k.showFatal e.message)
    return 1
  | .ok running =>
    match ← listen running.address with
    | .error cause =>
      sayAll (desk.showFatal (StartupError.unboundAddress running.address cause).message)
      return 1
    | .ok server =>
      sayAll k
      let service : Service :=
        { settings := running.settings, site := running.site, writer, hall := ← IO.mkRef {} }
      service.run server
      return 0

end FileServer.Host

/-- Runs the server. -/
def main (arguments : List String) : IO UInt32 := do
  FileServer.Host.launch (← FileServer.Host.invocation arguments)
