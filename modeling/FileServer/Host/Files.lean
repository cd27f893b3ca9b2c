import FileServer.Journal.Writer
import FileServer.Settings.Load
import FileServer.Site.Serve

/-!
The files of the machine. What the server decides, it decides on a tree of files; here those parts
of the machine's files that can matter for a decision are put into such a tree, and lines are
written to the logs.
-/

namespace FileServer.Host

/-- The outcome of an action, if it succeeds. -/
def known {α : Type} (action : IO α) : IO (Option α) := do
  try return some (← action) catch _ => return none

/-- The text of a path as the machine takes it; a path that is no text cannot be taken. -/
def textOf? (p : Path) : Option String := Utf8.toString? p.bytes

/-- What stands at a place. The content of a file is read where it is asked for. A link is taken to
point to where it leads in the end, or to itself if it leads nowhere. -/
def nodeAt (place : Location) (content : Bool) : IO (Option Node) := do
  let some text := textOf? (Path.absolute place) | return none
  let file := (← IO.currentDir) / text
  let some facts ← known file.symlinkMetadata | return none
  match facts.type with
  | .symlink =>
    let target := (← known (IO.FS.realPath file)).getD file
    return some (.link (.ofString target.toString))
  | .dir =>
    let read := (← known file.readDir).isSome
    let enter := (← known (file / ".").symlinkMetadata).isSome
    return some (.directory { read, enter })
  | .file =>
    let bytes ← if content then known (IO.FS.readBinFile file) else pure (some .empty)
    let modified : Instant := ⟨facts.modified.sec, facts.modified.nsec.toNat⟩
    return some (.file (bytes.getD .empty).toList modified { read := bytes.isSome })
  | .other => return none

/-- Takes what stands at a place into the tree, unless it is there already. -/
def look (d : Disk) (place : Location) : IO Disk := do
  if (d.node? place).isSome then return d
  match ← nodeAt place false with
  | some node => return d.put place node
  | none => return d

/-- Takes what stands at a place and at all places above it into the tree. -/
def lookDownTo (d : Disk) (place : Location) : IO Disk :=
  (List.range place.length).foldlM (fun d n => look d (place.take (n + 1))) d

/-- The place that names lead to, if there is one. -/
def placeOf? (names : List Name) : IO (Option Location) := do
  let some text := textOf? (Path.absolute names) | return none
  let some place ← known (IO.FS.realPath text) | return none
  return some (Path.ofString place.toString).names

/-- Takes everything into the tree that is met on the way along a path, up to where the way ends. -/
def follow (d : Disk) (names : List Name) : IO Disk :=
  (List.range names.length).foldlM (fun d n => do
    let some above ← placeOf? (names.take n) | return d
    let d ← lookDownTo d above
    let d ← match names[n]? with
      | some name =>
        if name = Name.here || name = Name.parent then pure d else look d (above ++ [name])
      | none => pure d
    match ← placeOf? (names.take (n + 1)) with
    | some place => lookDownTo d place
    | none => return d) d

/-- Takes the entries of the directory at a place into the tree, and what its links lead to. -/
def lookInside (d : Disk) (place : Location) : IO Disk := do
  let some text := textOf? (Path.absolute place) | return d
  let some entries ← known ((← IO.currentDir) / text).readDir | return d
  entries.foldlM (fun d e => follow d (place ++ [Utf8.ofString e.fileName])) d

/-- Takes into the tree what a path leads to: a file with its content, or a directory with its
entries. -/
def survey (d : Disk) (p : Path) : IO Disk := do
  let names := ((Path.absolute d.current).join p).names
  let d ← follow d names
  let some place ← placeOf? names | return d
  match ← nodeAt place true with
  | some (.directory _) => lookInside d place
  | some node => return d.put place node
  | none => return d

/-- The tree as far as paths lead into it. -/
def surveyAll (paths : List Path) : IO Disk := do
  let current := (Path.ofString (← IO.currentDir).toString).names
  let d ← follow { current } current
  paths.foldlM survey d

/-- The tree as far as it matters for the settings of a name. -/
def settingsDisk (name : String) : IO Disk := do
  let d ← surveyAll []
  let paths := Settings.namedPath d name :: (Settings.extendedPaths d name).map (·.1)
  paths.foldlM survey d

/-- The tree as far as it matters for the answer to a request. -/
def siteDisk (s : Site) (v : Visit) : IO Disk :=
  match Site.translate s.rootPath v.path with
  | none => surveyAll []
  | some path =>
    surveyAll (s.rootPath :: path :: s.indexFiles.map fun name => path.join (.ofString name))

/-- Makes the file of a log and the directories above it, where they are missing. -/
def touch (sink : Journal.Sink) : IO Unit := do
  match sink with
  | .console => return
  | .file place =>
    let some above := textOf? (Path.absolute place.dropLast) | return
    let some text := textOf? (Path.absolute place) | return
    IO.FS.createDirAll above
    IO.FS.withFile text .append fun _ => pure ()

/-- Adds a line to a log. A line that cannot be written is lost. -/
def writeLine (w : Journal.Writer) (stream : Journal.Stream) (line : String) : IO Unit := do
  match w.sink stream, stream with
  | .file place, _ =>
    let some text := textOf? (Path.absolute place) | return
    let _ ← known (IO.FS.withFile text .append fun h => h.putStr (line ++ "\n"))
  | .console, .access =>
    let out ← IO.getStdout
    out.putStr (line ++ "\n")
    out.flush
  | .console, .errors => (← IO.getStderr).putStr (line ++ "\n")

end FileServer.Host
