import FileServer.Disk.Walk
import FileServer.Settings.Decode
import FileServer.Settings.Environment
import FileServer.Settings.Format
import FileServer.Settings.Key

/-!
Loading the settings: a file in one of several formats, which may be missing, and over it the
environment.
-/

namespace FileServer.Settings

/-- The extension of a name: what follows its last point, if something stands before that point. -/
def nameExtension (name : Name) : Name :=
  let point : UInt8 := 46
  let after := name.reverse.takeWhile (· != point)
  if after.length + 1 < name.length then after.reverse else []

/-- A path cut behind its last proper name, and that name. -/
def cutBehindName (p : Path) : Option (Path × Name) :=
  match p.fileName? with
  | none => none
  | some name =>
    let above := p.names.reverse.dropWhile (· = Name.here) |>.tail |>.reverse
    let directory : Path := if p.isAbsolute then .absolute above else ⟨Path.joinNames above⟩
    some (directory.child name, name)

/-- The path that a name means. -/
def namedPath (d : Disk) (name : String) : Path := (Path.absolute d.current).join (.ofString name)

/-- The paths with a known extension added to a name, in the order in which they are tried. -/
def extendedPaths (d : Disk) (name : String) : List (Path × Format) :=
  match cutBehindName (namedPath d name) with
  | none => []
  | some (base, _) =>
    Format.extensions.map fun (extension, format) =>
      (⟨base.bytes ++ Utf8.ofString ("." ++ extension)⟩, format)

/-- The format of the file at a path, told by its extension. -/
def formatOf? (p : Path) : Option Format :=
  let extension := nameExtension (p.fileName?.getD [])
  (Format.extensions.find? fun e => Utf8.ofString e.1 = extension).map (·.2)

/-- The file with settings that a name means: the file of that name if its extension is known, and
if there is none of that name, the file with a known extension added to it. -/
def fileOf (d : Disk) (name : String) : Option (Path × Format) :=
  let p := namedPath d name
  if d.isFile p then (formatOf? p).map (p, ·)
  else (extendedPaths d name).find? fun (p, _) => d.isFile p

/-- The names of a path relative to those of a directory. -/
def relativeTo (directory names : List Name) : List Name :=
  match directory, names with
  | a :: as, b :: bs =>
    if a = b then relativeTo as bs else List.replicate (a :: as).length Name.parent ++ b :: bs
  | as, bs => List.replicate as.length Name.parent ++ bs

/-- How a file is referred to: by its path from the current directory. -/
def displayName (d : Disk) (p : Path) : String :=
  (Path.mk (Path.joinNames (relativeTo d.current p.properNames))).display

/-- The text of the file at a path; a file that cannot be read or holds no text has none. -/
def textAt? (d : Disk) (p : Path) : Option String :=
  match d.read p with
  | .ok (content, _) => Utf8.toString? content
  | .error _ => none

/-- The keys and values that the file of a name gives; a file without text gives none. -/
def givenByFile (d : Disk) (name : String) : Except SettingsError (List (String × Value)) := do
  let some (p, format) := fileOf d name | pure []
  let some text := textAt? d p | pure []
  return Value.entriesGivenAt (displayName d p) (← format.read text)

/-- Loads the settings from the file of a name and the environment. -/
def load (d : Disk) (name : String) (environment : List (String × String)) :
    Except SettingsError Settings := do
  let file ← givenByFile d name
  match Value.emptyTable.setAll (file ++ Environment.given environment) with
  | some v => ofValue v
  | none => throw .beforeFirst

end FileServer.Settings
