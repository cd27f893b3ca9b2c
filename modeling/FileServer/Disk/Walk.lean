import FileServer.Disk.Error
import FileServer.Disk.Tree

/-!
Following a path through the tree. Every name on the way is looked up in the directory reached so
far; symbolic links are replaced by what they point to, at most forty of them on one path. The place
that is reached in the end is described by names alone, without links or dots.
-/

namespace FileServer.Disk

/-- The number of links that one path may lead through. -/
def linkLimit : Nat := 40

/-- The length of the longest name, in bytes. -/
def nameLimit : Nat := 255

/-- The length that a path has to stay below, in bytes. -/
def pathLimit : Nat := 4096

/-- Where a path ends: at something that exists, or at a free name in an existing directory. -/
inductive Spot where
  | taken (place : Location) (node : Node)
  | free (place : Location)
  deriving Repr, DecidableEq

/-- What is left to do on a path: the names to come, and whether the last has to be a directory. -/
structure Rest where
  names : List Name
  endsInSlash : Bool
  deriving Repr, DecidableEq

/-- The way a path describes. -/
def Rest.ofPath (p : Path) : Rest := ⟨p.names, p.endsInSlash⟩

/-- The directory in which a path begins. -/
def start (p : Path) (current : Location) : Location := if p.isAbsolute then [] else current

/-- What remains after a link to `target` has been met with `rest` still to come. -/
def Rest.through (target : Path) (rest : List Name) (endsInSlash : Bool) : Rest :=
  ⟨target.names ++ rest, endsInSlash || (rest.isEmpty && target.endsInSlash)⟩

/-- Whether names may be looked up at a place. -/
def checkEnter (d : Disk) (place : Location) : Except Error Unit :=
  match d.node? place with
  | some (.directory access) => if access.enter then pure () else throw .denied
  | some _ => throw .notADirectory
  | none => throw .missing

/-- The end of a path that has led to a node. -/
def arrive (place : Location) (node : Node) (endsInSlash : Bool) : Except Error Spot :=
  if endsInSlash && !node.isDirectory then throw .notADirectory else pure (.taken place node)

/-- Walks on from a place until the path ends or a link has to be followed. A link in last position
is followed if `through` says so; `follow` goes on from there. -/
def advance (d : Disk) (through : Bool) (follow : Location → Rest → Except Error Spot)
    (endsInSlash : Bool) (place : Location) : List Name → Except Error Spot
  | [] =>
    match d.node? place with
    | some node => arrive place node endsInSlash
    | none => throw .missing
  | name :: rest => do
    d.checkEnter place
    if name = Name.here then advance d through follow endsInSlash place rest
    else if name = Name.parent then advance d through follow endsInSlash place.dropLast rest
    else if nameLimit < name.length then throw .nameTooLong
    else
      let next := place ++ [name]
      match d.node? next with
      | none => if rest.isEmpty then pure (.free next) else throw .missing
      | some (.link target) =>
        if rest.isEmpty && !through then pure (.taken next (.link target))
        else if target.bytes.isEmpty then throw .missing
        else follow (start target place) (.through target rest endsInSlash)
      | some _ => advance d through follow endsInSlash next rest

/-- Walks from a place to the end of a path through at most `links` links. -/
def walk (d : Disk) (through : Bool) : Nat → Location → Rest → Except Error Spot
  | 0, place, rest =>
    advance d through (fun _ _ => throw .tooManyLinks) rest.endsInSlash place rest.names
  | links + 1, place, rest =>
    advance d through (walk d through links) rest.endsInSlash place rest.names

/-- Where a path ends. With `through`, a link in last position is followed. -/
def find (d : Disk) (through : Bool) (p : Path) : Except Error Spot :=
  if p.bytes.contains 0 then throw .holdsNul
  else if p.bytes.isEmpty then throw .missing
  else d.walk through linkLimit (start p d.current) (.ofPath p)

/-- Walks from a place to where a file is or may be made. A slash at the end, of the path itself or of
a link in last position, asks for a directory, and then the last name is not looked up. -/
def walkToFile (d : Disk) : Nat → Location → Rest → Except Error Spot
  | links, place, ⟨names, true⟩ => do
    let _ ← d.walk false links place ⟨names, false⟩
    throw .isADirectory
  | 0, place, ⟨names, false⟩ => d.advance true (fun _ _ => throw .tooManyLinks) false place names
  | links + 1, place, ⟨names, false⟩ => d.advance true (walkToFile d links) false place names

/-- Where the file at the end of a path is or may be made, links in last position followed. -/
def findFile (d : Disk) (p : Path) : Except Error Spot :=
  if p.bytes.contains 0 then throw .holdsNul
  else if p.bytes.isEmpty then throw .missing
  else d.walkToFile linkLimit (start p d.current) (.ofPath p)

/-- The place where a path ends and what stands there, all links followed. -/
def locate (d : Disk) (p : Path) : Except Error (Location × Node) := do
  match ← d.find true p with
  | .taken place node => pure (place, node)
  | .free _ => throw .missing

/-- The place that a path leads to, free of links and dots. -/
def canonical (d : Disk) (p : Path) : Except Error Location := do
  return (← d.locate p).1

/-- Refuses a path that is too long to be handed over as a whole. -/
def checkLength (p : Path) : Except Error Unit :=
  if pathLimit ≤ p.bytes.length then throw .nameTooLong else pure ()

/-- What stands at the end of a path, all links followed. -/
def stat (d : Disk) (p : Path) : Except Error Node := do
  if p.bytes.contains 0 then throw .holdsNul
  checkLength p
  return (← d.locate p).2

/-- Whether a path leads to a directory. -/
def isDirectory (d : Disk) (p : Path) : Bool :=
  match d.stat p with
  | .ok node => node.isDirectory
  | .error _ => false

/-- Whether a path leads to a regular file. -/
def isFile (d : Disk) (p : Path) : Bool :=
  match d.stat p with
  | .ok node => node.isFile
  | .error _ => false

/-- The content of the file at the end of a path and the time of its last change. -/
def read (d : Disk) (p : Path) : Except Error (Bytes × Instant) := do
  match ← d.stat p with
  | .file content modified access => if access.read then pure (content, modified) else throw .denied
  | .directory access => throw (if access.read then .isADirectory else .denied)
  | .link _ => throw .tooManyLinks

/-- One entry of a directory: its name, and what stands there, links not followed. -/
abbrev DirectoryEntry := Name × Node

/-- The entries of the directory at the end of a path. -/
def list (d : Disk) (p : Path) : Except Error (List DirectoryEntry) := do
  if p.bytes.contains 0 then throw .holdsNul
  checkLength p
  match ← d.locate p with
  | (place, .directory access) => if access.read then pure (d.entriesOf place) else throw .denied
  | _ => throw .notADirectory

end FileServer.Disk
