import FileServer.Calendar.Instant
import FileServer.Disk.Path

/-!
The tree of files. Each place in it is known by the names that lead there from the top; what stands
at a place is a file, a directory or a symbolic link. The top is always a directory.
-/

namespace FileServer

/-- A place in the tree: the names that lead there from the top. -/
abbrev Location := List Name

/-- What a user without rights of their own may do with a file or directory. -/
structure Access where
  read : Bool := true
  enter : Bool := true
  deriving Repr, DecidableEq

/-- What stands at a place. -/
inductive Node where
  | file (content : Bytes) (modified : Instant) (access : Access)
  | directory (access : Access)
  | link (target : Path)
  deriving Repr, DecidableEq

namespace Node

/-- Whether it is a directory. -/
def isDirectory : Node → Bool
  | directory _ => true
  | _ => false

/-- Whether it is a regular file. -/
def isFile : Node → Bool
  | file .. => true
  | _ => false

/-- Whether it is a symbolic link. -/
def isLink : Node → Bool
  | link _ => true
  | _ => false

end Node

/-- The tree of files, and the directory in which relative paths begin. -/
structure Disk where
  entries : List (Location × Node) := []
  current : Location := []
  deriving Repr, DecidableEq

namespace Disk

/-- What stands at a place. -/
def node? (d : Disk) (place : Location) : Option Node :=
  if place.isEmpty then some (.directory {}) else d.entries.lookup place

/-- The last name of a place directly below `directory`. -/
def nameBelow? (directory place : Location) : Option Name :=
  if place.dropLast = directory then place.getLast? else none

/-- The entries of the directory at a place, with their names. -/
def entriesOf (d : Disk) (place : Location) : List (Name × Node) :=
  d.entries.filterMap fun (p, node) => (nameBelow? place p).map (·, node)

/-- Puts a node at a place, in the position of what stood there before. -/
def putIn (place : Location) (node : Node) : List (Location × Node) → List (Location × Node)
  | [] => [(place, node)]
  | e :: rest => if e.1 = place then (place, node) :: rest else e :: putIn place node rest

/-- Puts a node at a place. -/
def put (d : Disk) (place : Location) (node : Node) : Disk :=
  { d with entries := putIn place node d.entries }

/-- Takes away what stands at a place and everything below it. -/
def removeAll (d : Disk) (place : Location) : Disk :=
  { d with entries := d.entries.filter fun e => !place.isPrefixOf e.1 }

/-- Moves what stands at a place, with everything below it, to another place. -/
def moveAll (d : Disk) (source target : Location) : Disk :=
  { d with entries := d.entries.map fun e =>
      if source.isPrefixOf e.1 then (target ++ e.1.drop source.length, e.2) else e }

end Disk

end FileServer
