import FileServer.Disk.Walk

/-!
Changes to the tree of files. A change that fails half-way leaves what it has done so far, so a
failure comes with the tree as it is then.
-/

namespace FileServer.Disk

/-- A change of the tree that gives a value or is refused. -/
abbrev Edit (α : Type) := ExceptT Error (StateM Disk) α

namespace Edit

/-- Asks something of the tree as it is. -/
def ask {α : Type} (question : Disk → Except Error α) : Edit α := do
  match question (← get) with
  | .ok a => pure a
  | .error e => throw e

/-- Makes one directory. -/
def makeDirectory (p : Path) : Edit Unit := do
  ask fun _ => checkLength p
  match ← ask (·.find false p) with
  | .free place => modify (·.put place (.directory {}))
  | .taken .. => throw .alreadyThere

/-- Tries to make one directory; an existing one is as good, and so is a link to one. -/
def ensureDirectory (p : Path) : Edit Unit := do
  try makeDirectory p
  catch e => if (← get).isDirectory p then pure () else throw e

/-- Makes the directories on the way through the names, given from the last to the first, from the
top or from the current directory. -/
def makeDirectories (fromTop : Bool) : List Name → Edit Unit
  | [] => pure ()
  | name :: above => do
    let p := if fromTop then Path.absolute (name :: above).reverse
      else ⟨Path.joinNames (name :: above).reverse⟩
    try makeDirectory p
    catch
      | .missing => do
        makeDirectories fromTop above
        ensureDirectory p
      | e => if (← get).isDirectory p then pure () else throw e

/-- Makes the directory at a path and those above it, as far as they are missing. -/
def makePath (p : Path) : Edit Unit := makeDirectories p.isAbsolute p.names.reverse

/-- Makes the directories above the last name of a path. -/
def makeParents (p : Path) : Edit Unit :=
  makeDirectories p.isAbsolute p.properNames.dropLast.reverse

/-- The place of the file at the end of a path, which is made with no content if the name is
free. -/
def openForWriting (p : Path) (now : Instant) : Edit Location := do
  ask fun _ => checkLength p
  match ← ask (·.findFile p) with
  | .free place =>
    modify (·.put place (.file [] now {}))
    pure place
  | .taken place (.file ..) => pure place
  | .taken .. => throw .isADirectory

/-- Adds bytes at the end of the file at a place. -/
def append (place : Location) (bytes : Bytes) (now : Instant) : Edit Unit := do
  match (← get).node? place with
  | some (.file content _ access) => modify (·.put place (.file (content ++ bytes) now access))
  | _ => throw .missing

/-- Makes a file with the given content, or gives it to an existing one, and makes the directories
above it. -/
def writeFile (p : Path) (content : Bytes) (modified : Instant) : Edit Unit := do
  makeParents p
  let place ← openForWriting p modified
  modify (·.put place (.file content modified {}))

/-- Makes a symbolic link, and the directories above it. -/
def makeLink (p target : Path) : Edit Unit := do
  makeParents p
  if target.bytes.isEmpty then throw .missing
  match ← ask (·.find false p) with
  | .free place => modify (·.put place (.link target))
  | .taken .. => throw .alreadyThere

/-- Takes away what a path leads to, with everything below it; a link is taken away itself. -/
def remove (p : Path) : Edit Unit := do
  match ← ask (·.find false p) with
  | .free _ => throw .missing
  | .taken place _ => modify (·.removeAll place)

/-- Whether a node may stand where another one was. -/
def checkReplace (d : Disk) (source : Node) (place : Location) (old : Node) :
    Except Error Unit :=
  match source.isDirectory, old.isDirectory with
  | true, true => if (d.entriesOf place).isEmpty then pure () else throw .notEmpty
  | true, false => throw .notADirectory
  | false, true => throw .isADirectory
  | false, false => pure ()

/-- Gives what stands at one path the name of another one. -/
def rename (source target : Path) : Edit Unit := do
  match ← ask (·.find false source) with
  | .free _ => throw .missing
  | .taken place node =>
    match ← ask (·.find false target) with
    | .free goal =>
      if place.isPrefixOf goal then throw .intoItself
      modify (·.moveAll place goal)
    | .taken goal old =>
      if goal = place then pure ()
      else if place.isPrefixOf goal then throw .intoItself
      else
        ask (checkReplace · node goal old)
        modify fun d => (d.removeAll goal).moveAll place goal

end Edit

end FileServer.Disk
