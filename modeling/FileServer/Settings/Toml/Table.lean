import FileServer.Settings.Value

/-!
How tables grow in TOML. A table is defined once, by a header, by dotted keys, or inside braces;
what a header or a dotted key goes through on its way is made and may be defined later.
-/

namespace FileServer.Toml

/-- What a name stands for while a text is read: a finished value, a table that is still growing, or
a list of tables of which the last is growing. A table made on the way to another one is implicit;
one made by a dotted key is dotted. -/
inductive Item where
  | value (v : Value)
  | table (isImplicit isDotted : Bool) (entries : List (String × Item))
  | tables (each : List (List (String × Item)))
  deriving Inhabited

/-- The entries of a table. -/
abbrev Entries := List (String × Item)

/-- Puts an item under a name, in the place of the one that stood there. -/
def putItem (name : String) (item : Item) : Entries → Entries
  | [] => [(name, item)]
  | e :: rest => if e.1 = name then (name, item) :: rest else e :: putItem name item rest

/-- Changes the table at the end of a path, making the tables on the way that are missing. A dotted
key does not enter a table that was defined by a header. The change is told whether the table is a
dotted one. -/
def changeAt {α : Type} (byDottedKey : Bool) (change : Bool → Entries → Option (α × Entries)) :
    List String → Bool → Entries → Option (α × Entries)
  | [], isDotted, entries => change isDotted entries
  | name :: path, _, entries =>
    match entries.lookup name with
    | none => do
      let (a, new) ← changeAt byDottedKey change path byDottedKey []
      some (a, putItem name (.table true byDottedKey new) entries)
    | some (.value _) => none
    | some (.table isImplicit isDotted inner) => do
      guard (!byDottedKey || isImplicit)
      let (a, new) ← changeAt byDottedKey change path isDotted inner
      some (a, putItem name (.table isImplicit isDotted new) entries)
    | some (.tables each) => do
      let (a, new) ← changeAt byDottedKey change path false (each.getLast?.getD [])
      some (a, putItem name (.tables (each.dropLast ++ [new])) entries)

/-- Adds a value under a key, which must be free. -/
def addPair (path : List String) (name : String) (v : Value) (entries : Entries) :
    Option Entries := do
  let add (isDotted : Bool) (table : Entries) : Option (Unit × Entries) :=
    if isDotted == path.isEmpty || (table.lookup name).isSome then none
    else some ((), table ++ [(name, .value v)])
  return (← changeAt true add path false entries).2

/-- A text that has been read in part: the tables that are finished, and the growing one with the
header under which it stands. -/
structure Draft where
  done : Entries := []
  current : Entries := []
  path : Option (List String × String) := none
  inList : Bool := false
  deriving Inhabited

namespace Draft

/-- Puts the growing table in its place. -/
def finish (d : Draft) : Option Entries :=
  match d.path with
  | none => some d.current
  | some (path, name) => do
    let place (_ : Bool) (parent : Entries) : Option (Unit × Entries) :=
      if d.inList then
        match parent.lookup name with
        | some (.tables each) => some ((), putItem name (.tables (each ++ [d.current])) parent)
        | none => some ((), putItem name (.tables [d.current]) parent)
        | _ => none
      else some ((), putItem name (.table false false d.current) parent)
    return (← changeAt false place path false d.done).2

/-- Starts the table of a header. A table of that name may have been gone through, but not been
defined. -/
def startTable (d : Draft) (path : List String) (name : String) : Option Draft := do
  let done ← d.finish
  let take (_ : Bool) (parent : Entries) : Option (Entries × Entries) :=
    match parent.lookup name with
    | none => some ([], parent)
    | some (.table true false inner) => some (inner, parent.filter (·.1 != name))
    | _ => none
  let (current, done) ← changeAt false take path false done
  return { done, current, path := some (path, name), inList := false }

/-- Starts one more table of a list. -/
def startListed (d : Draft) (path : List String) (name : String) : Option Draft := do
  let done ← d.finish
  let check (_ : Bool) (parent : Entries) : Option (Unit × Entries) :=
    match parent.lookup name with
    | none => some ((), parent)
    | some (.tables _) => some ((), parent)
    | _ => none
  let (_, done) ← changeAt false check path false done
  return { done, current := [], path := some (path, name), inList := true }

/-- Adds a value to the growing table. -/
def add (d : Draft) (path : List String) (name : String) (v : Value) : Option Draft := do
  return { d with current := ← addPair path name v d.current }

end Draft

mutual

/-- The value that an item has in the end. -/
def Item.toValue : Item → Value
  | .value v => v
  | .table _ _ entries => .table none (entryValues entries)
  | .tables each => .sequence none (tableValues each)

/-- The values that the entries of a table have in the end. -/
def entryValues : List (String × Item) → List (String × Value)
  | [] => []
  | (name, item) :: rest => (name, item.toValue) :: entryValues rest

/-- The values that the tables of a list have in the end. -/
def tableValues : List (List (String × Item)) → List Value
  | [] => []
  | entries :: rest => .table none (entryValues entries) :: tableValues rest

end

end FileServer.Toml
