import FileServer.Proofs.Places

/-!
Trees that grow. Directories and empty files are made where nothing stood, and bytes are added to
files. Whatever stood at a place stands there still, so a path that led to a place leads there in
the grown tree, and a path that led to a free place leads to the file that has been made at it.

    makeParents ──▶ openForWriting ──▶ append ──▶ append ──▶ …
    └─ nothing with content is new ─┘  └─ the outlines stay ─┘
-/

namespace FileServer

/-- What stays of a node when a file is written to: all but the content of the file and the time of
its last change. -/
def Node.outline : Node → Node
  | .file _ _ access => .file [] ⟨0, 0⟩ access
  | node => node

/-- The content of a file; other nodes have none. -/
def Node.content : Node → Bytes
  | .file content .. => content
  | _ => []

namespace Node

theorem isDirectory_outline (node : Node) : node.outline.isDirectory = node.isDirectory := by
  cases node <;> rfl

theorem eq_directory_of_outline {node : Node} {access : Access}
    (h : node.outline = (directory access).outline) : node = .directory access := by
  cases node <;> cases h
  rfl

theorem eq_link_of_outline {node : Node} {target : Path}
    (h : node.outline = (link target).outline) : node = .link target := by
  cases node <;> cases h
  rfl

theorem exists_file_of_outline {node : Node} {content : Bytes} {modified : Instant}
    {access : Access} (h : node.outline = (file content modified access).outline) :
    ∃ content modified, node = .file content modified access := by
  cases node <;> cases h
  exact ⟨_, _, rfl⟩

end Node

namespace Disk

/-- The place where a path ends. -/
def Spot.place : Spot → Location
  | taken place _ => place
  | free place => place

/-- What stands where a path ends. -/
def Spot.node? : Spot → Option Node
  | taken _ node => some node
  | free _ => none

/-- The content of the file at a place; a place without a file has none. -/
def contentAt (d : Disk) (place : Location) : Bytes := ((d.node? place).map Node.content).getD []

/-- A file stands at a place. -/
def HoldsFile (d : Disk) (place : Location) : Prop :=
  ∃ content modified access, d.node? place = some (.file content modified access)

/-- Whatever stood at a place stands there still, files perhaps with other content. -/
structure Lasts (d d' : Disk) : Prop where
  current : d'.current = d.current
  node : ∀ place node, d.node? place = some node →
    ∃ node', d'.node? place = some node' ∧ node'.outline = node.outline

/-- Whatever stood at a place stands there unchanged, and what is new has no content. -/
structure Grows (d d' : Disk) : Prop where
  current : d'.current = d.current
  node : ∀ place node, d.node? place = some node → d'.node? place = some node
  content : ∀ place, d'.contentAt place = d.contentAt place

variable {d d' d'' : Disk} {place q : Location} {node node' : Node} {p : Path}

/-! ### Grown trees -/

theorem Lasts.refl (d : Disk) : d.Lasts d := ⟨rfl, fun _ node h => ⟨node, h, rfl⟩⟩

theorem Lasts.trans (h : d.Lasts d') (h' : d'.Lasts d'') : d.Lasts d'' := by
  refine ⟨h'.current.trans h.current, fun place node hnode => ?_⟩
  obtain ⟨node', hnode', houtline'⟩ := h.node place node hnode
  obtain ⟨node'', hnode'', houtline''⟩ := h'.node place node' hnode'
  exact ⟨node'', hnode'', houtline''.trans houtline'⟩

theorem Grows.refl (d : Disk) : d.Grows d := ⟨rfl, fun _ _ h => h, fun _ => rfl⟩

theorem Grows.trans (h : d.Grows d') (h' : d'.Grows d'') : d.Grows d'' where
  current := h'.current.trans h.current
  node place node hnode := h'.node place node (h.node place node hnode)
  content place := (h'.content place).trans (h.content place)

theorem Grows.lasts (h : d.Grows d') : d.Lasts d' :=
  ⟨h.current, fun place node hnode => ⟨node, h.node place node hnode, rfl⟩⟩

theorem HoldsFile.of_lasts (h : d.HoldsFile place) (hlasts : d.Lasts d') :
    d'.HoldsFile place := by
  obtain ⟨content, modified, access, hnode⟩ := h
  obtain ⟨node', hnode', houtline⟩ := hlasts.node place _ hnode
  obtain ⟨content', modified', rfl⟩ := Node.exists_file_of_outline houtline
  exact ⟨content', modified', access, hnode'⟩

theorem lookup_putIn (place : Location) (node : Node) (l : List (Location × Node)) :
    (putIn place node l).lookup q = if q = place then some node else l.lookup q := by
  induction l with
  | nil => by_cases hq : q = place <;> simp [putIn, List.lookup_cons, hq, beq_false_of_ne]
  | cons e rest ih =>
    obtain ⟨place', node'⟩ := e
    by_cases hplace : place' = place
    · by_cases hq : q = place <;> simp [putIn, List.lookup_cons, hplace, hq, beq_false_of_ne]
    · by_cases hq : q = place'
      · have hne : q ≠ place := fun h => hplace (hq.symm.trans h)
        simp [putIn, hplace, hq]
      · have hbeq : (q == place') = false := beq_false_of_ne hq
        simp [putIn, List.lookup_cons, hplace, hbeq, ih]

/-- What stands where after something has been put at a place. -/
theorem node?_put (hne : place ≠ []) (node : Node) :
    (d.put place node).node? q = if q = place then some node else d.node? q := by
  cases q with
  | nil =>
    rw [if_neg (Ne.symm hne)]
    rfl
  | cons name rest => exact lookup_putIn place node d.entries

theorem ne_nil_of_free (h : d.node? place = none) : place ≠ [] := by
  rintro rfl
  cases h

theorem HoldsFile.ne_nil (h : d.HoldsFile place) : place ≠ [] := by
  rintro rfl
  obtain ⟨content, modified, access, hnode⟩ := h
  cases hnode

/-- A tree grows by a node without content at a free place. -/
theorem grows_put (hfree : d.node? place = none) (hempty : node.content = []) :
    d.Grows (d.put place node) := by
  have hne := ne_nil_of_free hfree
  have hother : ∀ q, q ≠ place → (d.put place node).node? q = d.node? q := fun q hq => by
    rw [node?_put hne, if_neg hq]
  refine ⟨rfl, fun q node' hnode' => ?_, fun q => ?_⟩
  · rw [hother q, hnode']
    rintro rfl
    rw [hfree] at hnode'
    cases hnode'
  · by_cases hq : q = place
    · rw [hq, contentAt, contentAt, node?_put hne, if_pos rfl, hfree, Option.map_some, hempty]
      rfl
    · rw [contentAt, contentAt, hother q hq]

/-! ### Where walks end -/

variable {through endsInSlash : Bool} {follow follow' : Location → Rest → Except Error Spot}
  {spot : Spot} {name : Name} {names : List Name}

/-- A name that is looked up in a directory: it is not made of dots and not too long. -/
structure IsLookedUp (name : Name) : Prop where
  here : name ≠ Name.here
  parent : name ≠ Name.parent
  length : ¬ nameLimit < name.length

/-- The ways in which a walk goes on by a name and comes to its end. -/
inductive Way (d : Disk) (through : Bool) (follow : Location → Rest → Except Error Spot)
    (endsInSlash : Bool) (place : Location) (name : Name) (rest : List Name) (spot : Spot) : Prop
  | stays (hname : name = Name.here)
      (hrest : d.advance through follow endsInSlash place rest = .ok spot)
  | up (hname : name = Name.parent)
      (hrest : d.advance through follow endsInSlash place.dropLast rest = .ok spot)
  | free (hname : IsLookedUp name) (hnode : d.node? (place ++ [name]) = none) (hlast : rest = [])
      (hspot : spot = .free (place ++ [name]))
  | halts {target : Path} (hname : IsLookedUp name)
      (hnode : d.node? (place ++ [name]) = some (.link target))
      (hlast : (rest.isEmpty && !through) = true)
      (hspot : spot = .taken (place ++ [name]) (.link target))
  | follows {target : Path} (hname : IsLookedUp name)
      (hnode : d.node? (place ++ [name]) = some (.link target))
      (hlast : (rest.isEmpty && !through) = false) (htarget : ¬ target.bytes.isEmpty)
      (hrest : follow (start target place) (.through target rest endsInSlash) = .ok spot)
  | down {node : Node} (hname : IsLookedUp name) (hnode : d.node? (place ++ [name]) = some node)
      (hlink : ∀ target, node ≠ .link target)
      (hrest : d.advance through follow endsInSlash (place ++ [name]) rest = .ok spot)

/-- Every walk that goes on by a name and comes to its end goes in one of the ways. -/
theorem way_of_advance (h : d.advance through follow endsInSlash place (name :: names) = .ok spot) :
    (∃ u, d.checkEnter place = .ok u) ∧
      d.Way through follow endsInSlash place name names spot := by
  rw [advance] at h
  obtain ⟨u, henter, h⟩ := bind_eq_ok_iff.1 h
  refine ⟨⟨u, henter⟩, ?_⟩
  split at h
  case isTrue hhere => exact .stays hhere h
  case isFalse hhere =>
    split at h
    case isTrue hparent => exact .up hparent h
    case isFalse hparent =>
      split at h
      case isTrue => cases h
      case isFalse hlength =>
        have hname : IsLookedUp name := ⟨hhere, hparent, hlength⟩
        dsimp only at h
        split at h
        case h_1 hnode =>
          split at h
          case isTrue hlast =>
            cases h
            exact .free hname hnode (List.isEmpty_iff.1 hlast) rfl
          case isFalse => cases h
        case h_2 target hnode =>
          split at h
          case isTrue hlast =>
            cases h
            exact .halts hname hnode hlast rfl
          case isFalse hlast =>
            split at h
            case isTrue => cases h
            case isFalse htarget =>
              exact .follows hname hnode (Bool.not_eq_true _ ▸ hlast) htarget h
        case h_3 node hlink hnode => exact .down hname hnode hlink h

/-- Conversely a walk that may go in one of the ways comes to that end. -/
theorem Way.advance {u : Unit} (henter : d.checkEnter place = .ok u)
    (h : d.Way through follow endsInSlash place name names spot) :
    d.advance through follow endsInSlash place (name :: names) = .ok spot := by
  rw [Disk.advance, henter, ok_bind]
  cases h with
  | stays hname hrest => rw [if_pos hname, hrest]
  | up hname hrest =>
    have hhere : name ≠ Name.here := hname ▸ (by decide)
    rw [if_neg hhere, if_pos hname, hrest]
  | free hname hnode hlast hspot =>
    rw [if_neg hname.here, if_neg hname.parent, if_neg hname.length, hspot, hlast]
    dsimp only
    rw [hnode]
    rfl
  | halts hname hnode hlast hspot =>
    rw [if_neg hname.here, if_neg hname.parent, if_neg hname.length, hspot]
    dsimp only
    rw [hnode]
    exact if_pos hlast
  | follows hname hnode hlast htarget hrest =>
    rw [if_neg hname.here, if_neg hname.parent, if_neg hname.length]
    dsimp only
    rw [hnode]
    dsimp only
    rw [hlast, if_neg Bool.false_ne_true, if_neg htarget, hrest]
  | @down node hname hnode hlink hrest =>
    rw [if_neg hname.here, if_neg hname.parent, if_neg hname.length]
    dsimp only
    rw [hnode]
    cases node with
    | link target => exact absurd rfl (hlink target)
    | file content modified access => exact hrest
    | directory access => exact hrest

/-- A walk tells what stands where it ends. -/
theorem node?_of_advance (hfollow : ∀ {place rest}, follow place rest = .ok spot →
      d.node? spot.place = spot.node?) :
    ∀ {names : List Name} {place : Location},
      d.advance through follow endsInSlash place names = .ok spot → d.node? spot.place = spot.node?
  | [], place, h => by
    rw [advance] at h
    split at h
    case h_1 node hnode =>
      unfold arrive at h
      split at h
      · cases h
      · cases h
        exact hnode
    case h_2 => cases h
  | name :: rest, place, h => by
    cases (way_of_advance h).2 with
    | stays hname hrest => exact node?_of_advance hfollow hrest
    | up hname hrest => exact node?_of_advance hfollow hrest
    | free hname hnode hlast hspot => exact hspot ▸ hnode
    | halts hname hnode hlast hspot => exact hspot ▸ hnode
    | follows hname hnode hlast htarget hrest => exact hfollow hrest
    | down hname hnode hlink hrest => exact node?_of_advance hfollow hrest

theorem node?_of_walk : ∀ {links : Nat} {place : Location} {rest : Rest},
    d.walk through links place rest = .ok spot → d.node? spot.place = spot.node?
  | 0, _, _, h => node?_of_advance (by nofun) h
  | _ + 1, _, _, h => node?_of_advance node?_of_walk h

theorem node?_of_find (h : d.find through p = .ok spot) : d.node? spot.place = spot.node? :=
  node?_of_walk (find_eq_ok_iff.1 h).2

theorem node?_of_walkToFile : ∀ {links : Nat} {place : Location} {rest : Rest},
    d.walkToFile links place rest = .ok spot → d.node? spot.place = spot.node?
  | _, _, ⟨_, true⟩, h => by
    rw [walkToFile] at h
    obtain ⟨_, -, hthrow⟩ := bind_eq_ok_iff.1 h
    cases hthrow
  | 0, _, ⟨_, false⟩, h => node?_of_advance (by nofun) h
  | _ + 1, _, ⟨_, false⟩, h => node?_of_advance node?_of_walkToFile h

theorem findFile_eq_ok_iff : d.findFile p = .ok spot ↔
    (¬ p.bytes.contains 0 ∧ ¬ p.bytes.isEmpty) ∧
      d.walkToFile linkLimit (start p d.current) (.ofPath p) = .ok spot := by
  rw [findFile, ite_throw_eq_ok_iff, ite_throw_eq_ok_iff, and_assoc]

theorem node?_of_findFile (h : d.findFile p = .ok spot) : d.node? spot.place = spot.node? :=
  node?_of_walkToFile (findFile_eq_ok_iff.1 h).2

/-! ### Walking through a grown tree -/

theorem Lasts.checkEnter {u : Unit} (h : d.Lasts d') (henter : d.checkEnter place = .ok u) :
    d'.checkEnter place = .ok u := by
  unfold Disk.checkEnter at henter
  split at henter
  case h_1 access hnode =>
    obtain ⟨node', hnode', houtline⟩ := h.node place _ hnode
    rw [Node.eq_directory_of_outline houtline] at hnode'
    rw [Disk.checkEnter, hnode']
    exact henter
  all_goals cases henter

/-- A path without names ends where it began, unless it asks for a directory and there is none. -/
theorem advance_nil (hnode : d.node? place = some node)
    (hslash : (endsInSlash && !node.isDirectory) = false) :
    d.advance through follow endsInSlash place [] = .ok (.taken place node) := by
  rw [advance, hnode]
  dsimp only
  rw [arrive, hslash]
  rfl

/-- Where a walk ends, the walk along the same names in the grown tree ends, at what stands there
now. A place that was free has to hold something that is no link then, and the path must not ask for
a directory. -/
theorem Lasts.advance (h : d.Lasts d') (hnode : d'.node? spot.place = some node)
    (hfree : ∀ place, spot = .free place → endsInSlash = false ∧ ∀ target, node ≠ .link target)
    (hfollow : ∀ {place rest}, follow place rest = .ok spot →
      follow' place rest = .ok (.taken spot.place node)) :
    ∀ {names : List Name} {place : Location},
      d.advance true follow endsInSlash place names = .ok spot →
      d'.advance true follow' endsInSlash place names = .ok (.taken spot.place node)
  | [], place, hwalk => by
    rw [Disk.advance] at hwalk
    split at hwalk
    case h_1 old hold =>
      obtain ⟨node', hnode', houtline⟩ := h.node place old hold
      unfold arrive at hwalk
      split at hwalk
      case isTrue => cases hwalk
      case isFalse hslash =>
        cases hwalk
        have hnow : node' = node := Option.some.inj (hnode'.symm.trans hnode)
        rw [← Node.isDirectory_outline, ← houtline, Node.isDirectory_outline, hnow] at hslash
        exact advance_nil hnode (Bool.not_eq_true _ ▸ hslash)
    case h_2 => cases hwalk
  | name :: rest, place, hwalk => by
    have ih : ∀ {place}, d.advance true follow endsInSlash place rest = .ok spot →
        d'.advance true follow' endsInSlash place rest = .ok (.taken spot.place node) :=
      h.advance hnode hfree hfollow
    obtain ⟨⟨u, henter⟩, hway⟩ := way_of_advance hwalk
    refine Way.advance (h.checkEnter henter) ?_
    cases hway with
    | stays hname hrest => exact .stays hname (ih hrest)
    | up hname hrest => exact .up hname (ih hrest)
    | free hname hnone hlast hspot =>
      obtain ⟨hslash, hlink⟩ := hfree _ hspot
      subst hspot hlast
      exact .down hname hnode hlink (advance_nil hnode (by rw [hslash, Bool.false_and]))
    | halts hname hold hlast hspot =>
      rw [Bool.not_true, Bool.and_false] at hlast
      cases hlast
    | follows hname hold hlast htarget hrest =>
      obtain ⟨node', hnode', houtline⟩ := h.node _ _ hold
      rw [Node.eq_link_of_outline houtline] at hnode'
      exact .follows hname hnode' hlast htarget (hfollow hrest)
    | down hname hold hlink hrest =>
      obtain ⟨node', hnode', houtline⟩ := h.node _ _ hold
      refine .down hname hnode' (fun target heq => ?_) (ih hrest)
      rw [heq] at houtline
      exact hlink target (Node.eq_link_of_outline houtline.symm)

theorem Lasts.walk (h : d.Lasts d') (hnode : d'.node? spot.place = some node)
    (htaken : ∀ place, spot ≠ .free place) : ∀ (links : Nat) {place : Location} {rest : Rest},
      d.walk true links place rest = .ok spot →
      d'.walk true links place rest = .ok (.taken spot.place node)
  | 0, _, _, hwalk => h.advance hnode (fun _ hspot => absurd hspot (htaken _)) (by nofun) hwalk
  | links + 1, _, _, hwalk =>
    h.advance hnode (fun _ hspot => absurd hspot (htaken _)) (h.walk hnode htaken links) hwalk

/-- Where a file may be made, the walk ends in a grown tree in which it has been made. -/
theorem Lasts.walk_of_walkToFile (h : d.Lasts d') (hnode : d'.node? spot.place = some node)
    (hlink : ∀ target, node ≠ .link target) :
    ∀ (links : Nat) {place : Location} {rest : Rest},
      d.walkToFile links place rest = .ok spot →
      d'.walk true links place rest = .ok (.taken spot.place node)
  | links, place, ⟨names, true⟩, hwalk => by
    rw [walkToFile] at hwalk
    obtain ⟨_, -, hthrow⟩ := bind_eq_ok_iff.1 hwalk
    cases hthrow
  | 0, _, ⟨_, false⟩, hwalk => h.advance hnode (fun _ _ => ⟨rfl, hlink⟩) (by nofun) hwalk
  | links + 1, _, ⟨_, false⟩, hwalk =>
    h.advance hnode (fun _ _ => ⟨rfl, hlink⟩) (h.walk_of_walkToFile hnode hlink links) hwalk

/-- A path leads where it has led before. -/
theorem Lasts.locate (h : d.Lasts d') (hlocate : d.locate p = .ok (place, node)) :
    ∃ node', d'.locate p = .ok (place, node') ∧ node'.outline = node.outline := by
  have hfind := locate_eq_ok_iff.1 hlocate
  obtain ⟨hpath, hwalk⟩ := find_eq_ok_iff.1 hfind
  obtain ⟨node', hnode', houtline⟩ := h.node place node (node?_of_find hfind)
  have hthere : d'.node? (Spot.taken place node).place = some node' := hnode'
  have hwalk' := h.walk hthere (by nofun) linkLimit hwalk
  rw [← h.current] at hwalk'
  exact ⟨node', locate_eq_ok_iff.2 (find_eq_ok_iff.2 ⟨hpath, hwalk'⟩), houtline⟩

/-- A path leads to the file that has been made where it led. -/
theorem Lasts.locate_of_findFile (h : d.Lasts d') (hfind : d.findFile p = .ok spot)
    (hnode : d'.node? spot.place = some node) (hlink : ∀ target, node ≠ .link target) :
    d'.locate p = .ok (spot.place, node) := by
  obtain ⟨hpath, hwalk⟩ := findFile_eq_ok_iff.1 hfind
  rw [← h.current] at hwalk
  exact locate_eq_ok_iff.2
    (find_eq_ok_iff.2 ⟨hpath, h.walk_of_walkToFile hnode hlink linkLimit hwalk⟩)

/-! ### Paths to files -/

/-- A path leads to a file at a place. -/
def LeadsToFile (d : Disk) (p : Path) (place : Location) : Prop :=
  ∃ content modified access, d.locate p = .ok (place, .file content modified access)

theorem LeadsToFile.of_lasts (h : d.LeadsToFile p place) (hlasts : d.Lasts d') :
    d'.LeadsToFile p place := by
  obtain ⟨content, modified, access, hlocate⟩ := h
  obtain ⟨node', hlocate', houtline⟩ := hlasts.locate hlocate
  obtain ⟨content', modified', rfl⟩ := Node.exists_file_of_outline houtline
  exact ⟨content', modified', access, hlocate'⟩

theorem node?_of_locate (h : d.locate p = .ok (place, node)) : d.node? place = some node :=
  node?_of_find (locate_eq_ok_iff.1 h)

theorem Grows.locate (h : d.Grows d') (hlocate : d.locate p = .ok (place, node)) :
    d'.locate p = .ok (place, node) := by
  obtain ⟨node', hlocate', -⟩ := h.lasts.locate hlocate
  have hnow := h.node place node (node?_of_locate hlocate)
  rw [node?_of_locate hlocate'] at hnow
  rw [hlocate', Option.some.inj hnow]

theorem LeadsToFile.holdsFile (h : d.LeadsToFile p place) : d.HoldsFile place := by
  obtain ⟨content, modified, access, hlocate⟩ := h
  exact ⟨_, _, _, node?_of_locate hlocate⟩

/-- What is found at the end of the path is the content at the place. -/
theorem LeadsToFile.locate (h : d.LeadsToFile p place) :
    ∃ modified access, d.locate p = .ok (place, .file (d.contentAt place) modified access) := by
  obtain ⟨content, modified, access, hlocate⟩ := h
  rw [contentAt, node?_of_locate hlocate]
  exact ⟨modified, access, hlocate⟩

theorem LeadsToFile.canonical_eq_ok_iff (h : d.LeadsToFile p place) :
    d.canonical p = .ok q ↔ q = place := by
  obtain ⟨content, modified, access, hlocate⟩ := h
  rw [canonical, hlocate, ok_bind]
  exact ⟨fun heq => (Except.ok.inj heq).symm, fun heq => heq ▸ rfl⟩

end Disk

end FileServer
