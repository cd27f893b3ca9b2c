import FileServer.Disk.Walk
import FileServer.Proofs.Paths
import FileServer.Proofs.Refusals

/-!
The place where a path ends, all links followed, is free of links: what stands above it are
directories with proper names, and it is no link itself. The invariant is carried along a walk, from
name to name and through every link that is followed.
-/

namespace FileServer.Disk

/-- A place is real if its names are proper, a directory stands at every place above it, and no link
stands at the place itself. -/
structure IsReal (d : Disk) (place : Location) : Prop where
  proper : ∀ name ∈ place, Name.IsProper name
  above : ∀ q, q <+: place → q ≠ place → ∃ access, d.node? q = some (.directory access)
  no_link : ∀ target, d.node? place ≠ some (.link target)

/-- A walk that ends at something ends at a real place, where that thing stands. -/
def EndsReal (d : Disk) (r : Except Error Spot) : Prop :=
  ∀ place node, r = .ok (.taken place node) → d.IsReal place ∧ d.node? place = some node

/-- What is left of a path holds no empty name and none with a slash. -/
def Rest.IsSplit (r : Rest) : Prop := ∀ name ∈ r.names, name ≠ [] ∧ slash ∉ name

variable {d : Disk} {p : Path} {place : Location} {node : Node} {name : Name}

/-! ### Real places -/

@[simp]
theorem node?_nil (d : Disk) : d.node? [] = some (.directory {}) := rfl

theorem isReal_nil (d : Disk) : d.IsReal [] where
  proper := by simp
  above q hq hne := absurd (List.prefix_nil.1 hq) hne
  no_link := by simp

/-- The place that holds a real place is real. -/
theorem IsReal.dropLast (h : d.IsReal place) : d.IsReal place.dropLast := by
  by_cases hnil : place = []
  · rw [hnil]
    exact isReal_nil d
  · have hlt : place.dropLast.length < place.length := by
      have := List.length_pos_iff.2 hnil
      rw [List.length_dropLast]
      omega
    have hshorter : ∀ q, q <+: place.dropLast → q ≠ place := by
      rintro q hq rfl
      exact absurd hq.length_le (by omega)
    refine ⟨fun name hname => h.proper name (List.dropLast_subset _ hname), ?_, ?_⟩
    · intro q hq _
      exact h.above q (hq.trans (List.dropLast_prefix place)) (hshorter q hq)
    · obtain ⟨access, hdir⟩ := h.above _ (List.dropLast_prefix place) (hshorter _ List.prefix_rfl)
      simp [hdir]

/-- A place with a proper name in a real directory is real if no link stands there. -/
theorem IsReal.concat {access : Access} (h : d.IsReal place)
    (hdir : d.node? place = some (.directory access)) (hname : Name.IsProper name)
    (hlink : ∀ target, d.node? (place ++ [name]) ≠ some (.link target)) :
    d.IsReal (place ++ [name]) where
  proper x hx := by
    rcases List.mem_append.1 hx with hx | hx
    · exact h.proper x hx
    · exact List.mem_singleton.1 hx ▸ hname
  above q hq hne := by
    rcases List.prefix_concat_iff.1 hq with rfl | hq
    · exact absurd rfl hne
    · by_cases heq : q = place
      · exact heq ▸ ⟨access, hdir⟩
      · exact h.above q hq heq
  no_link := hlink

/-! ### Walking -/

/-- Names may be looked up only where a directory stands. -/
theorem directory_of_checkEnter {u : Unit} (h : d.checkEnter place = .ok u) :
    ∃ access, d.node? place = some (.directory access) := by
  unfold checkEnter at h
  split at h
  case h_1 access hnode => exact ⟨access, hnode⟩
  all_goals cases h

theorem endsReal_error (e : Error) : d.EndsReal (.error e) := by
  intro place node h
  cases h

/-- A path that ends at a real place ends there. -/
theorem IsReal.endsReal_arrive {endsInSlash : Bool} (h : d.IsReal place)
    (hnode : d.node? place = some node) : d.EndsReal (arrive place node endsInSlash) := by
  intro place' node' hres
  unfold arrive at hres
  split at hres
  · cases hres
  · cases hres
    exact ⟨h, hnode⟩

/-- The names behind a link are those of its target and those that were still to come. -/
theorem Rest.isSplit_through {target : Path} {rest : List Name} {endsInSlash : Bool}
    (h : ∀ name ∈ rest, name ≠ [] ∧ slash ∉ name) :
    (Rest.through target rest endsInSlash).IsSplit := by
  intro name hname
  rcases List.mem_append.1 hname with hname | hname
  · exact Path.mem_names hname
  · exact h name hname

/-- The directory in which the target of a link begins is real if the link stands in a real one. -/
theorem IsReal.start (h : d.IsReal place) : d.IsReal (start p place) := by
  unfold Disk.start
  split
  · exact isReal_nil d
  · exact h

/-- What a walk comes to that goes on by one name: it is refused, stays, goes up, ends at a free
name, goes on behind a link, or goes down. -/
inductive Step (d : Disk) (follow : Location → Rest → Except Error Spot) (endsInSlash : Bool)
    (place : Location) (name : Name) (rest : List Name) : Except Error Spot → Prop
  | refused (e : Error) : Step d follow endsInSlash place name rest (.error e)
  | stayed (h : name = Name.here) :
      Step d follow endsInSlash place name rest (d.advance true follow endsInSlash place rest)
  | up (h : name = Name.parent) :
      Step d follow endsInSlash place name rest
        (d.advance true follow endsInSlash place.dropLast rest)
  | free : Step d follow endsInSlash place name rest (.ok (.free (place ++ [name])))
  | linked {target : Path} (hnode : d.node? (place ++ [name]) = some (.link target)) :
      Step d follow endsInSlash place name rest
        (follow (start target place) (.through target rest endsInSlash))
  | down {access : Access} {node : Node} (hdir : d.node? place = some (.directory access))
      (hhere : name ≠ Name.here) (hparent : name ≠ Name.parent)
      (hnode : d.node? (place ++ [name]) = some node) (hlink : ∀ target, node ≠ .link target) :
      Step d follow endsInSlash place name rest
        (d.advance true follow endsInSlash (place ++ [name]) rest)

/-- Every walk that goes on by a name makes one of the steps. -/
theorem step_advance (d : Disk) (follow : Location → Rest → Except Error Spot)
    (endsInSlash : Bool) (place : Location) (name : Name) (rest : List Name) :
    d.Step follow endsInSlash place name rest
      (d.advance true follow endsInSlash place (name :: rest)) := by
  rw [advance]
  cases henter : d.checkEnter place with
  | error e => exact .refused e
  | ok u =>
    obtain ⟨access, hdir⟩ := directory_of_checkEnter henter
    rw [ok_bind]
    split
    case isTrue hhere => exact .stayed hhere
    case isFalse hhere =>
      split
      case isTrue hparent => exact .up hparent
      case isFalse hparent =>
        split
        case isTrue => exact .refused _
        case isFalse =>
          dsimp only
          split
          case h_1 =>
            split
            · exact .free
            · exact .refused _
          case h_2 target hnode =>
            rw [Bool.not_true, Bool.and_false, if_neg Bool.false_ne_true]
            split
            · exact .refused _
            · exact .linked hnode
          case h_3 node hlink hnode =>
            exact .down hdir hhere hparent hnode hlink

variable {follow : Location → Rest → Except Error Spot} {endsInSlash : Bool}

/-- A step from a real place keeps to real places, if going on behind a link and along the rest of
the path does. -/
theorem Step.endsReal {rest : List Name} {r : Except Error Spot}
    (h : d.Step follow endsInSlash place name rest r) (hreal : d.IsReal place)
    (hname : name ≠ [] ∧ slash ∉ name) (hrest : ∀ x ∈ rest, x ≠ [] ∧ slash ∉ x)
    (hfollow : ∀ place rest, d.IsReal place → rest.IsSplit → d.EndsReal (follow place rest))
    (hadvance : ∀ place, d.IsReal place →
      d.EndsReal (d.advance true follow endsInSlash place rest)) : d.EndsReal r := by
  cases h with
  | refused e => exact endsReal_error e
  | stayed => exact hadvance place hreal
  | up => exact hadvance place.dropLast hreal.dropLast
  | free =>
    intro place' node' hres
    cases hres
  | linked => exact hfollow _ _ hreal.start (Rest.isSplit_through hrest)
  | down hdir hhere hparent hnode hlink =>
    have hproper : Name.IsProper name := ⟨hname.1, hname.2, hhere, hparent⟩
    refine hadvance _ (hreal.concat hdir hproper fun target heq => ?_)
    exact hlink target (Option.some.inj (hnode.symm.trans heq))

/-- Walking from a real place to the end of a path keeps to real places, if going on behind a link
does. -/
theorem IsReal.endsReal_advance
    (hfollow : ∀ place rest, d.IsReal place → rest.IsSplit → d.EndsReal (follow place rest)) :
    ∀ {names : List Name} {place : Location}, d.IsReal place →
      (∀ name ∈ names, name ≠ [] ∧ slash ∉ name) →
      d.EndsReal (d.advance true follow endsInSlash place names)
  | [], place, h, _ => by
    rw [advance]
    split
    case h_1 node hnode => exact h.endsReal_arrive hnode
    case h_2 => exact endsReal_error _
  | name :: rest, place, h, hnames => by
    have hrest : ∀ x ∈ rest, x ≠ [] ∧ slash ∉ x := fun x hx =>
      hnames x (List.mem_cons_of_mem _ hx)
    have hstep := step_advance d follow endsInSlash place name rest
    refine hstep.endsReal h (hnames name List.mem_cons_self) hrest hfollow ?_
    exact fun next hnext => hnext.endsReal_advance hfollow hrest

/-- The same along a whole path, through any number of links. -/
theorem IsReal.endsReal_walk : ∀ (links : Nat) {place : Location} {rest : Rest},
    d.IsReal place → rest.IsSplit → d.EndsReal (d.walk true links place rest)
  | 0, _, _, h, hrest => h.endsReal_advance (fun _ _ _ _ => endsReal_error _) hrest
  | links + 1, _, _, h, hrest =>
    h.endsReal_advance (fun _ _ hplace hrest => hplace.endsReal_walk links hrest) hrest

/-- Only a path that is not empty and holds no zero byte is walked along. -/
theorem find_eq_ok_iff {through : Bool} {spot : Spot} : d.find through p = .ok spot ↔
    (¬ p.bytes.contains 0 ∧ ¬ p.bytes.isEmpty) ∧
      d.walk through linkLimit (start p d.current) (.ofPath p) = .ok spot := by
  rw [find, ite_throw_eq_ok_iff, ite_throw_eq_ok_iff, and_assoc]

theorem locate_eq_ok_iff :
    d.locate p = .ok (place, node) ↔ d.find true p = .ok (.taken place node) := by
  rw [locate, bind_eq_ok_iff]
  constructor
  · rintro ⟨spot, hfind, heq⟩
    cases spot <;> cases heq
    exact hfind
  · exact fun hfind => ⟨_, hfind, rfl⟩

/-- What is found at the end of a path is where the walk along it ends. -/
theorem walk_of_locate (h : d.locate p = .ok (place, node)) :
    d.walk true linkLimit (start p d.current) (.ofPath p) = .ok (.taken place node) :=
  (find_eq_ok_iff.1 (locate_eq_ok_iff.1 h)).2

/-- A path that begins at a real place ends at a real place, where the thing stands that is
found. -/
theorem isReal_of_locate (hstart : d.IsReal (start p d.current))
    (h : d.locate p = .ok (place, node)) : d.IsReal place ∧ d.node? place = some node :=
  hstart.endsReal_walk linkLimit (fun _ hname => Path.mem_names hname) _ _ (walk_of_locate h)

/-! ### The names on the way -/

/-- A name that leads somewhere: one of the two names made of dots, or that of something on disk. -/
def Knows (d : Disk) (name : Name) : Prop :=
  name = Name.here ∨ name = Name.parent ∨ ∃ place node, d.node? (place ++ [name]) = some node

/-- Where a walk ends at something, every name on the way leads somewhere. -/
def KnowsAll (d : Disk) (names : List Name) (r : Except Error Spot) : Prop :=
  ∀ place node, r = .ok (.taken place node) → ∀ name ∈ names, d.Knows name

/-- A step is along a name that leads somewhere, if the walk comes to an end. -/
theorem Step.knowsAll {rest : List Name} {r : Except Error Spot}
    (h : d.Step follow endsInSlash place name rest r)
    (hfollow : ∀ place rest, d.KnowsAll rest.names (follow place rest))
    (hadvance : ∀ place, d.KnowsAll rest (d.advance true follow endsInSlash place rest)) :
    d.KnowsAll (name :: rest) r := by
  intro place' node' hres
  rw [List.forall_mem_cons]
  cases h with
  | refused e => cases hres
  | stayed hhere => exact ⟨.inl hhere, hadvance place _ _ hres⟩
  | up hparent => exact ⟨.inr (.inl hparent), hadvance place.dropLast _ _ hres⟩
  | free => cases hres
  | linked hnode =>
    refine ⟨.inr (.inr ⟨_, _, hnode⟩), fun name hname => ?_⟩
    exact hfollow _ _ _ _ hres name (List.mem_append_right _ hname)
  | down hdir hhere hparent hnode hlink =>
    exact ⟨.inr (.inr ⟨_, _, hnode⟩), hadvance _ _ _ hres⟩

/-- The same along the names up to the end of a path. -/
theorem knowsAll_advance (hfollow : ∀ place rest, d.KnowsAll rest.names (follow place rest)) :
    ∀ (names : List Name) (place : Location),
      d.KnowsAll names (d.advance true follow endsInSlash place names)
  | [], _ => fun _ _ _ _ hname => nomatch hname
  | name :: rest, place => (step_advance d follow endsInSlash place name rest).knowsAll hfollow
      (knowsAll_advance hfollow rest)

/-- The same along a whole path, through any number of links. -/
theorem knowsAll_walk (d : Disk) : ∀ (links : Nat) (place : Location) (rest : Rest),
    d.KnowsAll rest.names (d.walk true links place rest)
  | 0, place, rest =>
    knowsAll_advance (fun _ _ _ _ hres => by cases hres) rest.names place
  | links + 1, place, rest => knowsAll_advance (d.knowsAll_walk links) rest.names place

/-- Every name of a path at whose end something is found leads somewhere. -/
theorem knows_of_locate (h : d.locate p = .ok (place, node)) : ∀ name ∈ p.names, d.Knows name :=
  d.knowsAll_walk linkLimit _ (.ofPath p) _ _ (walk_of_locate h)

/-! ### Files everywhere -/

/-- Every file has content and a time of change with a property. -/
def EveryFile (P : Bytes → Instant → Prop) (d : Disk) : Prop :=
  ∀ place content modified access, d.node? place = some (.file content modified access) →
    P content modified

/-- A table holds what is found in it. -/
theorem mem_of_lookup {α β : Type} [BEq α] [LawfulBEq α] {l : List (α × β)} {a : α} {b : β}
    (h : l.lookup a = some b) : (a, b) ∈ l := by
  obtain ⟨before, behind, rfl, -⟩ := List.lookup_eq_some_iff.1 h
  exact List.mem_append_right before List.mem_cons_self

/-- What every entry that is a file has, every file has. -/
theorem everyFile_of_all {P : Bytes → Instant → Prop} [∀ content modified,
    Decidable (P content modified)] (h : (d.entries.all fun e => match e.2 with
      | .file content modified _ => decide (P content modified)
      | _ => true) = true) : d.EveryFile P := by
  intro place content modified access hnode
  unfold node? at hnode
  split at hnode
  · cases hnode
  · exact of_decide_eq_true (List.all_eq_true.1 h _ (mem_of_lookup hnode))

/-! ### Looking up what stands at the end of a path -/

theorem canonical_eq_ok_iff :
    d.canonical p = .ok place ↔ ∃ node, d.locate p = .ok (place, node) := by
  rw [canonical, bind_eq_ok_iff]
  constructor
  · rintro ⟨⟨place', node⟩, h, heq⟩
    cases heq
    exact ⟨node, h⟩
  · rintro ⟨node, h⟩
    exact ⟨(place, node), h, rfl⟩

/-- What is looked up stands where the path ends. -/
theorem locate_of_stat (h : d.stat p = .ok node) : ∃ place, d.locate p = .ok (place, node) := by
  unfold stat at h
  split at h
  · cases h
  · obtain ⟨-, -, h⟩ := bind_eq_ok_iff.1 h
    obtain ⟨⟨place, node'⟩, hlocate, heq⟩ := bind_eq_ok_iff.1 h
    cases heq
    exact ⟨place, hlocate⟩

/-- What is read is the content of a file where the path ends. -/
theorem locate_of_read {content : Bytes} {modified : Instant}
    (h : d.read p = .ok (content, modified)) :
    ∃ place access, d.locate p = .ok (place, .file content modified access) := by
  obtain ⟨node, hstat, h⟩ := bind_eq_ok_iff.1 h
  obtain ⟨place, hlocate⟩ := locate_of_stat hstat
  cases node with
  | file content' modified' access =>
    dsimp only at h
    split at h
    · cases h
      exact ⟨place, access, hlocate⟩
    · cases h
  | directory access => cases h
  | link target => cases h

/-- What is listed are the entries of a directory where the path ends. -/
theorem locate_of_list {entries : List DirectoryEntry} (h : d.list p = .ok entries) :
    ∃ place access, d.locate p = .ok (place, .directory access) ∧ entries = d.entriesOf place := by
  unfold list at h
  split at h
  · cases h
  · obtain ⟨-, -, h⟩ := bind_eq_ok_iff.1 h
    obtain ⟨⟨place, node⟩, hlocate, h⟩ := bind_eq_ok_iff.1 h
    cases node with
    | directory access =>
      dsimp only at h
      split at h
      · cases h
        exact ⟨place, access, hlocate, rfl⟩
      · cases h
    | file content modified access => cases h
    | link target => cases h

end FileServer.Disk
