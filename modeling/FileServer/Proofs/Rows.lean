import FileServer.Proofs.Enumerations
import FileServer.Proofs.Outcomes
import FileServer.Proofs.Places
import FileServer.Site.Serve
import Mathlib.Data.List.Nodup
import Mathlib.Data.List.Perm.Basic
import Mathlib.Data.String.Basic

/-!
Rows do not depend on the order in which a directory is read. Two disks hold the same tree if they
differ at most in that order; every path then leads to the same place on both, so an entry has the
same row. The rows are sorted by the names in small letters, and only entries whose names agree in
small letters may change places from one reading to the next.
-/

namespace FileServer

namespace Disk

/-- Two disks hold the same tree: only the order in which the entries of a directory are read may
differ. -/
structure SameTree (d d' : Disk) : Prop where
  node : ∀ place, d'.node? place = d.node? place
  current : d'.current = d.current
  entries : ∀ place, (d'.entriesOf place).Perm (d.entriesOf place)

variable {d d' : Disk} {p : Path} {place : Location} {access : Access}

/-! ### One tree in two orders -/

/-- A disk on which no place is taken twice holds the same tree in every order of its entries. -/
theorem sameTree_of_perm (hnodup : (d.entries.map (·.1)).Nodup)
    (hperm : d'.entries.Perm d.entries) (hcurrent : d'.current = d.current) : d.SameTree d' where
  node place := by
    have hlookup := ((enumerates_lookup hnodup).perm hperm).lookup place
    simp only [node?, hlookup]
  current := hcurrent
  entries place := hperm.filterMap _

theorem SameTree.checkEnter (h : d.SameTree d') (place : Location) :
    d'.checkEnter place = d.checkEnter place := by
  simp only [Disk.checkEnter, h.node]

/-- Walking along names comes to the same end, whatever the walk does behind a link. -/
theorem SameTree.advance (h : d.SameTree d') (through : Bool)
    (follow : Location → Rest → Except Error Spot) (endsInSlash : Bool) (names : List Name) :
    ∀ place, d'.advance through follow endsInSlash place names =
      d.advance through follow endsInSlash place names := by
  induction names with
  | nil =>
    intro place
    simp only [Disk.advance, h.node]
  | cons name rest ih =>
    intro place
    simp only [Disk.advance, h.node, h.checkEnter, ih]

/-- The same along a whole path, through any number of links. -/
theorem SameTree.walk (h : d.SameTree d') (through : Bool) (links : Nat) :
    d'.walk through links = d.walk through links := by
  induction links with
  | zero =>
    funext place rest
    exact h.advance _ _ _ _ _
  | succ links ih =>
    funext place rest
    rw [Disk.walk, Disk.walk, ih]
    exact h.advance _ _ _ _ _

theorem SameTree.locate (h : d.SameTree d') (p : Path) : d'.locate p = d.locate p := by
  simp only [Disk.locate, find, h.walk, h.current]

theorem SameTree.canonical (h : d.SameTree d') (p : Path) : d'.canonical p = d.canonical p := by
  simp only [Disk.canonical, h.locate]

theorem SameTree.stat (h : d.SameTree d') (p : Path) : d'.stat p = d.stat p := by
  simp only [Disk.stat, h.locate]

/-- What leads to a directory on one disk does so on the other. -/
theorem SameTree.isDirectory (h : d.SameTree d') (p : Path) :
    d'.isDirectory p = d.isDirectory p := by
  simp only [Disk.isDirectory, h.stat]

theorem isDirectory_eq_true_iff :
    d.isDirectory p = true ↔ ∃ access, d.stat p = .ok (.directory access) := by
  rw [isDirectory]
  cases d.stat p with
  | error e => simp
  | ok node => cases node <;> simp [Node.isDirectory]

/-- A directory that may be read is listed with its entries. -/
theorem list_of_stat (h : d.stat p = .ok (.directory access)) (hread : access.read = true) :
    ∃ place, d.canonical p = .ok place ∧ d.list p = .ok (d.entriesOf place) := by
  unfold stat at h
  split at h
  case isTrue => cases h
  case isFalse hnul =>
    obtain ⟨u, hlength, h⟩ := bind_eq_ok_iff.1 h
    obtain ⟨⟨place, node⟩, hlocate, hnode⟩ := bind_eq_ok_iff.1 h
    cases hnode
    refine ⟨place, canonical_eq_ok_iff.2 ⟨_, hlocate⟩, ?_⟩
    simp only [list, hnul, hlength, hlocate, ok_bind, hread, if_true]
    rfl

end Disk

namespace Site

variable {d d' : Disk} {directory : Path} {access : Access} {entries : List Disk.DirectoryEntry}
  {rs rs' : List ListingRow}

/-- The name by which an entry is put in its place among the others. -/
def rank (name : Name) : String := Text.lower (Utf8.toStringLossy name)

/-- A row tells about an entry of a directory: its name, whether it is a link itself, and whether it
leads to a directory. -/
structure IsRowOf (d : Disk) (directory : Path) (r : ListingRow) (e : Disk.DirectoryEntry) :
    Prop where
  name : r.name = Utf8.toStringLossy e.1
  isLink : r.isLink = true ↔ ∃ target, e.2 = .link target
  isDirectory : r.isDirectory = true ↔
    ∃ access, d.stat (directory.child e.1) = .ok (.directory access)

/-- The rows stand in the order of their names in small letters. -/
def InOrder (rs : List ListingRow) : Prop :=
  rs.Pairwise fun a b => Text.lower a.name ≤ Text.lower b.name

instance (rs : List ListingRow) : Decidable (InOrder rs) :=
  inferInstanceAs (Decidable (rs.Pairwise _))

/-- There is one row for each entry, in some order. -/
def RowForEach (d : Disk) (directory : Path) (entries : List Disk.DirectoryEntry)
    (rs : List ListingRow) : Prop :=
  ∃ shown, List.Forall₂ (IsRowOf d directory) rs shown ∧ shown.Perm entries

/-! ### One reading -/

theorem isRowOf_row (d : Disk) (directory : Path) (e : Disk.DirectoryEntry) :
    IsRowOf d directory (row d directory e) e where
  name := rfl
  isLink := by
    obtain ⟨name, node⟩ := e
    cases node <;> simp [row, Node.isLink]
  isDirectory := Disk.isDirectory_eq_true_iff

theorem mayPrecede_iff {a b : ListingRow} :
    mayPrecede a b = true ↔ Text.lower a.name ≤ Text.lower b.name := by
  rw [mayPrecede, Bool.not_eq_true', decide_eq_false_iff_not]
  exact not_lt

/-- Sorting brings rows in order. -/
theorem inOrder_mergeSort (rs : List ListingRow) : InOrder (rs.mergeSort mayPrecede) := by
  refine (List.pairwise_mergeSort ?_ ?_ rs).imp mayPrecede_iff.1
  · intro a b c hab hbc
    rw [mayPrecede_iff] at *
    exact hab.trans hbc
  · intro a b
    rw [Bool.or_eq_true, mayPrecede_iff, mayPrecede_iff]
    exact le_total _ _

/-- Rows that are made of the entries and then put in another order are still one for each. -/
theorem rowForEach_of_perm (h : rs.Perm (entries.map (row d directory))) :
    RowForEach d directory entries rs := by
  refine List.perm_comp_forall₂ h (List.forall₂_map_left_iff.2 (List.forall₂_same.2 ?_))
  intro e _
  exact isRowOf_row d directory e

theorem rows_of_list (h : d.list directory = .ok entries) :
    rows d directory = .ok ((entries.map (row d directory)).mergeSort mayPrecede) := by
  rw [rows, h, ok_bind]
  rfl

/-! ### Two readings -/

theorem row_eq_of_sameTree (h : d.SameTree d') (directory : Path) :
    row d' directory = row d directory := by
  funext e
  simp only [row, h.isDirectory]

/-- Two lists of the same rows in order have the same sequence of names in small letters. -/
theorem InOrder.map_eq (h : InOrder rs) (h' : InOrder rs') (hperm : rs'.Perm rs) :
    rs'.map (fun r => Text.lower r.name) = rs.map fun r => Text.lower r.name := by
  refine (hperm.map _).eq_of_pairwise ?_ (List.pairwise_map.2 h') (List.pairwise_map.2 h)
  intro a b _ _ hab hba
  exact hab.antisymm hba

/-- They are the same list if no two names agree in small letters. -/
theorem InOrder.eq_of_nodup (h : InOrder rs) (h' : InOrder rs') (hperm : rs'.Perm rs)
    (hnodup : (rs.map fun r => Text.lower r.name).Nodup) : rs' = rs := by
  refine hperm.eq_of_pairwise ?_ h' h
  intro a b ha hb hab hba
  exact List.inj_on_of_nodup_map hnodup (hperm.subset ha) hb (hab.antisymm hba)

/-- The names of rows are in small letters what puts their entries in place. -/
theorem nodup_lower_names (h : rs.Perm (entries.map (row d directory)))
    (hnodup : (entries.map fun e => rank e.1).Nodup) :
    (rs.map fun r => Text.lower r.name).Nodup := by
  rw [(h.map _).nodup_iff, List.map_map]
  exact hnodup

/-- A directory that may be read has one row for each entry, in order. Read in another order it has
the same rows, where only names that agree in small letters may change places; if no two names do,
the page is the same. -/
theorem rows_of_readable (hdir : d.stat directory = .ok (.directory access))
    (hread : access.read = true) :
    ∃ place rs, d.canonical directory = .ok place ∧ rows d directory = .ok rs ∧
      RowForEach d directory (d.entriesOf place) rs ∧ InOrder rs ∧
      ∀ d', d.SameTree d' → ∃ rs', rows d' directory = .ok rs' ∧ rs'.Perm rs ∧
        rs'.map (fun r => Text.lower r.name) = rs.map (fun r => Text.lower r.name) ∧
        (((d.entriesOf place).map fun e => rank e.1).Nodup →
          rs' = rs ∧ ∀ v, serveListing d' v directory = serveListing d v directory) := by
  obtain ⟨place, hplace, hlist⟩ := Disk.list_of_stat hdir hread
  have hrows := rows_of_list hlist
  have hmade := List.mergeSort_perm ((d.entriesOf place).map (row d directory)) mayPrecede
  refine ⟨place, _, hplace, hrows, rowForEach_of_perm hmade, inOrder_mergeSort _, ?_⟩
  intro d' htree
  have hlist' : d'.list directory = .ok (d'.entriesOf place) := by
    obtain ⟨place', hplace', hlist'⟩ := Disk.list_of_stat ((htree.stat _).trans hdir) hread
    rw [htree.canonical, hplace] at hplace'
    cases hplace'
    exact hlist'
  have hrows' := rows_of_list hlist'
  rw [row_eq_of_sameTree htree] at hrows'
  have hperm := ((List.mergeSort_perm _ mayPrecede).trans
    ((htree.entries place).map (row d directory))).trans hmade.symm
  refine ⟨_, hrows', hperm, (inOrder_mergeSort _).map_eq (inOrder_mergeSort _) hperm, ?_⟩
  intro hnodup
  have heq := (inOrder_mergeSort _).eq_of_nodup (inOrder_mergeSort _) hperm
    (nodup_lower_names hmade hnodup)
  refine ⟨heq, fun v => ?_⟩
  rw [serveListing, serveListing, hrows', hrows, heq]

/-- A directory that holds a file, a link to a directory, a link that leads nowhere and has a name
that is not well-formed, and a directory. -/
def shelf : Disk where
  entries :=
    [(placeOf ["d"], .directory {}),
      (placeOf ["d", "b"], .file [] ⟨784111777, 0⟩ {}),
      (placeOf ["d", "C"], .link (.ofString "a")),
      (placeOf ["d"] ++ [[120, 255]], .link (.ofString "none")),
      (placeOf ["d", "a"], .directory {})]

/-- Read from either end, the directory has the same rows. -/
theorem rows_of_readable_shelf :
    shelf.stat (.ofString "/d") = .ok (.directory {}) ∧ ({} : Access).read = true ∧
      ∃ rs d', d'.entries = shelf.entries.reverse ∧ shelf.SameTree d' ∧
        rows shelf (.ofString "/d") = .ok rs ∧ rows d' (.ofString "/d") = .ok rs ∧
        rs = [⟨"a", true, false⟩, ⟨"b", false, false⟩, ⟨"C", true, true⟩,
          ⟨"x\uFFFD", false, true⟩] := by
  have hdir : shelf.stat (.ofString "/d") = .ok (.directory {}) :=
    eq_ok_of_toOption (by decide +kernel)
  have hplace : shelf.canonical (.ofString "/d") = .ok (placeOf ["d"]) :=
    eq_ok_of_toOption (by decide +kernel)
  have htree : shelf.SameTree { shelf with entries := shelf.entries.reverse } :=
    Disk.sameTree_of_perm (by decide +kernel) (List.reverse_perm _) rfl
  obtain ⟨place, rs, hplace', hrows, -, horder, hsame⟩ := rows_of_readable hdir rfl
  cases hplace.symm.trans hplace'
  obtain ⟨rs', hrows', -, -, heq⟩ := hsame _ htree
  obtain ⟨rfl, -⟩ := heq (by decide +kernel)
  refine ⟨hdir, rfl, _, _, rfl, htree, hrows, hrows', ?_⟩
  have hlist : shelf.list (.ofString "/d") = .ok (shelf.entriesOf (placeOf ["d"])) :=
    eq_ok_of_toOption (by decide +kernel)
  cases (rows_of_list hlist).symm.trans hrows
  have hperm := (List.mergeSort_perm
    ((shelf.entriesOf (placeOf ["d"])).map (row shelf (.ofString "/d"))) mayPrecede).trans
    (by decide +kernel : List.Perm _ [⟨"a", true, false⟩, ⟨"b", false, false⟩, ⟨"C", true, true⟩,
      ⟨"x\uFFFD", false, true⟩])
  exact InOrder.eq_of_nodup (by decide +kernel) horder hperm (by decide +kernel)

end Site

end FileServer
