import FileServer.Proofs.Answers
import FileServer.Proofs.Places

/-!
Nothing outside the root is shown. An answer carries a file or lists a directory only if the place
where its path ends, all links followed, lies in the root; every other answer can be told from the
request alone. The checks are made on paths and the reading follows the same paths, so both come to
the same place, which is free of links and dots.
-/

namespace FileServer.Site

variable {s : Site} {d : Disk} {u : String} {v : Visit} {path : Path}

/-- A place in the root that is free of links and dots. -/
structure Holds (s : Site) (d : Disk) (place : Location) : Prop where
  inside : s.root <+: place
  real : d.IsReal place

/-- The names of rows are the names of the entries at a place, in some order. -/
def NamesOf (d : Disk) (place : Location) (rs : List ListingRow) : Prop :=
  (rs.map (·.name)).Perm ((d.entriesOf place).map fun e => Utf8.toStringLossy e.1)

/-- The responses that the request alone decides about: the two pages for what is missing, the
redirect to the slash form, and the bare one for a file whose type may not stand in a header. -/
def fixedResponses (v : Visit) : List Response :=
  [Answer.notFound.response, noPermission.response, (Answer.redirect (slashForm v)).response,
    { status := .internalServerError }]

/-- No body, and the two pages for what is missing. -/
def fixedBodies : List Body :=
  [.empty, Answer.notFound.response.body, noPermission.response.body]

/-- What a response shows lies in the root: it carries or confirms the file that is chosen for the
path, or lists the directory that the path leads to, or is one of those that the request alone
decides about, which have no body or a page that is the same for all. -/
inductive Contained (s : Site) (d : Disk) (v : Visit) (r : Response) : Prop
  | file {path : Path} {place : Location} {content : Bytes} {modified : Instant} {access : Access}
      (hchosen : s.Chooses d v.path path) (hplace : d.canonical path = .ok place)
      (hholds : s.Holds d place) (hnode : d.node? place = some (.file content modified access))
      (h : r.Carries v.headOnly content modified ∨ r.Confirms modified) : Contained s d v r
  | listing {directory : Path} {place : Location} {access : Access} {rs : List ListingRow}
      (hdir : s.ReachesDirectory d v.path directory) (hplace : d.canonical directory = .ok place)
      (hholds : s.Holds d place) (hnode : d.node? place = some (.directory access))
      (hnames : NamesOf d place rs) (h : r = (listingAnswer v rs).response) : Contained s d v r
  | fixed (h : r ∈ fixedResponses v) (hbody : r.body ∈ fixedBodies) : Contained s d v r

/-! ### Paths of a site are absolute -/

theorem isAbsolute_of_translate (h : translate s.rootPath u = some path) :
    path.isAbsolute = true := by
  obtain ⟨names, -, rfl⟩ := Option.map_eq_some_iff.1 h
  exact Path.isAbsolute_foldl_child names (Path.isAbsolute_absolute s.root)

/-- An index file is looked up from the directory on, or from the top. -/
theorem isAbsolute_of_indexFile {directory file : Path} (hdir : directory.isAbsolute = true)
    (h : s.indexFile? d directory = some file) : file.isAbsolute = true := by
  obtain ⟨name, -, rfl⟩ := List.mem_map.1 (List.mem_of_find?_eq_some h)
  exact Path.isAbsolute_join hdir _

theorem ReachesDirectory.isAbsolute (h : s.ReachesDirectory d u path) :
    path.isAbsolute = true := by
  obtain ⟨node, hreaches, -, -⟩ := h
  exact isAbsolute_of_translate hreaches.translated

theorem Chooses.isAbsolute (h : s.Chooses d u path) : path.isAbsolute = true := by
  cases h with
  | path h _ _ => exact isAbsolute_of_translate h.translated
  | index h hi _ => exact isAbsolute_of_indexFile h.isAbsolute hi

/-- A file is chosen only in the root. -/
theorem Chooses.inside (h : s.Chooses d u path) : s.LeadsInside d path := by
  cases h with
  | path h _ _ => exact h.inside
  | index _ _ hin => exact hin

/-! ### Where paths end -/

/-- What an absolute path into the root leads to stands at a place in the root, free of links. -/
theorem LeadsInside.holds {place : Location} {node : Node} (h : s.LeadsInside d path)
    (habs : path.isAbsolute = true) (hlocate : d.locate path = .ok (place, node)) :
    d.canonical path = .ok place ∧ s.Holds d place ∧ d.node? place = some node := by
  have hstart : d.IsReal (Disk.start path d.current) := by
    rw [Disk.start, if_pos habs]
    exact Disk.isReal_nil d
  obtain ⟨hreal, hnode⟩ := Disk.isReal_of_locate hstart hlocate
  obtain ⟨place', hcanonical, hin⟩ := h
  obtain ⟨node', hlocate'⟩ := Disk.canonical_eq_ok_iff.1 hcanonical
  cases hlocate.symm.trans hlocate'
  exact ⟨hcanonical, ⟨hin, hreal⟩, hnode⟩

/-- The file that is chosen stands in the root. -/
theorem Chooses.holds {content : Bytes} {modified : Instant} (h : s.Chooses d u path)
    (hr : d.read path = .ok (content, modified)) :
    ∃ place access, d.canonical path = .ok place ∧ s.Holds d place ∧
      d.node? place = some (.file content modified access) := by
  obtain ⟨place, access, hlocate⟩ := Disk.locate_of_read hr
  exact ⟨place, access, h.inside.holds h.isAbsolute hlocate⟩

/-- What every file has, the file that is chosen has. -/
theorem Chooses.everyFile {P : Bytes → Instant → Prop} {content : Bytes} {modified : Instant}
    (hd : d.EveryFile P) (h : s.Chooses d u path) (hr : d.read path = .ok (content, modified)) :
    P content modified := by
  obtain ⟨place, access, -, -, hnode⟩ := h.holds hr
  exact hd place content modified access hnode

/-- Rows have the names of the entries. -/
theorem namesOf_rows {place : Location} {rs : List ListingRow}
    (hr : rows d path = .ok rs) (hlist : d.list path = .ok (d.entriesOf place)) :
    NamesOf d place rs := by
  rw [rows, hlist, ok_bind] at hr
  cases hr
  have hperm := (List.mergeSort_perm ((d.entriesOf place).map (row d path)) mayPrecede).map
    (·.name)
  rwa [List.map_map] at hperm

/-- The directory that is listed stands in the root. -/
theorem ReachesDirectory.holds {rs : List ListingRow} (h : s.ReachesDirectory d u path)
    (hr : rows d path = .ok rs) :
    ∃ place access, d.canonical path = .ok place ∧ s.Holds d place ∧
      d.node? place = some (.directory access) ∧ NamesOf d place rs := by
  obtain ⟨entries, hlist, -⟩ := bind_eq_ok_iff.1 hr
  obtain ⟨place, access, hlocate, rfl⟩ := Disk.locate_of_list hlist
  obtain ⟨node, hreaches, -, -⟩ := h
  obtain ⟨hplace, hholds, hnode⟩ :=
    hreaches.inside.holds (isAbsolute_of_translate hreaches.translated) hlocate
  exact ⟨place, access, hplace, hholds, hnode, namesOf_rows hr hlist⟩

/-! ### Every answer -/

/-- The responses that the request alone decides about have no body or one of two pages. -/
theorem body_of_mem_fixedResponses {r : Response} (h : r ∈ fixedResponses v) :
    r.body ∈ fixedBodies := by
  simp only [fixedResponses, List.mem_cons, List.not_mem_nil, or_false] at h
  rcases h with rfl | rfl | rfl | rfl
  · simp [fixedBodies]
  · simp [fixedBodies]
  · simp [fixedBodies, Answer.redirect, Answer.body_checked_empty]
  · simp [fixedBodies]

/-- A response that the request alone decides about is contained. -/
theorem contained_of_mem {r : Response} (h : r ∈ fixedResponses v) : s.Contained d v r :=
  .fixed h (body_of_mem_fixedResponses h)

/-- What is shown for an outcome lies in the root. -/
theorem Shape.contained {o : Outcome} {r : Response} (h : Shape v o r)
    (ho : s.Yields d v.path o) : s.Contained d v r := by
  cases h with
  | missing => exact contained_of_mem (by simp [fixedResponses])
  | unlisted => exact contained_of_mem (by simp [fixedResponses])
  | moved => exact contained_of_mem (by simp [fixedResponses])
  | bare => exact contained_of_mem (by simp [fixedResponses])
  | listed =>
    cases ho with
    | listed hdir _ _ hr =>
      obtain ⟨place, access, hplace, hholds, hnode, hnames⟩ := hdir.holds hr
      exact .listing hdir hplace hholds hnode hnames rfl
  | confirmed h =>
    cases ho with
    | file hchosen hr =>
      obtain ⟨place, access, hplace, hholds, hnode⟩ := hchosen.holds hr
      exact .file hchosen hplace hholds hnode (.inr h)
  | carried h =>
    cases ho with
    | file hchosen hr =>
      obtain ⟨place, access, hplace, hholds, hnode⟩ := hchosen.holds hr
      exact .file hchosen hplace hholds hnode (.inl h)

/-- Containment: whatever a site answers, the file or the names in it lie in the root. -/
theorem serve_contained {a : Answer} (h : s.serve d v = .ok a) : s.Contained d v a.response := by
  obtain ⟨o, ho, hshape⟩ := shape_of_serve h
  exact hshape.contained ho

/-- The page of the small site is shown, at the end of two links. -/
theorem contained_samplePage : ∃ a, sampleSite.serve sampleDisk { path := "/" } = .ok a ∧
    a.response.body = .streamed (Utf8.ofString "<p>hi</p>") ∧
    sampleSite.Contained sampleDisk { path := "/" } a.response :=
  ⟨_, rfl, rfl, serve_contained rfl⟩

/-- An index file beside the root is not shown, although its path begins with that of the root. -/
example :
    let s := { sampleSite with indexFiles := ["../www-secret/key"] }
    s.serve sampleDisk { path := "/" } =
      .ok (Answer.notFound.after [.rootLeft "/" (placeOf ["srv", "www-secret", "key"])]) := rfl

end FileServer.Site
