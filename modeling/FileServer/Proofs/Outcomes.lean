import FileServer.Proofs.Refusals
import FileServer.Site.Serve

/-!
How a request for something on a site can end. What the tree of files makes of the path of a request
is an outcome, and the answer is given by the outcome and the request alone. Every property of the
answers follows from a look at the outcomes.

    path ──▶ translated? ──no──▶ rejected
               │ yes
             in the root? ──no──▶ left, or nothing
               │ yes
             directory? ──no──▶ file, locked, or nothing (slash at the end)
               │ yes
             slash at the end? ──no──▶ moved
               │ yes
             index file? ──yes──▶ file, locked, left, or nothing
               │ no
             listed, unlisted, or nothing
-/

namespace FileServer.Site

/-- What the tree of files makes of the path of a request. -/
inductive Outcome where
  /-- The path stands for nothing on disk. -/
  | rejected
  /-- The path, or the index file, leads to a place outside the root. -/
  | left (place : Location)
  /-- There is nothing to answer with. -/
  | nothing
  /-- There is a directory, and the path has no slash at its end. -/
  | moved
  /-- There is a file that can be read. -/
  | file (path : Path) (content : Bytes) (modified : Instant)
  /-- There is a file that cannot be read. -/
  | locked (path : Path) (cause : Disk.Error)
  /-- There is a directory to be listed. -/
  | listed (rows : List ListingRow)
  /-- There is a directory that cannot be listed. -/
  | unlisted (directory : Path) (cause : Disk.Error)

/-- The answer about a directory that cannot be listed. -/
def noPermission : Answer := .problem .notFound "No permission to list directory"

/-- The answer to a request whose path has come to an outcome. -/
def Outcome.answer (s : Site) (v : Visit) : Outcome → Served
  | rejected => pure (Answer.notFound.after [.pathRejected v.path])
  | left place => pure (Answer.notFound.after [.rootLeft v.path place])
  | nothing => pure .notFound
  | moved => pure (.redirect (slashForm v))
  | file path content modified =>
    match Calendar.HttpDate.write? modified with
    | none => throw ⟨modified⟩
    | some lastModified =>
      if isCurrent v.ifModifiedSince modified then pure (.notModified lastModified)
      else pure <| .file (if v.headOnly then .empty else .streamed content) content.length
        (s.mediaTypes.resolvePath path) (some lastModified)
  | locked path cause => pure (Answer.notFound.after [.fileNotOpened path cause])
  | listed rows =>
    pure (.page (listingPage (Utf8.toStringLossy (Percent.decode v.path)) rows) v.headOnly)
  | unlisted directory cause => pure (noPermission.after [.directoryNotListed directory cause])

/-- The answer about a file with a date: it has not changed, or it is carried. -/
def fileAnswer (s : Site) (v : Visit) (path : Path) (content : Bytes) (modified : Instant)
    (date : String) : Answer :=
  if isCurrent v.ifModifiedSince modified then .notModified date
  else .file (if v.headOnly then .empty else .streamed content) content.length
    (s.mediaTypes.resolvePath path) (some date)

variable {s : Site} {d : Disk} {u : String} {path file : Path} {node : Node} {place : Location}

/-- A request for a file is given up exactly if the file has no date. -/
theorem answer_file (s : Site) (v : Visit) (path : Path) (content : Bytes) (modified : Instant) :
    (Outcome.file path content modified).answer s v =
      match Calendar.HttpDate.write? modified with
      | none => .error ⟨modified⟩
      | some date => .ok (s.fileAnswer v path content modified date) := by
  show (match Calendar.HttpDate.write? modified with
    | none => _
    | some _ => _) = _
  split
  · rfl
  · unfold fileAnswer
    split <;> rfl

/-- A path on disk leads into the root. -/
def LeadsInside (s : Site) (d : Disk) (path : Path) : Prop :=
  ∃ place, d.canonical path = .ok place ∧ s.root <+: place

/-- The path of a request stands for a path on disk that leads to a node in the root. -/
structure Reaches (s : Site) (d : Disk) (u : String) (path : Path) (node : Node) : Prop where
  translated : translate s.rootPath u = some path
  inside : s.LeadsInside d path
  stat : d.stat path = .ok node

/-- The path of a request is the slash form of that of a directory in the root. -/
def ReachesDirectory (s : Site) (d : Disk) (u : String) (directory : Path) : Prop :=
  ∃ node, s.Reaches d u directory node ∧ node.isDirectory = true ∧ endsInSlash u = true

/-- The path on disk that is looked up for the path of a request: what it stands for, and then the
index file of a directory. -/
inductive Tries (s : Site) (d : Disk) (u : String) : Path → Prop
  | path {path : Path} (ht : translate s.rootPath u = some path) : Tries s d u path
  | index {directory file : Path} (h : s.ReachesDirectory d u directory)
      (hi : s.indexFile? d directory = some file) : Tries s d u file

/-- The file that is to be sent for the path of a request: the one it stands for, or the index file
of a directory. -/
inductive Chooses (s : Site) (d : Disk) (u : String) : Path → Prop
  | path {path : Path} {node : Node} (h : s.Reaches d u path node)
      (hnode : node.isDirectory = false) (hslash : endsInSlash u = false) : Chooses s d u path
  | index {directory file : Path} (h : s.ReachesDirectory d u directory)
      (hi : s.indexFile? d directory = some file) (hin : s.LeadsInside d file) : Chooses s d u file

/-- The ways in which the path of a request comes to an outcome. -/
inductive Yields (s : Site) (d : Disk) (u : String) : Outcome → Prop
  | rejected (ht : translate s.rootPath u = none) : Yields s d u .rejected
  | unresolved {path : Path} {cause : Disk.Error} (h : s.Tries d u path)
      (hc : d.canonical path = .error cause) : Yields s d u .nothing
  | left {path : Path} {place : Location} (h : s.Tries d u path)
      (hc : d.canonical path = .ok place) (hout : ¬s.root <+: place) : Yields s d u (.left place)
  | unseen {path : Path} {cause : Disk.Error} (ht : translate s.rootPath u = some path)
      (hin : s.LeadsInside d path) (hs : d.stat path = .error cause) : Yields s d u .nothing
  | slashed {path : Path} {node : Node} (h : s.Reaches d u path node)
      (hnode : node.isDirectory = false) (hslash : endsInSlash u = true) : Yields s d u .nothing
  | moved {path : Path} {node : Node} (h : s.Reaches d u path node)
      (hnode : node.isDirectory = true) (hslash : endsInSlash u = false) : Yields s d u .moved
  | file {path : Path} {content : Bytes} {modified : Instant} (h : s.Chooses d u path)
      (hr : d.read path = .ok (content, modified)) : Yields s d u (.file path content modified)
  | locked {path : Path} {cause : Disk.Error} (h : s.Chooses d u path)
      (hr : d.read path = .error cause) : Yields s d u (.locked path cause)
  | hidden {directory : Path} (h : s.ReachesDirectory d u directory)
      (hi : s.indexFile? d directory = none) (hl : s.listing = false) : Yields s d u .nothing
  | listed {directory : Path} {rs : List ListingRow} (h : s.ReachesDirectory d u directory)
      (hi : s.indexFile? d directory = none) (hl : s.listing = true)
      (hr : rows d directory = .ok rs) : Yields s d u (.listed rs)
  | unlisted {directory : Path} {cause : Disk.Error} (h : s.ReachesDirectory d u directory)
      (hi : s.indexFile? d directory = none) (hl : s.listing = true)
      (hr : rows d directory = .error cause) : Yields s d u (.unlisted directory cause)

/-- Requests for a path are answered by one outcome, whatever else they ask for. -/
def AnsweredBy (s : Site) (d : Disk) (u : String) (f : Visit → Served) : Prop :=
  ∃ o, s.Yields d u o ∧ ∀ v, v.path = u → f v = o.answer s v

/-! ### The parts of serving -/

/-- A path on disk leads nowhere, out of the root, or into it. -/
theorem canonical_cases (s : Site) (d : Disk) (path : Path) :
    (∃ cause, d.canonical path = .error cause) ∨
      (∃ place, d.canonical path = .ok place ∧ ¬s.root <+: place) ∨ s.LeadsInside d path := by
  cases hc : d.canonical path with
  | error cause => exact .inl ⟨cause, rfl⟩
  | ok place =>
    by_cases hin : s.root <+: place
    · exact .inr (.inr ⟨place, hc, hin⟩)
    · exact .inr (.inl ⟨place, rfl, hin⟩)

theorem admits_of_error {cause : Disk.Error} (h : d.canonical path = .error cause) :
    s.admits d path u = (false, []) := by
  rw [admits, h]

theorem admits_of_left (h : d.canonical path = .ok place) (hout : ¬s.root <+: place) :
    s.admits d path u = (false, [.rootLeft u place]) := by
  rw [← List.isPrefixOf_iff_prefix] at hout
  rw [admits, h]
  exact if_neg hout

theorem admits_of_inside (h : s.LeadsInside d path) : s.admits d path u = (true, []) := by
  obtain ⟨place, hc, hin⟩ := h
  rw [admits, hc]
  exact if_pos (List.isPrefixOf_iff_prefix.2 hin)

/-- A file that is chosen is sent, or cannot be read. -/
theorem serveFile_answered (h : s.Chooses d u path) :
    s.AnsweredBy d u (s.serveFile d · path) := by
  cases hr : d.read path with
  | ok r =>
    obtain ⟨content, modified⟩ := r
    refine ⟨.file path content modified, .file h hr, fun v _ => ?_⟩
    show s.serveFile d v path = _
    rw [serveFile, hr]
    rfl
  | error cause =>
    refine ⟨.locked path cause, .locked h hr, fun v _ => ?_⟩
    show s.serveFile d v path = _
    rw [serveFile, hr]
    rfl

/-- An index file is sent if it lies in the root. -/
theorem serveAdmitted_answered (h : s.ReachesDirectory d u path)
    (hi : s.indexFile? d path = some file) : s.AnsweredBy d u (s.serveAdmitted d · file) := by
  rcases canonical_cases s d file with ⟨cause, hc⟩ | ⟨place, hc, hout⟩ | hin
  · refine ⟨.nothing, .unresolved (.index h hi) hc, fun v _ => ?_⟩
    show s.serveAdmitted d v file = _
    rw [serveAdmitted, admits_of_error hc]
    rfl
  · refine ⟨.left place, .left (.index h hi) hc hout, fun v _ => ?_⟩
    show s.serveAdmitted d v file = _
    rw [serveAdmitted, admits_of_left hc hout]
    rfl
  · obtain ⟨o, ho, hanswer⟩ := serveFile_answered (.index h hi hin)
    refine ⟨o, ho, fun v hv => ?_⟩
    show s.serveAdmitted d v file = _
    rw [serveAdmitted, admits_of_inside hin]
    exact hanswer v hv

/-- A directory with an index file is shown by it. -/
theorem serveDirectory_of_some {v : Visit} (hslash : endsInSlash v.path = true)
    (hi : s.indexFile? d path = some file) :
    s.serveDirectory d v path = s.serveAdmitted d v file := by
  rw [serveDirectory, hslash, hi]
  rfl

/-- A directory without an index file is listed, or hidden. -/
theorem serveDirectory_of_none {v : Visit} (hslash : endsInSlash v.path = true)
    (hi : s.indexFile? d path = none) :
    s.serveDirectory d v path = pure (if s.listing then serveListing d v path else .notFound) := by
  rw [serveDirectory, hslash, hi]
  rfl

/-- A directory is redirected, shown by its index file, or listed. -/
theorem serveDirectory_answered (h : s.Reaches d u path node) (hnode : node.isDirectory = true) :
    s.AnsweredBy d u (s.serveDirectory d · path) := by
  cases hslash : endsInSlash u with
  | false =>
    refine ⟨.moved, .moved h hnode hslash, fun v hv => ?_⟩
    show s.serveDirectory d v path = _
    rw [serveDirectory, hv, hslash]
    rfl
  | true =>
    have hdir : s.ReachesDirectory d u path := ⟨node, h, hnode, hslash⟩
    cases hi : s.indexFile? d path with
    | some file =>
      obtain ⟨o, ho, hanswer⟩ := serveAdmitted_answered hdir hi
      refine ⟨o, ho, fun v hv => ?_⟩
      show s.serveDirectory d v path = _
      rw [serveDirectory_of_some (hv ▸ hslash) hi]
      exact hanswer v hv
    | none =>
      cases hl : s.listing with
      | false =>
        refine ⟨.nothing, .hidden hdir hi hl, fun v hv => ?_⟩
        show s.serveDirectory d v path = _
        rw [serveDirectory_of_none (hv ▸ hslash) hi, hl]
        rfl
      | true =>
        cases hr : rows d path with
        | ok rs =>
          refine ⟨.listed rs, .listed hdir hi hl hr, fun v hv => ?_⟩
          show s.serveDirectory d v path = _
          rw [serveDirectory_of_none (hv ▸ hslash) hi, hl, if_pos rfl, serveListing, hr]
          rfl
        | error cause =>
          refine ⟨.unlisted path cause, .unlisted hdir hi hl hr, fun v hv => ?_⟩
          show s.serveDirectory d v path = _
          rw [serveDirectory_of_none (hv ▸ hslash) hi, hl, if_pos rfl, serveListing, hr]
          rfl

/-- What is reached in the root is answered with as a file or as a directory. -/
theorem serve_of_reaches (h : s.Reaches d u path node) {v : Visit} (hv : v.path = u) :
    s.serve d v = if node.isDirectory then s.serveDirectory d v path
      else if endsInSlash u then pure .notFound else s.serveFile d v path := by
  rw [serve, hv, h.translated]
  dsimp only
  rw [admits_of_inside h.inside]
  dsimp only
  rw [h.stat]

/-! ### All requests -/

/-- The path of a request comes to an outcome, which answers every request for it. -/
theorem serve_answered (s : Site) (d : Disk) (u : String) : s.AnsweredBy d u (s.serve d) := by
  cases ht : translate s.rootPath u with
  | none =>
    refine ⟨.rejected, .rejected ht, fun v hv => ?_⟩
    rw [serve, hv, ht, Outcome.answer, hv]
  | some path =>
    rcases canonical_cases s d path with ⟨cause, hc⟩ | ⟨place, hc, hout⟩ | hin
    · refine ⟨.nothing, .unresolved (.path ht) hc, fun v hv => ?_⟩
      rw [serve, hv, ht]
      dsimp only
      rw [admits_of_error hc]
      rfl
    · refine ⟨.left place, .left (.path ht) hc hout, fun v hv => ?_⟩
      rw [serve, hv, ht]
      dsimp only
      rw [admits_of_left hc hout, Outcome.answer, hv]
    · cases hs : d.stat path with
      | error cause =>
        refine ⟨.nothing, .unseen ht hin hs, fun v hv => ?_⟩
        rw [serve, hv, ht]
        dsimp only
        rw [admits_of_inside hin, hs]
        rfl
      | ok node =>
        have h : s.Reaches d u path node := ⟨ht, hin, hs⟩
        cases hnode : node.isDirectory with
        | true =>
          obtain ⟨o, ho, hanswer⟩ := serveDirectory_answered h hnode
          refine ⟨o, ho, fun v hv => ?_⟩
          rw [serve_of_reaches h hv, hnode, if_pos rfl]
          exact hanswer v hv
        | false =>
          cases hslash : endsInSlash u with
          | true =>
            refine ⟨.nothing, .slashed h hnode hslash, fun v hv => ?_⟩
            rw [serve_of_reaches h hv, hnode, hslash]
            rfl
          | false =>
            obtain ⟨o, ho, hanswer⟩ := serveFile_answered (.path h hnode hslash)
            refine ⟨o, ho, fun v hv => ?_⟩
            rw [serve_of_reaches h hv, hnode, hslash]
            exact hanswer v hv

/-- A file that is to be sent for the path of a request, and can be read, decides about the
answer. -/
theorem serve_of_file {v : Visit} {content : Bytes} {modified : Instant}
    (h : s.Yields d v.path (.file path content modified)) :
    s.serve d v = (Outcome.file path content modified).answer s v := by
  cases h with
  | file hchosen hr =>
    have hfile : s.serveFile d v path = (Outcome.file path content modified).answer s v := by
      rw [serveFile, hr]
      rfl
    cases hchosen with
    | path hreaches hnode hslash =>
      rw [serve_of_reaches hreaches rfl, hnode, hslash]
      exact hfile
    | index hdir hi hin =>
      obtain ⟨node, hreaches, hnode, hslash⟩ := hdir
      rw [serve_of_reaches hreaches rfl, if_pos hnode, serveDirectory_of_some hslash hi,
        serveAdmitted, admits_of_inside hin]
      exact hfile

/-! ### A small site -/

/-- The place that names lead to. -/
def placeOf (names : List String) : Location := names.map Utf8.ofString

/-- A directory with a page, reached through two links one behind the other, and beside it one whose
name goes on where that of the root ends. -/
def sampleDisk : Disk where
  entries :=
    [(placeOf ["srv"], .directory {}),
      (placeOf ["srv", "www"], .directory {}),
      (placeOf ["srv", "www", "home"], .link (.ofString "/srv/www/pages/index")),
      (placeOf ["srv", "www", "pages"], .directory {}),
      (placeOf ["srv", "www", "pages", "index"], .link (.ofString "50% off.html")),
      (placeOf ["srv", "www", "pages", "50% off.html"],
        .file (Utf8.ofString "<p>hi</p>") ⟨784111777, 0⟩ {}),
      (placeOf ["srv", "www-secret"], .directory {}),
      (placeOf ["srv", "www-secret", "key"], .file (Utf8.ofString "key") ⟨784111777, 0⟩ {})]

/-- The directory as a site; what is looked for first as its index file would lie outside. -/
def sampleSite : Site where
  root := placeOf ["srv", "www"]
  serverName := "sample"
  indexFiles := ["../www-secret/none", "home"]
  listing := true
  mediaTypes := .standard

end FileServer.Site
