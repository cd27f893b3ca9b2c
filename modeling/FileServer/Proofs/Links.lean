import FileServer.Proofs.Answers
import FileServer.Proofs.Translation

/-!
Links in a listing lead to the entries that are listed. The link of a row is a relative reference of
one segment, which the path of the listing goes on by; it is translated to the path of the entry,
and asking for it needs no redirect.
-/

namespace FileServer

open Percent

/-! ### The text of a link -/

/-- A relative reference of one segment: unreserved characters and escapes, at least one, and for a
directory a slash behind them. -/
def IsReference (asDirectory : Bool) (cs : List Char) : Prop :=
  ∃ units : List (List Char), units ≠ [] ∧ (∀ unit ∈ units, IsUnit unit) ∧
    cs = units.flatten ++ if asDirectory then ['/'] else []

theorem Percent.IsUnit.ne_nil {unit : List Char} (h : IsUnit unit) : unit ≠ [] := by
  cases h <;> simp

theorem Percent.IsUnit.slash_notMem {unit : List Char} (h : IsUnit unit) : '/' ∉ unit := by
  cases h with
  | unreserved h =>
    rw [List.mem_singleton]
    rintro rfl
    exact absurd h (by decide)
  | escape hhi hlo =>
    have hdigit : ¬IsHexDigit '/' := by
      unfold IsHexDigit
      decide
    simp only [List.mem_cons, List.not_mem_nil, or_false, not_or]
    refine ⟨by decide, ?_, ?_⟩
    · rintro rfl
      exact hdigit hhi
    · rintro rfl
      exact hdigit hlo

/-- A reference ends in a slash if it is that of a directory. -/
theorem IsReference.endsInSlash {asDirectory : Bool} {t : String}
    (h : IsReference asDirectory t.toList) (u : String) :
    Site.endsInSlash (u ++ t) = asDirectory := by
  obtain ⟨units, hne, hunits, ht⟩ := h
  rw [Site.endsInSlash, String.toList_append, ht]
  cases asDirectory with
  | true => simp
  | false =>
    have hflat : units.flatten ≠ [] := by
      obtain ⟨unit, rest, rfl⟩ := List.exists_cons_of_ne_nil hne
      simp [(hunits unit List.mem_cons_self).ne_nil]
    have hlast : units.flatten.getLast hflat ≠ '/' := by
      intro heq
      obtain ⟨unit, hunit, hmem⟩ := List.mem_flatten.1 (heq ▸ List.getLast_mem hflat)
      exact (hunits unit hunit).slash_notMem hmem
    rw [if_neg Bool.false_ne_true, List.append_nil, List.getLast?_append,
      List.getLast?_eq_some_getLast hflat, Option.some_or]
    simpa using hlast

namespace ListingRow

/-- The link of a row as it is written in the page. -/
def href (r : ListingRow) : String := encode r.link

/-- The bytes that a row leads to are its name, with a slash behind that of a directory. -/
theorem ofString_link (r : ListingRow) :
    Utf8.ofString r.link = Site.linkBytes (Utf8.ofString r.name) r.isDirectory := by
  unfold link Site.linkBytes
  split
  · exact Utf8.ofString_append _ _
  · rw [List.append_nil]

/-- The link of a row with a proper name is a reference. -/
theorem isReference_link {r : ListingRow} (h : Name.IsProper (Utf8.ofString r.name)) :
    IsReference r.isDirectory r.href.toList := by
  refine ⟨(Utf8.ofString r.name).map encodeByte, ?_, ?_, ?_⟩
  · simpa using h.ne_nil
  · intro unit hunit
    obtain ⟨b, hb, rfl⟩ := List.mem_map.1 hunit
    exact isUnit_encodeByte fun heq => h.no_slash (heq ▸ hb)
  · rw [href, encode, String.toList_ofList, ofString_link, Site.linkBytes, List.flatMap_append,
      List.flatMap_def]
    cases r.isDirectory with
    | true => simp [encodeByte_slash]
    | false => simp

/-- The link of a row leads from the path of a request to a path on disk: it is what the page refers
to, a relative reference, and the path of the request is translated when it goes on by it. -/
structure LeadsTo (r : ListingRow) (root : Path) (u : String) (path : Path) : Prop where
  written : r.html =
    "<li><a href=\"" ++ r.href ++ "\">" ++ Html.escape r.label ++ "</a></li>\n"
  reference : IsReference r.isDirectory r.href.toList
  translated : Site.translate root (u ++ r.href) = some path

end ListingRow

/-! ### Asking for a link -/

namespace Site

variable {s : Site} {d : Disk} {v : Visit} {o : Outcome} {path : Path}

/-- Only a path without a slash at its end that leads to a directory is redirected. -/
theorem Shape.eq_moved {r : Response} (h : Shape v o r) (hstatus : r.status = .movedPermanently) :
    o = .moved := by
  cases h with
  | moved => rfl
  | missing => exact absurd hstatus (by decide)
  | unlisted => exact absurd hstatus (by decide)
  | bare => exact absurd hstatus (by decide)
  | listed => exact absurd hstatus (show Status.ok ≠ .movedPermanently by decide)
  | confirmed h => exact absurd (h.status.symm.trans hstatus) (by decide)
  | carried h => exact absurd (h.status.symm.trans hstatus) (by decide)

/-- A request for a path that ends in a slash exactly if it leads to a directory needs no
redirect. -/
theorem not_moved (ht : translate s.rootPath v.path = some path)
    (hslash : endsInSlash v.path = d.isDirectory path) {a : Answer} (h : s.serve d v = .ok a) :
    a.response.status ≠ .movedPermanently := by
  intro hstatus
  obtain ⟨o, ho, hshape⟩ := shape_of_serve h
  cases hshape.eq_moved hstatus
  cases ho with
  | moved hreaches hnode hnoslash =>
    cases ht.symm.trans hreaches.translated
    rw [hnoslash, Disk.isDirectory, hreaches.stat] at hslash
    exact Bool.false_ne_true (hslash.trans hnode)

/-- A request for a path that leads to a regular file in the root, without a slash at its end, is
answered with that file. -/
theorem serve_eq_serveFile (ht : translate s.rootPath v.path = some path)
    (hslash : endsInSlash v.path = d.isDirectory path) (hin : s.LeadsInside d path)
    (hfile : d.isFile path = true) : s.serve d v = s.serveFile d v path := by
  cases hstat : d.stat path with
  | error cause =>
    rw [Disk.isFile, hstat] at hfile
    cases hfile
  | ok node =>
    rw [Disk.isFile, hstat] at hfile
    rw [Disk.isDirectory, hstat] at hslash
    dsimp only at hfile hslash
    have hnode : node.isDirectory = false := by
      cases node with
      | file => rfl
      | directory => cases hfile
      | link => cases hfile
    rw [serve_of_reaches ⟨ht, hin, hstat⟩ rfl, hslash, hnode]
    rfl

/-- Requests for the path of a row are not redirected, and lead to the file of the row. -/
structure Follows (s : Site) (d : Disk) (v : Visit) (path : Path) : Prop where
  not_moved : ∀ a, s.serve d v = .ok a → a.response.status ≠ .movedPermanently
  file : s.LeadsInside d path → d.isFile path = true → s.serve d v = s.serveFile d v path

/-- Links in a listing lead to the entries that are listed, whatever their names are, and whatever
the path is by which the directory was asked for. -/
theorem link_leads_to_entry {root directory : Path} {u name : String}
    (hslash : endsInSlash u = true) (hdir : translate root u = some directory)
    (hname : Name.IsProper (Utf8.ofString name)) (hnul : 0 ∉ Utf8.ofString name) :
    (∀ r : ListingRow, r.name = name →
      r.LeadsTo root u (directory.child (Utf8.ofString name))) ∧
    ∀ (s : Site) (d : Disk) (entry : Disk.DirectoryEntry) (v : Visit), s.rootPath = root →
      entry.1 = Utf8.ofString name → v.path = u ++ (row d directory entry).href →
      s.Follows d v (directory.child (Utf8.ofString name)) := by
  have hleads : ∀ r : ListingRow, r.name = name →
      r.LeadsTo root u (directory.child (Utf8.ofString name)) := by
    rintro r rfl
    exact ⟨rfl, ListingRow.isReference_link hname,
      translate_append_link hslash hdir hname hnul r.ofString_link⟩
  refine ⟨hleads, ?_⟩
  rintro s d ⟨bytes, node⟩ v rfl rfl hv
  obtain ⟨-, hreference, htranslated⟩ :=
    hleads (row d directory (Utf8.ofString name, node)) (Utf8.toStringLossy_ofString name)
  have hends := hreference.endsInSlash u
  rw [← hv] at hends htranslated
  exact ⟨fun a h => not_moved htranslated hends h, serve_eq_serveFile htranslated hends⟩

/-- The page of the small site stands in its directory under a name with a percent sign, and is sent
when its link is followed. -/
theorem samplePage_followed :
    let name := Utf8.ofString "50% off.html"
    let entry : Disk.DirectoryEntry := (name, .file (Utf8.ofString "<p>hi</p>") ⟨784111777, 0⟩ {})
    let directory := Path.ofString "/srv/www/pages"
    let v : Visit := { path := "/pages/50%25%20off.html" }
    entry ∈ sampleDisk.entriesOf (placeOf ["srv", "www", "pages"]) ∧
      v.path = "/pages/" ++ (row sampleDisk directory entry).href ∧
      sampleSite.serve sampleDisk v = sampleSite.serveFile sampleDisk v (directory.child name) := by
  intro name entry directory v
  have hdir : translate sampleSite.rootPath "/pages/" = some directory := by decide +kernel
  have hname : Name.IsProper name := ⟨by decide, by decide, by decide, by decide⟩
  have hpath : v.path = "/pages/" ++ (row sampleDisk directory entry).href := by decide +kernel
  have hfollows : sampleSite.Follows sampleDisk v (directory.child name) :=
    (link_leads_to_entry (by decide) hdir hname (by decide)).2 sampleSite sampleDisk entry v rfl
      rfl hpath
  have hplace : sampleDisk.canonical (directory.child name) =
      .ok (placeOf ["srv", "www", "pages", "50% off.html"]) := by rfl
  refine ⟨by decide +kernel, hpath, hfollows.file ⟨_, hplace, ?_⟩ (by decide +kernel)⟩
  exact List.prefix_append _ (placeOf ["pages", "50% off.html"])

end Site

end FileServer
