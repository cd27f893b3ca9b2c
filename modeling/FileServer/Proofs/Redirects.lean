import FileServer.Proofs.Links
import Mathlib.Data.List.TakeWhile

/-!
Where a directory is redirected to. The location is the path of the request between two slashes,
with the query of the request behind it:

    path ──▶ slashes in front dropped ──▶ / path / ──▶ ? query

Slashes at either end leave no names, so the location stands for the same directory, and it ends in
a slash, so that nothing is redirected twice. It begins with a single slash, unless the path of the
request is empty, as it is where only an authority is asked for.
-/

namespace FileServer.Site

variable {s : Site} {d : Disk} {v : Visit} {a : Answer} {u location : String} {bs : Bytes}
  {names : List Name}

/-! ### The text of the location -/

/-- The path of the location to which a path is redirected. -/
def slashPath (u : String) : String := String.ofList ('/' :: u.toList.dropWhile (· == '/') ++ ['/'])

/-- A location cut at its first question mark: the path, and the query if there is one. -/
def cutAtQuery (location : String) : String × Option String :=
  (String.ofList (location.toList.takeWhile (· != '?')),
    match location.toList.dropWhile (· != '?') with
    | _ :: query => some (String.ofList query)
    | [] => none)

/-- A location that is taken for another host: it begins with two slashes. -/
def IsProtocolRelative (location : String) : Prop := ['/', '/'] <+: location.toList

instance (location : String) : Decidable (IsProtocolRelative location) :=
  inferInstanceAs (Decidable (_ <+: _))

/-- The location is the path and, where there is one, a question mark and the query. -/
theorem slashForm_eq (v : Visit) :
    slashForm v = slashPath v.path ++ (v.query.map ("?" ++ ·)).getD "" := by
  unfold slashForm slashPath
  cases v.query with
  | none => exact String.append_empty.symm
  | some query => exact String.append_assoc

theorem toList_slashPath (u : String) :
    (slashPath u).toList = '/' :: (u.toList.dropWhile (· == '/') ++ ['/']) := by
  rw [slashPath, String.toList_ofList, List.cons_append]

theorem endsInSlash_slashPath (u : String) : endsInSlash (slashPath u) = true :=
  endsInSlash_iff.2 ⟨'/' :: u.toList.dropWhile (· == '/'), by rw [toList_slashPath]; rfl⟩

/-- No question mark comes into the path of the location. -/
theorem mark_notMem_slashPath (hmark : '?' ∉ u.toList) : '?' ∉ (slashPath u).toList := by
  rw [toList_slashPath, List.mem_cons, List.mem_append, List.mem_singleton]
  rintro (h | h | h)
  · cases h
  · exact hmark ((List.dropWhile_suffix _).subset h)
  · cases h

/-- A path without a question mark is cut from the query behind it. -/
theorem cutAtQuery_append {path : String} (hmark : '?' ∉ path.toList) (query : Option String) :
    cutAtQuery (path ++ (query.map ("?" ++ ·)).getD "") = (path, query) := by
  have hpath : ∀ c ∈ path.toList, (c != '?') = true := by
    intro c hc
    rw [bne_iff_ne]
    rintro rfl
    exact hmark hc
  rw [cutAtQuery, String.toList_append, List.takeWhile_append_of_pos hpath,
    List.dropWhile_append_of_pos hpath]
  cases query with
  | none => simp
  | some query => simp [String.toList_append]

/-- A location is cut into the path and the query of which it was made. -/
theorem cutAtQuery_slashForm (hmark : '?' ∉ v.path.toList) :
    cutAtQuery (slashForm v) = (slashPath v.path, v.query) := by
  rw [slashForm_eq]
  exact cutAtQuery_append (mark_notMem_slashPath hmark) v.query

/-- The location is taken for another host exactly if nothing but slashes stands in the path. -/
theorem isProtocolRelative_slashForm :
    IsProtocolRelative (slashForm v) ↔ v.path.toList.dropWhile (· == '/') = [] := by
  rw [IsProtocolRelative, slashForm_eq, String.toList_append, toList_slashPath, List.cons_append,
    List.cons_prefix_cons, and_iff_right rfl]
  -- what is left when slashes have been dropped does not begin with one
  have hhead := List.head?_dropWhile_not (· == '/') v.path.toList
  cases hrest : v.path.toList.dropWhile (· == '/') with
  | nil => simp
  | cons c rest =>
    rw [hrest] at hhead
    have hc : c ≠ '/' := beq_eq_false_iff_ne.1 hhead
    refine iff_of_false (fun hprefix => ?_) (List.cons_ne_nil c rest)
    exact hc (List.cons_prefix_cons.1 hprefix).1.symm

/-- A path without a slash at its end has nothing but slashes in it only if it is empty. -/
theorem dropWhile_slashes_eq_nil_iff (hslash : endsInSlash u = false) :
    u.toList.dropWhile (· == '/') = [] ↔ u = "" := by
  rw [← String.toList_eq_nil_iff, List.dropWhile_eq_nil_iff]
  constructor
  · intro hall
    cases hlast : u.toList.getLast? with
    | none => exact List.getLast?_eq_none_iff.1 hlast
    | some c =>
      have hc : c = '/' := beq_iff_eq.1 (hall c (List.mem_of_getLast? hlast))
      rw [endsInSlash, hlast, hc] at hslash
      cases hslash
  · intro hnil c hc
    rw [hnil] at hc
    cases hc

/-! ### The names of the location -/

/-- Decoded bytes are a text whose parts settle to names. -/
def Settles (bs : Bytes) (names : List Name) : Prop :=
  (∃ cs, Utf8.decode? bs = some cs) ∧ settle [] (splitSlashes bs) = some names

/-- A slash in front leaves no name. -/
theorem settles_slash_cons : Settles (slash :: bs) names ↔ Settles bs names := by
  have hsymbols : Utf8.symbols (slash :: bs) = some '/' :: Utf8.symbols bs :=
    Utf8.symbols_one (by decide) bs
  refine and_congr ⟨fun ⟨cs, hcs⟩ => ?_, fun ⟨cs, hcs⟩ => ⟨'/' :: cs, ?_⟩⟩ ?_
  · rw [Utf8.decode?_eq_some_iff, hsymbols] at hcs
    obtain ⟨c, rest, -, -, hrest⟩ := List.map_eq_cons_iff.1 hcs.symm
    exact ⟨rest, Utf8.decode?_eq_some_iff.2 hrest.symm⟩
  · rw [Utf8.decode?_eq_some_iff] at hcs ⊢
    rw [hsymbols, hcs]
    rfl
  · rw [← List.nil_append (slash :: bs), splitSlashes_append_slash]
    exact iff_of_eq (congrArg (· = some names) (settle_empty [] _))

/-- Slashes in front leave no names. -/
theorem settles_dropWhile : ∀ cs : List Char,
    Settles (Percent.decodeBytes (Utf8.encode (cs.dropWhile (· == '/')))) names ↔
      Settles (Percent.decodeBytes (Utf8.encode cs)) names
  | [] => Iff.rfl
  | c :: cs => by
    by_cases hc : c = '/'
    · have hslash : Percent.decodeBytes (Utf8.encode ('/' :: cs)) =
          slash :: Percent.decodeBytes (Utf8.encode cs) :=
        Percent.decodeBytes_append_slash (Utf8.encode cs) []
      rw [hc, hslash, settles_slash_cons, ← settles_dropWhile cs]
      rfl
    · rw [List.dropWhile_cons_of_neg (by simpa using hc)]

/-- A slash at the end leaves no name. -/
theorem Settles.concat_slash (h : Settles bs names) : Settles (bs ++ [slash]) names := by
  obtain ⟨⟨cs, hcs⟩, hsettle⟩ := h
  have hslash : Utf8.decode? [slash] = some ['/'] := by decide
  refine ⟨⟨_, Utf8.decode?_append hcs hslash⟩, ?_⟩
  rw [splitSlashes_append_slash]
  exact (settle_concat_empty _ _).trans hsettle

/-- The location stands for the same names as the path. -/
theorem namesOf_slashPath (h : namesOf u = some names) : namesOf (slashPath u) = some names := by
  have hdecode : Percent.decode (slashPath u) =
      slash :: (Percent.decodeBytes (Utf8.encode (u.toList.dropWhile (· == '/'))) ++ [slash]) := by
    rw [Percent.decode, Utf8.ofString, toList_slashPath, ← List.singleton_append,
      Utf8.encode_append, Utf8.encode_append]
    exact (Percent.decodeBytes_append_slash _ []).trans
      (congrArg (slash :: ·) (Percent.decodeBytes_append_slash [] _))
  refine namesOf_eq_some_iff.2 ?_
  rw [hdecode]
  refine settles_slash_cons.2 (Settles.concat_slash ?_)
  exact (settles_dropWhile u.toList).2 (namesOf_eq_some_iff.1 h)

/-! ### Redirected requests -/

/-- A redirect with a location has the one that is made of path and query. -/
theorem eq_slashForm_of_moved (h : s.serve d v = .ok a)
    (hstatus : a.response.status = .movedPermanently)
    (hlocation : a.response.headers.get? "location" = some (Utf8.ofString location)) :
    s.Yields d v.path .moved ∧ location = slashForm v := by
  obtain ⟨o, ho, hanswer⟩ := serve_answered s d v.path
  rw [hanswer v rfl] at h
  cases (shape_of_answer h).eq_moved hstatus
  refine ⟨ho, ?_⟩
  cases h
  rw [Answer.redirect, Answer.checked] at hlocation
  split at hlocation
  case isTrue =>
    rw [Headers.get?_eq_head?, Answer.getAll_plain (by simp [Answer.lengthField])] at hlocation
    have htext := congrArg Utf8.toStringLossy (Option.some.inj hlocation)
    rw [Utf8.toStringLossy_ofString, Utf8.toStringLossy_ofString] at htext
    exact htext.symm
  case isFalse => cases hlocation

/-- The location of a redirect begins with a slash, and it is taken for another host exactly if the
path of the request is empty. -/
theorem location_protocolRelative_iff (h : s.serve d v = .ok a)
    (hstatus : a.response.status = .movedPermanently)
    (hlocation : a.response.headers.get? "location" = some (Utf8.ofString location)) :
    location.toList.head? = some '/' ∧ (IsProtocolRelative location ↔ v.path = "") := by
  obtain ⟨ho, rfl⟩ := eq_slashForm_of_moved h hstatus hlocation
  cases ho with
  | moved hreaches hnode hslash =>
    refine ⟨?_, isProtocolRelative_slashForm.trans (dropWhile_slashes_eq_nil_iff hslash)⟩
    rw [slashForm_eq, String.toList_append, toList_slashPath]
    rfl

/-- The directory of the pages is redirected to its form with a slash, which is no other host. -/
theorem location_samplePages :
    let v : Visit := { path := "//pages" }
    let a := Answer.redirect "/pages/"
    sampleSite.serve sampleDisk v = .ok a ∧ a.response.status = .movedPermanently ∧
      a.response.headers.get? "location" = some (Utf8.ofString "/pages/") ∧
      ¬IsProtocolRelative "/pages/" := by
  intro v a
  have hserve : sampleSite.serve sampleDisk v = .ok a := eq_ok_of_toOption (by decide +kernel)
  have hlocation : a.response.headers.get? "location" = some (Utf8.ofString "/pages/") := by
    decide +kernel
  refine ⟨hserve, rfl, hlocation, fun hrelative => ?_⟩
  have hempty : v.path = "" := (location_protocolRelative_iff hserve rfl hlocation).2.1 hrelative
  exact absurd hempty (by decide)

/-- A target that is only an authority has an empty path, and what it is redirected to is taken for
another host. -/
theorem authority_protocolRelative :
    let q : Request := { method := "GET", target := { path := "" } }
    let a := Answer.redirect "//"
    Request.make (Utf8.ofString "GET") (Utf8.ofString "example.com") .v11 [] = .ok q ∧
      sampleSite.serve sampleDisk q.visit = .ok a ∧ a.response.status = .movedPermanently ∧
      a.response.headers.get? "location" = some (Utf8.ofString "//") ∧ IsProtocolRelative "//" := by
  intro q a
  have hmake : Request.make (Utf8.ofString "GET") (Utf8.ofString "example.com") .v11 [] = .ok q :=
    eq_ok_of_toOption (by decide +kernel)
  have hserve : sampleSite.serve sampleDisk q.visit = .ok a :=
    eq_ok_of_toOption (by decide +kernel)
  exact ⟨hmake, hserve, rfl, by decide +kernel, by decide⟩

/-- A redirect leads to the same directory in one hop. Cut at its first question mark, the location
is a path that ends in a slash and stands for the same names, and the query of the request; a
request for that path is not redirected again. -/
theorem redirect_reaches_directory (hmark : '?' ∉ v.path.toList) (h : s.serve d v = .ok a)
    (hstatus : a.response.status = .movedPermanently)
    (hlocation : a.response.headers.get? "location" = some (Utf8.ofString location)) :
    ∃ path directory, cutAtQuery location = (path, v.query) ∧ endsInSlash path = true ∧
      (∀ root, translate root path = translate root v.path) ∧ s.ReachesDirectory d path directory ∧
      ∀ w : Visit, w.path = path → ∀ b, s.serve d w = .ok b →
        b.response.status ≠ .movedPermanently := by
  obtain ⟨ho, rfl⟩ := eq_slashForm_of_moved h hstatus hlocation
  cases ho with
  | @moved directory node hreaches hnode hslash =>
    obtain ⟨names, hnames, -⟩ := Option.map_eq_some_iff.1 hreaches.translated
    have htranslate : ∀ root, translate root (slashPath v.path) = translate root v.path :=
      fun root => by rw [translate, translate, namesOf_slashPath hnames, hnames]
    have hreached : s.Reaches d (slashPath v.path) directory node :=
      ⟨(htranslate _).trans hreaches.translated, hreaches.inside, hreaches.stat⟩
    have hends := endsInSlash_slashPath v.path
    refine ⟨slashPath v.path, directory, cutAtQuery_slashForm hmark, hends, htranslate,
      ⟨node, hreached, hnode, hends⟩, fun w hw b hb => ?_⟩
    have hdirectory : d.isDirectory directory = true := by
      rw [Disk.isDirectory, hreaches.stat]
      exact hnode
    exact not_moved (hw ▸ hreached.translated) (hw ▸ hends.trans hdirectory.symm) hb

/-- The directory of the pages is reached in one hop, and the query stays, with the question mark in
it. -/
theorem redirect_reaches_samplePages :
    let v : Visit := { path := "/%70ages", query := some "a=1?b" }
    let a := Answer.redirect "/%70ages/?a=1?b"
    '?' ∉ v.path.toList ∧ sampleSite.serve sampleDisk v = .ok a ∧
      a.response.status = .movedPermanently ∧
      a.response.headers.get? "location" = some (Utf8.ofString "/%70ages/?a=1?b") ∧
      ∃ directory, cutAtQuery "/%70ages/?a=1?b" = ("/%70ages/", some "a=1?b") ∧
        sampleSite.ReachesDirectory sampleDisk "/%70ages/" directory := by
  intro v a
  have hmark : '?' ∉ v.path.toList := by decide
  have hserve : sampleSite.serve sampleDisk v = .ok a := eq_ok_of_toOption (by decide +kernel)
  have hlocation : a.response.headers.get? "location" =
      some (Utf8.ofString "/%70ages/?a=1?b") := by
    decide +kernel
  obtain ⟨path, directory, hcut, -, -, hreaches, -⟩ :=
    redirect_reaches_directory hmark hserve rfl hlocation
  have hpath : cutAtQuery "/%70ages/?a=1?b" = ("/%70ages/", some "a=1?b") := by decide +kernel
  rw [hpath] at hcut
  obtain ⟨rfl, -⟩ := Prod.mk.inj hcut
  exact ⟨hmark, hserve, rfl, hlocation, directory, hpath, hreaches⟩

end FileServer.Site
