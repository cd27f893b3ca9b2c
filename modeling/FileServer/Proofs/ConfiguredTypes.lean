import FileServer.Launch.Prepare
import FileServer.Proofs.Framing
import FileServer.Proofs.HttpDates
import FileServer.Proofs.Layers
import FileServer.Proofs.MediaTypes
import FileServer.Proofs.Places
import FileServer.Proofs.SmallLetters

/-!
Configured media types reach the client. Loading keeps the types under their extensions in small
letters, which stay as they are when they are lower-cased again. So whatever the letters are in
which a file has its extension, either it is one of these as it is written or it is no extension
that the table knows, and then the type is found in small letters.
-/

namespace FileServer

namespace Value

variable {root other v : Value} {head name : String} {given : List (String × Value)}

/-! ### What setting a value touches -/

/-- Changing a value at the end of steps changes what stands under the first name of the key. -/
theorem exists_of_update {change : Value → Option Value} {steps : List KeyStep}
    (h : update head change steps root = some v) :
    ∃ w, v = table root.tableOrigin (putEntry (Text.lower head) w root.entries) := by
  induction steps generalizing change with
  | nil =>
    obtain ⟨w, -, heq⟩ := Option.bind_eq_some_iff.1 h
    cases heq
    exact ⟨w, rfl⟩
  | cons step before ih =>
    cases step with
    | name s => exact ih h
    | index i => exact ih h

/-- So does setting a value, whatever the steps of the key are. -/
theorem exists_of_setAt {key : Key} {w : Value} (h : root.setAt key w = some v) :
    ∃ w', v = table root.tableOrigin (putEntry (Text.lower key.head) w' root.entries) := by
  unfold setAt at h
  split at h
  case h_1 =>
    cases h
    exact ⟨_, merge_eq root key.head w⟩
  case h_2 => exact exists_of_update h
  case h_3 => exact exists_of_update h

theorem setAll_cons_eq_some_iff {e : String × Value} :
    root.setAll (e :: given) = some v ↔
      ∃ next, root.setAt (Key.ofText e.1) e.2 = some next ∧ next.setAll given = some v := by
  rw [setAll, List.foldlM_cons]
  exact Option.bind_eq_some_iff

/-- A value under one name is not touched by what is set at keys that begin with another. -/
theorem at?_setAt_of_ne {key : Key} {w : Value} (h : root.setAt key w = some v)
    (hne : Text.lower key.head ≠ name) : v.at? [name] = root.at? [name] := by
  obtain ⟨w', rfl⟩ := exists_of_setAt h
  rw [at?_singleton, at?_singleton, entries, lookup_putEntry, if_neg hne]

/-- Setting a value acts on what stands under a name as merging does: a key that begins with the name
is made of names, and any other key leaves it alone. -/
theorem at?_setAt {key : Key} {w : Value} (hnamed : Text.lower key.head = name → key.IsNamed)
    (hroot : root.at? [name] = other.at? [name]) (h : root.setAt key w = some v) :
    v.at? [name] = (other.merge key.head (inside key.below w)).at? [name] := by
  by_cases hhead : Text.lower key.head = name
  · rw [setAt_eq (hnamed hhead)] at h
    cases h
    rw [at?_singleton, at?_singleton] at hroot
    rw [at?_merge, at?_merge, if_pos hhead, if_pos hhead, hroot]
  · rw [at?_setAt_of_ne h hhead, at?_merge, if_neg hhead, hroot]

/-- The same for values that are set one after another. -/
theorem at?_setAll (hnamed : ∀ e ∈ given, Text.lower (Key.ofText e.1).head = name →
    (Key.ofText e.1).IsNamed) (hroot : root.at? [name] = other.at? [name])
    (h : root.setAll given = some v) : v.at? [name] = (other.overlay (nest given)).at? [name] := by
  induction given generalizing root other with
  | nil =>
    cases h
    exact hroot
  | cons e rest ih =>
    obtain ⟨next, hset, hrest⟩ := setAll_cons_eq_some_iff.1 h
    obtain ⟨hfirst, hnamed'⟩ := List.forall_mem_cons.1 hnamed
    exact ih hnamed' (at?_setAt hfirst hroot hset) hrest

/-- All values set, there is a table in which no name stands twice. -/
theorem table_setAll (htable : root.isTable = true) (hnodup : root.names.Nodup)
    (h : root.setAll given = some v) : v.isTable = true ∧ v.names.Nodup := by
  induction given generalizing root with
  | nil =>
    cases h
    exact ⟨htable, hnodup⟩
  | cons e rest ih =>
    obtain ⟨next, hset, hrest⟩ := setAll_cons_eq_some_iff.1 h
    obtain ⟨w, hnext⟩ := exists_of_setAt hset
    refine ih ?_ ?_ hrest
    · rw [hnext]
      rfl
    · rw [hnext]
      exact nodup_putEntry hnodup

/-- The names in a table that was put together from several values are in small letters. -/
theorem lower_names_overlay (path : List String) {w : Value}
    (hw : (emptyTable.overlay (nest given)).at? path = some w) :
    ∀ n ∈ w.names, Text.lower n = n := by
  refine forall_at?_overlay (P := fun w => ∀ n ∈ w.names, Text.lower n = n) ?_ ?_ path
    (nest given) emptyTable ?_ ?_ w hw
  · simp [names, entries, emptyTable]
  · intro old name v h n hn
    rw [merge_eq] at hn
    rcases mem_names_putEntry hn with rfl | hold
    · exact Text.lower_lower name
    · exact h n hold
  · intro w _ hleaf
    simp [names, entries_of_not_isTable hleaf]
  · intro w hw
    cases path with
    | nil =>
      cases Option.some.inj hw
      simp [names, entries, emptyTable]
    | cons => cases hw

/-! ### Groups that have been read -/

/-- A group that has been read from a table holds what is found under the names of its slots. -/
theorem holds_of_toGroup {σ : Type} {kind : String} {slots : List (Slot σ)} {start a : σ}
    (hslots : Apart slots) (htable : v.isTable = true) (hnodup : v.names.Nodup)
    (h : toGroup kind (slots.map Slot.setter) start v = .ok a) :
    ∀ slot ∈ slots, slot.Holds start a (v.at? [slot.name]) := by
  obtain ⟨b, hb, hholds⟩ := toGroup_filled kind hslots htable hnodup
    (readable_of_toGroup hslots htable h) start
  cases h.symm.trans hb
  exact hholds

theorem readable_of_toEntries {α : Type} {read : Value → Decoded α} {origin : Option String}
    {entries : List (String × Value)} {taken : List (String × α)}
    (h : toEntries read (table origin entries) = .ok taken) :
    ∀ e ∈ entries, ∃ a, read e.2 = .ok a := by
  rw [toEntries] at h
  induction entries generalizing taken with
  | nil => simp
  | cons e rest ih =>
    rw [List.mapM_cons] at h
    obtain ⟨first, hfirst, hmore⟩ := bind_eq_ok_iff.1 h
    obtain ⟨more, hrest, -⟩ := bind_eq_ok_iff.1 hmore
    obtain ⟨a, ha, -⟩ := bind_eq_ok_iff.1 hfirst
    exact List.forall_mem_cons.2 ⟨⟨a, mapError_eq_ok_iff.1 ha⟩, ih hrest⟩

/-- Entries that have been read from a table have all been read, under their names. -/
theorem lookup_of_toEntries {α : Type} {read : Value → Decoded α} {taken : List (String × α)}
    (htable : v.isTable = true) (h : toEntries read v = .ok taken) :
    taken.map (·.1) = v.names ∧
      ∀ name, (v.at? [name]).map read = (taken.lookup name).map .ok := by
  obtain ⟨origin, entries, rfl⟩ := exists_eq_table htable
  obtain ⟨taken', htaken', hnames, hlookup⟩ := toEntries_filled htable (readable_of_toEntries h)
  cases h.symm.trans htaken'
  refine ⟨hnames, fun name => ?_⟩
  rw [at?_singleton]
  exact hlookup name

end Value

namespace Settings

open Value

variable {given : List (String × Value)} {settings : Settings} {key type : String} {v : Value}

/-! ### The types of the settings -/

/-- What is given for media types is given under names and in tables, and `type` is given for one
key that is `key` in small letters, and no other such key. -/
structure GivesType (given : List (String × Value)) (key type : String) : Prop where
  named : ∀ e ∈ given, Text.lower (Key.ofText e.1).head = "mime" → (Key.ofText e.1).IsNamed
  sectionTable : ∀ v ∈ (nest given).given ["mime"], v.isTable = true
  typesTable : ∀ v ∈ (nest given).given mediaPath, v.isTable = true
  once : ∃ v, (nest given).given (mediaPath ++ [Text.lower key]) = [v] ∧ toText v = .ok type

instance (values : List Value) (type : String) :
    Decidable (∃ v, values = [v] ∧ toText v = .ok type) :=
  match values with
  | [] => .isFalse (by simp)
  | [v] => decidable_of_iff ((toText v).toOption = some type)
      ⟨fun h => ⟨v, rfl, eq_ok_of_toOption h⟩, fun ⟨_, hv, h⟩ => by
        rw [List.singleton_inj.1 hv, h]
        rfl⟩
  | _ :: _ :: _ => .isFalse (by simp)

instance (given : List (String × Value)) (key type : String) :
    Decidable (GivesType given key type) :=
  decidable_of_iff (_ ∧ _ ∧ _ ∧ _)
    ⟨fun ⟨named, sectionTable, typesTable, once⟩ => { named, sectionTable, typesTable, once },
    fun h => ⟨h.named, h.sectionTable, h.typesTable, h.once⟩⟩

/-- What is given for the key stands in the table that all is put together to. -/
theorem GivesType.at?_merged (h : GivesType given key type) :
    ∃ v, (merged given).at? (mediaPath ++ [Text.lower key]) = some v ∧ toText v = .ok type := by
  obtain ⟨v, hv, htext⟩ := h.once
  have hleads : Leads (mediaPath ++ [Text.lower key]) (nest given) := by
    refine leads_cons_iff.2 ⟨rfl, fun w hw => ?_⟩
    refine leads_cons_iff.2 ⟨h.sectionTable w hw, fun x hx => ?_⟩
    refine leads_cons_iff.2 ⟨h.typesTable x (mem_given_cons.2 ⟨w, hw, hx⟩), fun y hy => ?_⟩
    have hmem : y ∈ (nest given).given (mediaPath ++ [Text.lower key]) :=
      mem_given_cons.2 ⟨w, hw, mem_given_cons.2 ⟨x, hx, hy⟩⟩
    rw [hv, List.mem_singleton] at hmem
    rw [hmem]
    exact isTable_of_toText htext
  exact ⟨v, (Settings.at?_merged hleads).trans (congrArg List.getLast? hv), htext⟩

/-- The media types that have been read are what stands in the place of the types in a table with a
table for the section. -/
theorem toEntries_of_ofValue {mime types : Value} (htable : v.isTable = true)
    (hnodup : v.names.Nodup) (hok : ofValue v = .ok settings) (hmime : v.at? ["mime"] = some mime)
    (hmimeTable : mime.isTable = true) (hmimeNodup : mime.names.Nodup)
    (htypes : mime.at? ["types"] = some types) :
    toEntries toText types = .ok settings.mediaTypes := by
  have hsection : mediaSection.slot ∈ sections.map Section.slot := by simp [sections]
  have hmedia := holds_of_toGroup apart_sections htable hnodup hok _ hsection
  change Slot.Holds _ _ _ (v.at? ["mime"]) at hmedia
  rw [hmime] at hmedia
  have hslot := holds_of_toGroup mediaSection.apart hmimeTable hmimeNodup hmedia _
    (List.mem_singleton.2 rfl)
  change Slot.Holds _ _ _ (mime.at? ["types"]) at hslot
  rw [htypes] at hslot
  exact hslot

/-- Settings that have been read from what is given have the type for the key in small letters, and
all their media types are under names in small letters. -/
theorem GivesType.mediaTypes (h : GivesType given key type)
    (hset : emptyTable.setAll given = some v) (hok : ofValue v = .ok settings) :
    (settings.mediaTypes.map (·.1)).Nodup ∧
      (∀ name ∈ settings.mediaTypes.map (·.1), Text.lower name = name) ∧
      settings.mediaTypes.lookup (Text.lower key) = some type := by
  obtain ⟨x, hx, htext⟩ := h.at?_merged
  rw [at?_append] at hx
  obtain ⟨types, htypes, hx⟩ := Option.bind_eq_some_iff.1 hx
  obtain ⟨mime, hmime, hbelow⟩ : ∃ mime, (merged given).at? ["mime"] = some mime ∧
      mime.at? ["types"] = some types := by
    rw [mediaPath, at?_cons] at htypes
    exact Option.bind_eq_some_iff.1 htypes
  have hempty : emptyTable.names.Nodup := List.nodup_nil
  obtain ⟨htable, hnodup⟩ := table_setAll rfl hempty hset
  have htaken := toEntries_of_ofValue htable hnodup hok
    ((at?_setAll h.named rfl hset).trans hmime) (isTable_merged h.sectionTable hmime)
    (nodup_names_merged hmime) hbelow
  obtain ⟨hnames, hlookup⟩ := lookup_of_toEntries (isTable_merged h.typesTable htypes) htaken
  rw [hnames]
  refine ⟨nodup_names_merged htypes, lower_names_overlay mediaPath htypes, ?_⟩
  have hkey := hlookup (Text.lower key)
  rw [hx, Option.map_some, htext] at hkey
  obtain ⟨t, ht, heq⟩ := Option.map_eq_some_iff.1 hkey.symm
  cases heq
  exact ht

/-- The same for settings that have been loaded. -/
theorem mediaTypes_of_load {d : Disk} {name : String} {environment : List (String × String)}
    {file : List (String × Value)} (hfile : givenByFile d name = .ok file)
    (h : GivesType (file ++ Environment.given environment) key type)
    (hload : load d name environment = .ok settings) :
    (settings.mediaTypes.map (·.1)).Nodup ∧
      (∀ name ∈ settings.mediaTypes.map (·.1), Text.lower name = name) ∧
      settings.mediaTypes.lookup (Text.lower key) = some type := by
  rw [load, hfile, ok_bind] at hload
  split at hload
  case h_1 v hset => exact h.mediaTypes hset hload
  case h_2 => cases hload

end Settings

namespace MediaTypes

variable {extras : List (String × String)} {e type : String}

/-! ### Types in small letters -/

/-- Extensions whose types are built in are in small letters. -/
theorem lower_of_builtIn? (h : builtIn? e = some type) : Text.lower e = e := by
  have hsmall : ∀ x ∈ standard.entries, Text.IsPlain x.1.toList ∧
      x.1.toList.map Char.toLower = x.1.toList := by decide +kernel
  rw [← asWritten?_standard] at h
  obtain ⟨hplain, hletters⟩ := hsmall (e, type) (Disk.mem_of_lookup h)
  exact Text.lower_small hplain hletters

/-- Where all extra types are in small letters, the one of the extension in small letters is its
type, whatever letters the extension has. -/
theorem resolve_withExtras_of_lower (hnodup : (extras.map (·.1)).Nodup)
    (hsmall : ∀ name ∈ extras.map (·.1), Text.lower name = name)
    (h : extras.lookup (Text.lower e) = some type) : (withExtras extras).resolve e = type := by
  rw [resolve_withExtras (enumerates_lookup hnodup), typeWith]
  by_cases he : Text.lower e = e
  · rw [he] at h
    simp [h]
  · -- no type is found for the extension as it is written
    have hextra : extras.lookup e = none :=
      Value.lookup_eq_none_of_notMem fun hmem => he (hsmall e hmem)
    have hbuiltIn : builtIn? e = none :=
      Option.eq_none_iff_forall_ne_some.2 fun t ht => he (lower_of_builtIn? ht)
    simp [hextra, hbuiltIn, h]

/-- The same for a path whose last name has the extension. -/
theorem resolvePath_of_lower {path : Path} {stem tail : List Char}
    (hnodup : (extras.map (·.1)).Nodup) (hsmall : ∀ name ∈ extras.map (·.1), Text.lower name = name)
    (hname : (Utf8.toStringLossy (path.fileName?.getD [])).toList = stem ++ '.' :: tail)
    (hstem : ∃ c ∈ stem, c ≠ '.') (htail : '.' ∉ tail)
    (h : extras.lookup (Text.lower (String.ofList ('.' :: tail))) = some type) :
    (withExtras extras).resolvePath path = type := by
  rw [resolvePath, extensionOf_of_stem hname hstem htail]
  exact resolve_withExtras_of_lower hnodup hsmall h

end MediaTypes

namespace Site

variable {s : Site} {d : Disk} {q : Request} {v : Visit} {path : Path} {content : Bytes}
  {modified : Instant} {date type : String}

/-! ### Answers about files of a type -/

/-- A file whose type may stand in a header is sent unless the copy of the client is current, and
where it is sent, the answer shows its type. -/
theorem fileAnswer_typed (hdate : Calendar.HttpDate.write? modified = some date)
    (htype : s.mediaTypes.resolvePath path = type)
    (hvalue : isHeaderValue (Utf8.ofString type) = true) :
    (isCurrent v.ifModifiedSince modified = false →
        (s.fileAnswer v path content modified date).response.status = .ok) ∧
      ((s.fileAnswer v path content modified date).response.status = .ok →
        (s.fileAnswer v path content modified date).response.headers.getAll "content-type" =
          [Utf8.ofString type]) := by
  cases hcurrent : isCurrent v.ifModifiedSince modified with
  | false =>
    have hnodup := Answer.nodup_fileFields content.length type date
    rw [fileAnswer, hcurrent, htype, if_neg Bool.false_ne_true, Answer.file_eq_plain hvalue hdate]
    exact ⟨fun _ => rfl, fun _ => Answer.getAll_plain hnodup⟩
  | true =>
    rw [fileAnswer, hcurrent, if_pos rfl, (Answer.confirms_notModified hdate).status]
    refine ⟨fun h => ?_, fun h => ?_⟩
    · cases h
    · cases h

theorem mediaTypes_of_site {settings : Settings} (h : settings.site d = .ok s) :
    s.mediaTypes = .withExtras settings.mediaTypes := by
  obtain ⟨root, -, heq⟩ := bind_eq_ok_iff.1 h
  cases heq
  rfl

/-- A file of a known date, if it is found for a request, is answered with in the name of the
server. -/
theorem handle_of_file (hmethod : q.method = "GET" ∨ q.method = "HEAD")
    (h : s.Yields d q.target.path (.file path content modified)) :
    s.handle d q = match Calendar.HttpDate.write? modified with
      | none => .error ⟨modified⟩
      | some date =>
        .ok ((s.fileAnswer q.visit path content modified date).signed s.serverName) := by
  have hserve : s.serve d q.visit = (Outcome.file path content modified).answer s q.visit :=
    serve_of_file h
  rw [handle, dispatch_of_method hmethod, hserve, answer_file]
  cases Calendar.HttpDate.write? modified <;> rfl

/-- A media type that the settings give for an extension, in whatever letters, reaches the client
with every file that has the extension, in whatever letters: an answer that sends the file shows the
type, and the file is sent unless the copy of the client is current. -/
theorem handle_configuredType {d₁ d₂ : Disk} {name : String} {environment : List (String × String)}
    {file : List (String × Value)} {settings : Settings} {key : String} {stem tail : List Char}
    (hfile : Settings.givenByFile d₁ name = .ok file)
    (hgives : Settings.GivesType (file ++ Environment.given environment) key type)
    (hload : Settings.load d₁ name environment = .ok settings) (hsite : settings.site d₂ = .ok s)
    (hvalue : isHeaderValue (Utf8.ofString type) = true)
    (hmethod : q.method = "GET" ∨ q.method = "HEAD")
    (hfound : s.Yields d q.target.path (.file path content modified))
    (hname : (Utf8.toStringLossy (path.fileName?.getD [])).toList = stem ++ '.' :: tail)
    (hstem : ∃ c ∈ stem, c ≠ '.') (htail : '.' ∉ tail)
    (hletters : Text.lower (String.ofList ('.' :: tail)) = Text.lower key) :
    (Calendar.inRange modified = true → ∃ a, s.handle d q = .ok a) ∧
      ∀ a, s.handle d q = .ok a →
        (isCurrent q.visit.ifModifiedSince modified = false → a.response.status = .ok) ∧
        (a.response.status = .ok →
          a.response.headers.getAll "content-type" = [Utf8.ofString type]) := by
  obtain ⟨hnodup, hsmall, hlookup⟩ := Settings.mediaTypes_of_load hfile hgives hload
  have htype : s.mediaTypes.resolvePath path = type := by
    rw [mediaTypes_of_site hsite]
    exact MediaTypes.resolvePath_of_lower hnodup hsmall hname hstem htail (hletters ▸ hlookup)
  rw [handle_of_file hmethod hfound]
  constructor
  · intro hdate
    rw [Calendar.HttpDate.write?_eq_text hdate]
    exact ⟨_, rfl⟩
  · intro a ha
    cases hdate : Calendar.HttpDate.write? modified with
    | none =>
      rw [hdate] at ha
      cases ha
    | some date =>
      rw [hdate] at ha
      cases ha
      rw [Answer.status_signed, Answer.getAll_signed _ _ (by decide)]
      exact fileAnswer_typed hdate htype hvalue

/-- A directory with settings that give a type for an extension, and a file with the extension in
other letters. -/
def pageDisk : Disk :=
  (Settings.sampleDisk "config.toml" "[mime.types]\n\".HTML\" = \"text/x-page\"\n").put
    [Utf8.ofString "a.Html"] (.file (Utf8.ofString "hi") ⟨784111777, 0⟩ {})

/-- The site that these settings describe. -/
def pageSite : Site where
  root := []
  serverName := "devserve/0.1.0"
  indexFiles := ["index.html", "index.htm"]
  listing := true
  mediaTypes := .withExtras [(".html", "text/x-page")]

/-- The file is sent as what the settings say, not as what is built in. -/
theorem handle_configuredType_page :
    let q : Request := { method := "GET", target := { path := "/a.Html" } }
    ∃ file settings a, Settings.givenByFile pageDisk "config" = .ok file ∧
      Settings.GivesType (file ++ Environment.given []) ".HTML" "text/x-page" ∧
      Settings.load pageDisk "config" [] = .ok settings ∧ settings.site pageDisk = .ok pageSite ∧
      pageSite.Yields pageDisk q.target.path
        (.file (.ofString "/a.Html") (Utf8.ofString "hi") ⟨784111777, 0⟩) ∧
      pageSite.handle pageDisk q = .ok a ∧ a.response.status = .ok ∧
      a.response.headers.getAll "content-type" = [Utf8.ofString "text/x-page"] := by
  intro q
  obtain ⟨file, hfile, hgives⟩ : ∃ file, Settings.givenByFile pageDisk "config" = .ok file ∧
      Settings.GivesType (file ++ Environment.given []) ".HTML" "text/x-page" := by decide +kernel
  obtain ⟨settings, hload, hsite⟩ : ∃ settings, Settings.load pageDisk "config" [] = .ok settings ∧
      (settings.site pageDisk).toOption = some pageSite := by decide +kernel
  have hreaches : pageSite.Reaches pageDisk q.target.path (.ofString "/a.Html")
      (.file (Utf8.ofString "hi") ⟨784111777, 0⟩ {}) :=
    ⟨by decide +kernel,
      ⟨[Utf8.ofString "a.Html"], eq_ok_of_toOption (by decide +kernel), by decide⟩,
      eq_ok_of_toOption (by decide +kernel)⟩
  have hfound : pageSite.Yields pageDisk q.target.path
      (.file (.ofString "/a.Html") (Utf8.ofString "hi") ⟨784111777, 0⟩) :=
    .file (.path hreaches rfl (by decide +kernel)) (eq_ok_of_toOption (by decide +kernel))
  have hname : (Utf8.toStringLossy ((Path.ofString "/a.Html").fileName?.getD [])).toList =
      ['a'] ++ '.' :: "Html".toList := by decide +kernel
  obtain ⟨hanswered, hshown⟩ := handle_configuredType hfile hgives hload (eq_ok_of_toOption hsite)
    (by decide +kernel) (.inl rfl) hfound hname (by simp) (by decide +kernel) (by decide +kernel)
  obtain ⟨a, ha⟩ := hanswered (by decide)
  obtain ⟨hstatus, htype⟩ := hshown a ha
  have hok := hstatus (by decide +kernel)
  exact ⟨file, settings, a, hfile, hgives, hload, eq_ok_of_toOption hsite, hfound, ha, hok,
    htype hok⟩

end Site

end FileServer
