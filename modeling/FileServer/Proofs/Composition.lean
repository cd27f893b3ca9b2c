import FileServer.Proofs.Containment
import FileServer.Proofs.CrossOrigin
import FileServer.Proofs.Framing
import FileServer.Proofs.Targets

/-!
How answers are composed. The status of an answer decides which fields it has of its own and in
which order; the grant for scripts of every origin stands before them and the name of the server
behind. What an answer repeats from outside in its fields may stand there: the address of a
directory, the type of a file, the date of its last change.
-/

namespace FileServer

/-! ### The names of fields -/

/-- The names of all fields, in order. -/
def Headers.names (h : Headers) : List String := h.fields.map (·.1)

namespace Headers

variable {h : Headers} {name : String}

/-- A field of a new name comes last. -/
theorem fields_insert_of_notMem (hname : name ∉ h.names) (value : Bytes) :
    (h.insert name value).fields = h.fields ++ [(name, value)] := by
  refine insertField_of_forall_ne fun f hf heq => hname ?_
  rw [← show f.1 = name from heq]
  exact List.mem_map_of_mem hf

/-- Fields among which there is no grant only get one in front. -/
theorem fields_allowAnyOrigin_of_notMem (hname : allowOrigin ∉ h.names) :
    h.allowAnyOrigin.fields = (allowOrigin, Utf8.ofString "*") :: h.fields := by
  have hkept : h.fields.filter (·.1 ≠ allowOrigin) = h.fields := by
    refine List.filter_eq_self.2 fun f hf => decide_eq_true fun heq => hname ?_
    rw [← heq]
    exact List.mem_map_of_mem hf
  rw [fields_allowAnyOrigin, granted, hkept]
  rfl

end Headers

/-- The names of the fields that an answer has of its own, by its status. Of the answers that all
went well with, the one with a file gives the date of its last change. -/
inductive OwnNames (isFile : Prop) : Status → List String → Prop
  | file (h : isFile) : OwnNames isFile .ok ["content-type", "content-length", "last-modified"]
  | page (h : ¬isFile) : OwnNames isFile .ok ["content-type", "content-length"]
  | options : OwnNames isFile .noContent
      ["allow", "access-control-allow-methods", "access-control-allow-headers",
        "access-control-max-age"]
  | moved : OwnNames isFile .movedPermanently ["location", "content-length"]
  | current : OwnNames isFile .notModified ["last-modified"]
  | missing : OwnNames isFile .notFound ["content-type", "content-length"]
  | refused : OwnNames isFile .methodNotAllowed ["content-type", "content-length", "allow"]

/-- The fields of an answer are those of its status. -/
def Answer.Composed (isFile : Prop) (a : Answer) : Prop :=
  OwnNames isFile a.response.status a.response.headers.names

variable {isFile : Prop} {status : Status}

/-- No name comes twice, nor is it one of those that stand around all others. -/
theorem OwnNames.nodup {names : List String} (h : OwnNames isFile status names) :
    (allowOrigin :: names ++ ["server"]).Nodup := by
  cases h <;> decide

namespace Answer

variable {fallback : Status} {fields : List (String × String)} {body : Body}

theorem names_plain (h : (fields.map (·.1)).Nodup) :
    (plain status fields body).response.headers.names = fields.map (·.1) := by
  rw [Headers.names, plain, Headers.ofTexts_fields h, List.map_map]
  rfl

theorem names_problem (message : String) :
    (problem status message).response.headers.names = ["content-type", "content-length"] :=
  names_plain (by simp [lengthField])

/-! ### The answers of the server -/

theorem composed_missing (message : String) : (problem .notFound message).Composed isFile := by
  rw [Composed, names_problem]
  exact .missing

theorem composed_methodNotAllowed (method : String) :
    (methodNotAllowed method).Composed isFile := by
  have hnames := @names_problem .methodNotAllowed ("Unsupported method ('" ++ method ++ "')")
  rw [Composed, methodNotAllowed, Headers.names,
    Headers.fields_insert_of_notMem (by rw [hnames]; decide), List.map_append, ← Headers.names,
    hnames]
  exact .refused

theorem composed_options : options.Composed isFile := by
  rw [Composed, options, names_plain (by simp)]
  exact .options

theorem composed_page (hpage : ¬isFile) (content : String) (headOnly : Bool) :
    (page content headOnly).Composed isFile := by
  rw [Composed, page, names_plain (by simp [lengthField])]
  exact .page hpage

/-! ### Answers with fields from outside -/

theorem composed_redirect {location : String}
    (h : isHeaderValue (Utf8.ofString location) = true) : (redirect location).Composed isFile := by
  have hgood : ∀ f ∈ [("location", location), lengthField 0],
      isHeaderValue (Utf8.ofString f.2) = true :=
    List.forall_mem_cons.2 ⟨h, List.forall_mem_singleton.2 (isHeaderValue_decimal 0)⟩
  rw [redirect, checked_of_all hgood, Composed, names_plain (by simp [lengthField])]
  exact .moved

variable {modified : Instant} {date : String}

theorem composed_notModified (h : Calendar.HttpDate.write? modified = some date) :
    (notModified date).Composed isFile := by
  have hgood : ∀ f ∈ [("last-modified", date)], isHeaderValue (Utf8.ofString f.2) = true :=
    List.forall_mem_singleton.2 (isHeaderValue_date h)
  rw [notModified, checked_of_all hgood, Composed, names_plain (by simp)]
  exact .current

theorem composed_file {type : String} (hfile : isFile)
    (htype : isHeaderValue (Utf8.ofString type) = true)
    (h : Calendar.HttpDate.write? modified = some date) (body : Body) (length : Nat) :
    (file body length type (some date)).Composed isFile := by
  rw [file_eq_plain htype h, Composed, names_plain (nodup_fileFields length type date)]
  exact .file hfile

end Answer

/-! ### Answers as they are sent -/

namespace Answer

/-- The answer as it is sent: in the name of the server, and for scripts of every origin. -/
def issued (a : Answer) (serverName : String) : Answer :=
  { a.signed serverName with response := (a.signed serverName).response.allowAnyOrigin }

theorem status_issued (a : Answer) (serverName : String) :
    (a.issued serverName).response.status = a.response.status := a.status_signed serverName

theorem body_issued (a : Answer) (serverName : String) :
    (a.issued serverName).response.body = a.response.body := a.body_signed serverName

/-- Fields of other names are sent as they are. -/
theorem getAll_issued (a : Answer) (serverName : String) {name : String} (hserver : "server" ≠ name)
    (hgrant : name ≠ allowOrigin) :
    (a.issued serverName).response.headers.getAll name = a.response.headers.getAll name :=
  (Headers.getAll_allowAnyOrigin _ hgrant).trans (a.getAll_signed serverName hserver)

end Answer

/-! ### Text from outside -/

/-- Every type in a table may stand in a header. -/
def MediaTypes.AreRepeatable (m : MediaTypes) : Prop :=
  ∀ extension type, m.asWritten? extension = some type →
    isHeaderValue (Utf8.ofString type) = true

/-- Every file was changed in a year that has dates. -/
def Disk.IsDatable (d : Disk) : Prop :=
  d.EveryFile fun _ modified => Calendar.inRange modified = true

theorem MediaTypes.areRepeatable_of_all {m : MediaTypes}
    (h : (m.entries.all fun e => isHeaderValue (Utf8.ofString e.2)) = true) : m.AreRepeatable :=
  fun _ _ hlookup => List.all_eq_true.1 h _ (Disk.mem_of_lookup hlookup)

/-- The standard types may stand in a header. -/
theorem MediaTypes.areRepeatable_standard : standard.AreRepeatable := by
  refine areRepeatable_of_all ?_
  simp only [Utf8.ofString_eq_toByteArray]
  decide +kernel

/-- A type that a table gives may stand in a header. -/
theorem MediaTypes.AreRepeatable.resolve {m : MediaTypes} (h : m.AreRepeatable)
    (extension : String) : isHeaderValue (Utf8.ofString (m.resolve extension)) = true := by
  unfold MediaTypes.resolve
  cases hwritten : m.asWritten? extension with
  | some type => exact h _ _ hwritten
  | none =>
    cases hlower : m.asWritten? (Text.lower extension) with
    | some type => exact h _ _ hlower
    | none => decide

/-- A part of a text may stand in a header if all of it may. -/
theorem isHeaderValue_encode_of_subset {cs ds : List Char}
    (h : isHeaderValue (Utf8.encode cs) = true) (hsub : ds ⊆ cs) :
    isHeaderValue (Utf8.encode ds) = true := by
  rw [isHeaderValue, Utf8.encode, List.all_flatMap, List.all_eq_true] at h ⊢
  exact fun c hc => h c (hsub hc)

theorem isHeaderValue_append {as bs : Bytes} (ha : isHeaderValue as = true)
    (hb : isHeaderValue bs = true) : isHeaderValue (as ++ bs) = true := by
  rw [isHeaderValue, List.all_append, Bool.and_eq_true]
  exact ⟨ha, hb⟩

namespace Site

variable {s : Site} {d : Disk} {v : Visit} {u : String} {o : Outcome}

/-- The address of a directory may stand in a header if path and query of the request may. -/
theorem isHeaderValue_slashForm {t : Target} (h : t.IsRepeatable) (hpath : v.path = t.path)
    (hquery : v.query = t.query) : isHeaderValue (Utf8.ofString (slashForm v)) = true := by
  have haddress : isHeaderValue (Utf8.ofString
      (String.ofList ('/' :: v.path.toList.dropWhile (· == '/') ++ ['/']))) = true := by
    rw [Utf8.ofString_ofList, Utf8.encode_append, ← List.singleton_append, Utf8.encode_append]
    have hrest : isHeaderValue (Utf8.encode (v.path.toList.dropWhile (· == '/'))) = true :=
      isHeaderValue_encode_of_subset (hpath ▸ h.path) (List.dropWhile_subset _)
    exact isHeaderValue_append (isHeaderValue_append (by decide) hrest) (by decide)
  unfold slashForm
  dsimp only
  cases hq : v.query with
  | none => exact haddress
  | some query =>
    rw [Utf8.ofString_append, Utf8.ofString_append]
    exact isHeaderValue_append (isHeaderValue_append haddress (by decide))
      (h.query query (hquery ▸ hq))

/-- A file that is chosen for the path of a request can be read. -/
def SendsFile (s : Site) (d : Disk) (u : String) : Prop :=
  ∃ path content modified, s.Chooses d u path ∧ d.read path = .ok (content, modified)

/-- No file is chosen for the path of a directory that has no index file. -/
theorem not_sendsFile {directory : Path} (hdir : s.ReachesDirectory d u directory)
    (hi : s.indexFile? d directory = none) : ¬s.SendsFile d u := by
  rintro ⟨path, content, modified, hchosen, -⟩
  obtain ⟨node, hreaches, hnode, hslash⟩ := hdir
  cases hchosen with
  | path _ _ hnoslash => exact absurd (hslash.symm.trans hnoslash) (by decide)
  | index hdir' hi' =>
    obtain ⟨node', hreaches', -, -⟩ := hdir'
    cases hreaches.translated.symm.trans hreaches'.translated
    cases hi.symm.trans hi'

/-- A site whose answers can be composed: its name, its types and the dates of its files may stand
in a header. -/
structure IsComposable (s : Site) (d : Disk) : Prop where
  name : isHeaderValue (Utf8.ofString s.serverName) = true
  types : s.mediaTypes.AreRepeatable
  dates : d.IsDatable

/-- Every outcome is answered, by fields that go with the status. -/
theorem Yields.composed (hs : s.IsComposable d)
    (haddress : isHeaderValue (Utf8.ofString (slashForm v)) = true) (h : s.Yields d v.path o) :
    ∃ a, o.answer s v = .ok a ∧ a.Composed (s.SendsFile d v.path) := by
  cases h with
  | rejected | unresolved | left | unseen | slashed | locked | hidden | unlisted =>
    exact ⟨_, rfl, Answer.composed_missing _⟩
  | moved => exact ⟨_, rfl, Answer.composed_redirect haddress⟩
  | listed hdir hi => exact ⟨_, rfl, Answer.composed_page (not_sendsFile hdir hi) _ _⟩
  | @file path content modified hchosen hr =>
    obtain ⟨date, hdate⟩ : ∃ date, Calendar.HttpDate.write? modified = some date :=
      ⟨_, if_pos (hchosen.everyFile hs.dates hr)⟩
    refine ⟨_, by rw [answer_file, hdate], ?_⟩
    unfold fileAnswer
    split
    · exact Answer.composed_notModified hdate
    · exact Answer.composed_file ⟨path, content, modified, hchosen, hr⟩ (hs.types.resolve _) hdate
        _ _

/-- What is answered from the files never has the statuses of the answers by the method alone. -/
theorem Shape.status_ne {r : Response} (h : Shape v o r) :
    r.status ≠ .noContent ∧ r.status ≠ .methodNotAllowed := by
  cases h with
  | missing | unlisted | bare => exact ⟨by decide, by decide⟩
  | listed => exact ⟨show Status.ok ≠ _ by decide, show Status.ok ≠ _ by decide⟩
  | moved =>
    rw [Answer.status_redirect]
    exact ⟨by decide, by decide⟩
  | confirmed h =>
    rw [h.status]
    exact ⟨by decide, by decide⟩
  | carried h =>
    rw [h.status]
    exact ⟨by decide, by decide⟩

/-- The status tells the methods apart for which the files have no part in the answer. -/
structure TellsMethod (method : String) (status : Status) : Prop where
  options : status = .noContent ↔ method = "OPTIONS"
  refused : status = .methodNotAllowed ↔ method ∉ ["GET", "HEAD", "OPTIONS"]

/-- Every request is answered, by fields that go with the status. -/
theorem dispatch_composed {q : Request} (hs : s.IsComposable d) (ht : q.target.IsRepeatable) :
    ∃ a, s.dispatch d q = .ok a ∧ a.Composed (s.SendsFile d q.target.path) ∧
      TellsMethod q.method a.response.status := by
  rcases dispatch_cases s d q with ⟨hmethod, heq⟩ | ⟨hmethod, heq⟩ | ⟨hmethod, heq⟩
  · obtain ⟨o, ho, hanswer⟩ := serve_answered s d q.target.path
    have haddress := isHeaderValue_slashForm (v := q.visit) ht rfl rfl
    obtain ⟨a, ha, hcomposed⟩ := Yields.composed hs haddress ho
    obtain ⟨hcontent, hallowed⟩ := (shape_of_answer ha).status_ne
    refine ⟨a, heq.trans ((hanswer q.visit rfl).trans ha), hcomposed, ?_, ?_⟩
    · exact iff_of_false hcontent (by rcases hmethod with h | h <;> simp [h])
    · exact iff_of_false hallowed (by rcases hmethod with h | h <;> simp [h])
  · refine ⟨_, heq, Answer.composed_options, ?_, ?_⟩
    · exact iff_of_true rfl hmethod
    · exact iff_of_false (show Status.noContent ≠ _ by decide) (by simp [hmethod])
  · refine ⟨_, heq, Answer.composed_methodNotAllowed _, ?_, ?_⟩
    · exact iff_of_false (show Status.methodNotAllowed ≠ _ by decide) fun h => hmethod (by simp [h])
    · exact iff_of_true rfl hmethod

/-- What is answered by the method is sent as it is issued. -/
theorem answer_of_dispatch {q : Request} {a : Answer} (h : s.dispatch d q = .ok a) :
    s.answer d q = .ok (a.issued s.serverName) := by
  rw [answer, handle, h]
  rfl

/-- The fields of an answer as it is sent: the grant, its own fields, and the name of the server. -/
theorem fields_issued {a : Answer} {serverName : String} {isFile : Prop}
    (hname : isHeaderValue (Utf8.ofString serverName) = true) (h : a.Composed isFile) :
    (a.issued serverName).response.headers.fields =
      (allowOrigin, Utf8.ofString "*") :: a.response.headers.fields ++
        [("server", Utf8.ofString serverName)] := by
  have hnodup := h.nodup
  rw [List.cons_append, List.nodup_cons, List.nodup_append] at hnodup
  obtain ⟨hgrant, -, -, hserver⟩ := hnodup
  have hsigned : (a.signed serverName).response.headers.fields =
      a.response.headers.fields ++ [("server", Utf8.ofString serverName)] := by
    rw [Answer.signed, if_pos hname]
    exact Headers.fields_insert_of_notMem (fun hmem => hserver _ hmem _ (by simp) rfl) _
  have hnames : (a.signed serverName).response.headers.names =
      a.response.headers.names ++ ["server"] := by
    rw [Headers.names, hsigned, List.map_append]
    rfl
  refine (Headers.fields_allowAnyOrigin_of_notMem (hnames ▸ hgrant)).trans ?_
  rw [hsigned]
  rfl

/-- The shape of every answer: each request is answered; the grant for scripts of every origin comes
first, then the fields that go with the status, and last the name of the server; no name comes
twice; and the status tells the methods apart that are not answered from the files. -/
theorem answer_shape {q : Request} {uri : Bytes} (hs : s.IsComposable d)
    (huri : Target.ofBytes uri = .ok q.target) (hdel : 127 ∉ uri) :
    ∃ a own, s.answer d q = .ok a ∧
      a.response.headers.fields =
        (allowOrigin, Utf8.ofString "*") :: own ++ [("server", Utf8.ofString s.serverName)] ∧
      OwnNames (s.SendsFile d q.target.path) a.response.status (own.map (·.1)) ∧
      a.response.headers.names.Nodup ∧ TellsMethod q.method a.response.status := by
  obtain ⟨a, ha, hcomposed, htells⟩ := dispatch_composed hs (Target.isRepeatable_ofBytes hdel huri)
  have hfields := fields_issued hs.name hcomposed
  have hnames := congrArg (List.map fun f : Field => f.1) hfields
  refine ⟨_, a.response.headers.fields, answer_of_dispatch ha, hfields, ?_, ?_, ?_⟩
  · rw [Answer.status_issued]
    exact hcomposed
  · rw [List.map_append] at hnames
    rw [Headers.names]
    exact hnames ▸ hcomposed.nodup
  · rw [Answer.status_issued]
    exact htells

/-- The small site redirects to a directory, and repeats the query of the request in the address. -/
theorem answer_shape_samplePages :
    let uri := Utf8.ofString "//pages?größe=50%25#top"
    let q : Request :=
      { method := "HEAD", target := { path := "//pages", query := some "größe=50%25" } }
    Target.ofBytes uri = .ok q.target ∧ 127 ∉ uri ∧ sampleSite.IsComposable sampleDisk ∧
      ∃ a own, sampleSite.answer sampleDisk q = .ok a ∧ a.response.headers.fields =
        (allowOrigin, Utf8.ofString "*") :: own ++ [("server", Utf8.ofString "sample")] ∧
      own = [("location", Utf8.ofString "/pages/?größe=50%25"),
        ("content-length", Utf8.ofString "0")] := by
  intro uri q
  have huri : Target.ofBytes uri = .ok q.target := eq_ok_of_toOption (by decide +kernel)
  have hdel : 127 ∉ uri := by decide +kernel
  have hs : sampleSite.IsComposable sampleDisk :=
    ⟨by decide, MediaTypes.areRepeatable_standard, Disk.everyFile_of_all (by decide +kernel)⟩
  have hanswer : (sampleSite.answer sampleDisk q).toOption.map (·.response.headers.fields) =
      some ((allowOrigin, Utf8.ofString "*") ::
        [("location", Utf8.ofString "/pages/?größe=50%25"),
          ("content-length", Utf8.ofString "0")] ++ [("server", Utf8.ofString "sample")]) := by
    decide +kernel
  obtain ⟨a, own, ha, hfields, -, -, -⟩ := answer_shape hs huri hdel
  rw [ha] at hanswer
  have hown := List.append_cancel_right (hfields.symm.trans (Option.some.inj hanswer))
  exact ⟨huri, hdel, hs, a, own, ha, hfields, (List.cons.inj hown).2⟩

end Site

end FileServer
