import FileServer.Proofs.Answers
import FileServer.Proofs.Pieces

/-!
How the end of a response is found. A length that is announced is the number of bytes that are sent
behind the head, and it is announced once; a response that may not have a body has none and
announces none. A file is sent in pieces which make it up, none of them empty and none too large.
-/

namespace FileServer

/-- The end of a response can be found: the length that it announces is that of its body, and if it
may not have a body, it has none and announces none. -/
structure Response.Framed (r : Response) : Prop where
  lengths : r.lengths = [] ∨ r.lengths = [decimal r.body.size]
  bodiless : r.status = .noContent ∨ r.status = .notModified → r.lengths = [] ∧ r.body.pieces = []

/-- The response shows a file: it has content, and gives the date of its last change. -/
structure Response.ShowsFile (r : Response) : Prop where
  status : r.status = .ok
  dates : r.dates ≠ []

namespace Response

variable {r : Response} {name : String}

/-- A response with a body is framed by its length. -/
theorem framed_of_length (h : r.lengths = [decimal r.body.bytes.length])
    (hcontent : r.status ≠ .noContent) (hmodified : r.status ≠ .notModified) : r.Framed := by
  rw [← Body.size_eq] at h
  exact ⟨.inr h, fun hs => (hs.elim hcontent hmodified).elim⟩

/-- A response without a body is framed if it announces no length. -/
theorem framed_of_empty (h : r.lengths = []) (hbody : r.body = .empty) : r.Framed := by
  refine ⟨.inl h, fun _ => ⟨h, ?_⟩⟩
  rw [hbody]
  rfl

/-- A field of another name does not touch the frame. -/
theorem Framed.insert (h : r.Framed) (hne : name ≠ "content-length") (value : Bytes) :
    Framed { r with headers := r.headers.insert name value } := by
  obtain ⟨hlengths, hbodiless⟩ := h
  have hsame : Response.lengths { r with headers := r.headers.insert name value } = r.lengths :=
    r.headers.getAll_insert_of_ne value hne
  refine ⟨?_, ?_⟩
  · rw [hsame]
    exact hlengths
  · rw [hsame]
    exact hbodiless

end Response

namespace Answer

variable {status : Status} {fields : List (String × String)} {body : Body}

/-- The length that a plain answer announces is among its fields. -/
theorem lengths_plain (h : (fields.map (·.1)).Nodup) : (plain status fields body).response.lengths =
    (fields.filter (·.1 == "content-length")).map fun t => Utf8.ofString t.2 := getAll_plain h

/-! ### The answers of the server -/

theorem framed_problem (message : String) (hcontent : status ≠ .noContent)
    (hmodified : status ≠ .notModified) : (problem status message).response.Framed := by
  refine Response.framed_of_length ?_ hcontent hmodified
  rw [problem, lengths_plain (by simp [lengthField])]
  simp [lengthField, plain, Body.bytes, decimal]

theorem framed_page (content : String) : (page content false).response.Framed := by
  refine Response.framed_of_length ?_ (show Status.ok ≠ _ by decide) (show Status.ok ≠ _ by decide)
  rw [page, lengths_plain (by simp [lengthField])]
  rfl

theorem framed_redirect (location : String) : (redirect location).response.Framed := by
  rcases checked_cases with hplain | hbare
  · rw [redirect, hplain]
    refine Response.framed_of_length ?_ (show Status.movedPermanently ≠ _ by decide)
      (show Status.movedPermanently ≠ _ by decide)
    rw [lengths_plain (by simp [lengthField])]
    rfl
  · rw [redirect, hbare]
    exact Response.framed_of_empty rfl rfl

theorem framed_options : options.response.Framed := by
  refine Response.framed_of_empty ?_ rfl
  rw [options, lengths_plain (by simp)]
  rfl

theorem framed_methodNotAllowed (method : String) :
    (methodNotAllowed method).response.Framed :=
  (framed_problem _ (by decide) (by decide)).insert (by decide) _

theorem status_redirect (location : String) :
    (redirect location).response.status = .movedPermanently := by
  unfold redirect checked
  split <;> rfl

/-- A page that the server writes itself gives no date. -/
theorem dates_page (content : String) (headOnly : Bool) :
    (page content headOnly).response.dates = [] := by
  rw [page, Response.dates, getAll_plain (by simp [lengthField])]
  rfl

/-- A signature neither shows nor hides a file. -/
theorem showsFile_signed {a : Answer} {serverName : String} :
    (a.signed serverName).response.ShowsFile ↔ a.response.ShowsFile := by
  have hdates : (a.signed serverName).response.dates = a.response.dates :=
    getAll_signed a serverName (by decide)
  have hstatus := status_signed a serverName
  constructor
  · rintro ⟨hok, hne⟩
    exact ⟨hstatus.symm.trans hok, hdates ▸ hne⟩
  · rintro ⟨hok, hne⟩
    exact ⟨hstatus.trans hok, hdates.symm ▸ hne⟩

/-- A signature does not touch the frame. -/
theorem framed_signed {a : Answer} (h : a.response.Framed) (serverName : String) :
    (a.signed serverName).response.Framed := by
  unfold signed
  dsimp only
  split
  · exact h.insert (by decide) _
  · exact h

end Answer

namespace Response

variable {r : Response} {content : Bytes} {modified : Instant}

theorem Carries.framed (h : r.Carries false content modified) : r.Framed := by
  have hbody : r.body = .streamed content := h.body
  refine framed_of_length ?_ ?_ ?_
  · rw [hbody]
    exact h.lengths
  · rw [h.status]
    decide
  · rw [h.status]
    decide

theorem Carries.streams (h : r.Carries false content modified) : r.body.Streams content := by
  have hbody : r.body = .streamed content := h.body
  rw [hbody]
  exact Body.streams_streamed content

end Response

/-! ### Every answer -/

namespace Site

variable {s : Site} {d : Disk} {v : Visit} {o : Outcome} {r : Response}

/-- What is shown for an outcome is framed, unless only the head was asked for. -/
theorem Shape.framed (h : Shape v o r) (hv : v.headOnly = false) : r.Framed := by
  cases h with
  | missing => exact Answer.framed_problem _ (by decide) (by decide)
  | unlisted => exact Answer.framed_problem _ (by decide) (by decide)
  | moved => exact Answer.framed_redirect _
  | bare => exact Response.framed_of_empty rfl rfl
  | confirmed h => exact Response.framed_of_empty h.lengths h.body
  | carried h =>
    rw [hv] at h
    exact h.framed
  | listed =>
    rw [listingAnswer, hv]
    exact Answer.framed_page _

/-- A response that shows a file is for an outcome with that file, whose content is streamed. -/
theorem Shape.streams (h : Shape v o r) (hv : v.headOnly = false) (hfile : r.ShowsFile) :
    ∃ path content modified, o = .file path content modified ∧ r.body.Streams content := by
  cases h with
  | missing => exact absurd hfile.status (by decide)
  | unlisted => exact absurd hfile.status (by decide)
  | moved => exact absurd ((Answer.status_redirect _).symm.trans hfile.status) (by decide)
  | bare => exact absurd hfile.status (by decide)
  | confirmed h => exact absurd (h.status.symm.trans hfile.status) (by decide)
  | listed => exact absurd (Answer.dates_page _ _) hfile.dates
  | @carried path content modified _ h =>
    rw [hv] at h
    exact ⟨path, content, modified, rfl, h.streams⟩

/-- A request is answered from the files, or by its method alone. -/
theorem dispatch_cases (s : Site) (d : Disk) (q : Request) :
    ((q.method = "GET" ∨ q.method = "HEAD") ∧ s.dispatch d q = s.serve d q.visit) ∨
      (q.method = "OPTIONS" ∧ s.dispatch d q = pure .options) ∨
      (q.method ∉ ["GET", "HEAD", "OPTIONS"] ∧ s.dispatch d q =
        pure ((Answer.methodNotAllowed q.method).after [.methodRefused q.method])) := by
  unfold dispatch
  split
  case h_1 hget => exact .inl ⟨.inl hget, rfl⟩
  case h_2 hhead => exact .inl ⟨.inr hhead, rfl⟩
  case h_3 hoptions => exact .inr (.inl ⟨hoptions, rfl⟩)
  case h_4 hget hhead hoptions => exact .inr (.inr ⟨by simpa using ⟨hget, hhead, hoptions⟩, rfl⟩)

/-- A request for something on the site is answered from the files. -/
theorem dispatch_of_method {q : Request} (hmethod : q.method = "GET" ∨ q.method = "HEAD") :
    s.dispatch d q = s.serve d q.visit := by
  rcases dispatch_cases s d q with ⟨-, heq⟩ | ⟨hoptions, -⟩ | ⟨hother, -⟩
  · exact heq
  · rcases hmethod with h | h <;> exact absurd (h.symm.trans hoptions) (by decide)
  · exact absurd (by rcases hmethod with h | h <;> simp [h]) hother

/-- The response sends the file that is chosen for the path of a request. -/
def Sends (s : Site) (d : Disk) (u : String) (r : Response) : Prop :=
  ∃ path content modified, s.Chooses d u path ∧ d.read path = .ok (content, modified) ∧
    r.body.Streams content

theorem dispatch_framed {q : Request} {a : Answer} (hmethod : q.method ≠ "HEAD")
    (h : s.dispatch d q = .ok a) : a.response.Framed := by
  rcases dispatch_cases s d q with ⟨-, heq⟩ | ⟨-, heq⟩ | ⟨-, heq⟩
  · obtain ⟨o, -, hshape⟩ := shape_of_serve (heq.symm.trans h)
    exact hshape.framed (beq_false_of_ne hmethod)
  · cases heq.symm.trans h
    exact Answer.framed_options
  · cases heq.symm.trans h
    exact Answer.framed_methodNotAllowed _

theorem dispatch_sends {q : Request} {a : Answer} (hmethod : q.method ≠ "HEAD")
    (h : s.dispatch d q = .ok a) (hshows : a.response.ShowsFile) :
    s.Sends d q.target.path a.response := by
  rcases dispatch_cases s d q with ⟨-, heq⟩ | ⟨-, heq⟩ | ⟨-, heq⟩
  · obtain ⟨o, ho, hshape⟩ := shape_of_serve (heq.symm.trans h)
    obtain ⟨path, content, modified, rfl, hstreams⟩ :=
      hshape.streams (beq_false_of_ne hmethod) hshows
    cases ho with
    | file hchosen hr => exact ⟨path, content, modified, hchosen, hr, hstreams⟩
  · cases heq.symm.trans h
    exact absurd hshows.status (by decide)
  · cases heq.symm.trans h
    exact absurd hshows.status (show Status.methodNotAllowed ≠ .ok by decide)

/-- Framing: the end of every answer can be found, unless only the head was asked for; and an answer
that shows a file sends it in pieces. -/
theorem handle_framed {q : Request} {a : Answer} (hmethod : q.method ≠ "HEAD")
    (h : s.handle d q = .ok a) :
    a.response.Framed ∧ (a.response.ShowsFile → s.Sends d q.target.path a.response) := by
  obtain ⟨b, hb, hsigned⟩ := bind_eq_ok_iff.1 h
  cases hsigned
  refine ⟨Answer.framed_signed (dispatch_framed hmethod hb) _, fun hshows => ?_⟩
  obtain ⟨path, content, modified, hchosen, hr, hstreams⟩ :=
    dispatch_sends hmethod hb (Answer.showsFile_signed.1 hshows)
  refine ⟨path, content, modified, hchosen, hr, ?_⟩
  rw [Answer.body_signed]
  exact hstreams

/-- The page of the small site is sent in one piece. -/
theorem framed_samplePage : ∃ a,
    sampleSite.handle sampleDisk { method := "GET", target := { path := "/" } } = .ok a ∧
      a.response.Framed ∧ a.response.lengths = [decimal 9] ∧
      sampleSite.Sends sampleDisk "/" a.response := by
  refine ⟨_, rfl, ?_⟩
  obtain ⟨hframed, hsends⟩ :=
    handle_framed (s := sampleSite) (d := sampleDisk)
      (q := { method := "GET", target := { path := "/" } }) (by decide) rfl
  exact ⟨hframed, by decide +kernel, hsends ⟨by decide +kernel, by decide +kernel⟩⟩

end Site

end FileServer
