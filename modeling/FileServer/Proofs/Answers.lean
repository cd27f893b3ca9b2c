import FileServer.Proofs.Fields
import FileServer.Proofs.Outcomes
import FileServer.Proofs.Printable

/-!
What the answers show of a file. An answer with a file carries its content, its length and the date
of its last change, or that date alone if the copy of the client is current.
-/

namespace FileServer

/-- The number as it is written in a header. -/
def decimal (n : Nat) : Bytes := Utf8.ofString (toString n)

/-- The length that the fields of a response announce, as often as they do. -/
def Response.lengths (r : Response) : List Bytes := r.headers.getAll "content-length"

/-- The dates of last change that the fields of a response give. -/
def Response.dates (r : Response) : List Bytes := r.headers.getAll "last-modified"

/-- The response carries a file, or only the head for it: body, length and date are those of the
content. -/
structure Response.Carries (r : Response) (headOnly : Bool) (content : Bytes) (modified : Instant) :
    Prop where
  status : r.status = .ok
  body : r.body = if headOnly then .empty else .streamed content
  lengths : r.lengths = [decimal content.length]
  dates : ∃ date, Calendar.HttpDate.write? modified = some date ∧ r.dates = [Utf8.ofString date]

/-- The response says that a file has not changed: it has no body, and the date is that of the
file. -/
structure Response.Confirms (r : Response) (modified : Instant) : Prop where
  status : r.status = .notModified
  body : r.body = .empty
  lengths : r.lengths = []
  dates : ∃ date, Calendar.HttpDate.write? modified = some date ∧ r.dates = [Utf8.ofString date]

namespace Answer

variable {status fallback : Status} {fields : List (String × String)} {body : Body} {name : String}

/-! ### Checked answers -/

theorem checked_of_all (h : ∀ f ∈ fields, isHeaderValue (Utf8.ofString f.2) = true) :
    checked status fallback fields body = plain status fields body :=
  if_pos (List.all_eq_true.2 h)

/-- An answer with a field that may not stand in a header is bare. -/
theorem checked_cases :
    checked status fallback fields body = plain status fields body ∨
      (checked status fallback fields body).response = { status := fallback } := by
  unfold checked
  split
  · exact .inl rfl
  · exact .inr rfl

/-- An answer without a body has none when it is bare either. -/
theorem body_checked_empty : (checked status fallback fields .empty).response.body = .empty := by
  unfold checked
  split <;> rfl

/-- The values of a name among the fields of a plain answer. -/
theorem getAll_plain (h : (fields.map (·.1)).Nodup) :
    (plain status fields body).response.headers.getAll name =
      (fields.filter (·.1 == name)).map fun t => Utf8.ofString t.2 := Headers.getAll_ofTexts h

/-! ### Signed answers -/

/-- A signature does not touch fields of other names. -/
theorem getAll_signed (a : Answer) (serverName : String) {name : String} (hne : "server" ≠ name) :
    (a.signed serverName).response.headers.getAll name = a.response.headers.getAll name := by
  unfold signed
  dsimp only
  split
  · exact a.response.headers.getAll_insert_of_ne _ hne
  · rfl

theorem status_signed (a : Answer) (serverName : String) :
    (a.signed serverName).response.status = a.response.status := by
  unfold signed
  dsimp only
  split <;> rfl

theorem body_signed (a : Answer) (serverName : String) :
    (a.signed serverName).response.body = a.response.body := by
  unfold signed
  dsimp only
  split <;> rfl

theorem incidents_signed (a : Answer) (serverName : String) :
    (a.signed serverName).incidents = a.incidents := by
  unfold signed
  dsimp only
  split <;> rfl

/-! ### Answers about files -/

variable {modified : Instant} {date : String}

/-- That a file has not changed is said with the date of the file. -/
theorem confirms_notModified (h : Calendar.HttpDate.write? modified = some date) :
    (notModified date).response.Confirms modified := by
  have hgood : ∀ f ∈ [("last-modified", date)], isHeaderValue (Utf8.ofString f.2) = true := by
    intro f hf
    rw [List.mem_singleton.1 hf]
    exact isHeaderValue_date h
  rw [notModified, checked_of_all hgood]
  have hnodup : ([("last-modified", date)].map (·.1)).Nodup := by simp
  exact ⟨rfl, rfl, getAll_plain hnodup, date, h, getAll_plain hnodup⟩

/-- The fields for a file whose date is known. -/
def fileFields (length : Nat) (type date : String) : List (String × String) :=
  [("content-type", type), lengthField length, ("last-modified", date)]

theorem isHeaderValue_decimal (n : Nat) : isHeaderValue (decimal n) = true := by
  rw [decimal, Nat.toString_eq_ofList_toDigits, Utf8.ofString_ofList]
  exact isHeaderValue_encode (allPrintable_decimal n)

/-- Of the fields for a file only the type may be one that is not good. -/
theorem isHeaderValue_fileFields {type : String} (length : Nat)
    (htype : isHeaderValue (Utf8.ofString type) = true)
    (h : Calendar.HttpDate.write? modified = some date) :
    ∀ f ∈ fileFields length type date, isHeaderValue (Utf8.ofString f.2) = true :=
  List.forall_mem_cons.2 ⟨htype, List.forall_mem_cons.2
    ⟨isHeaderValue_decimal length, List.forall_mem_singleton.2 (isHeaderValue_date h)⟩⟩

theorem nodup_fileFields (length : Nat) (type date : String) :
    ((fileFields length type date).map (·.1)).Nodup := by
  simp [fileFields, lengthField]

/-- An answer about a file has these fields if its type may stand in a header. -/
theorem file_eq_plain {type : String} (htype : isHeaderValue (Utf8.ofString type) = true)
    (h : Calendar.HttpDate.write? modified = some date) (body : Body) (length : Nat) :
    file body length type (some date) = plain .ok (fileFields length type date) body :=
  checked_of_all (isHeaderValue_fileFields length htype h)

theorem carries_plain (h : Calendar.HttpDate.write? modified = some date) (headOnly : Bool)
    (content : Bytes) (type : String) :
    (plain .ok (fileFields content.length type date)
      (if headOnly then .empty else .streamed content)).response.Carries headOnly content
        modified := by
  have hnodup := nodup_fileFields content.length type date
  exact ⟨rfl, rfl, getAll_plain hnodup, date, h, getAll_plain hnodup⟩

/-- A file is carried by its answer, unless its type may not stand in a header. -/
theorem carries_file (h : Calendar.HttpDate.write? modified = some date) (headOnly : Bool)
    (content : Bytes) (type : String) :
    let a := file (if headOnly then .empty else .streamed content) content.length type (some date)
    a.response.Carries headOnly content modified ∨
      a.response = { status := .internalServerError } := by
  intro a
  rw [show a = checked .ok .internalServerError (fileFields content.length type date) _ from rfl]
  refine checked_cases.imp_left fun hplain => ?_
  rw [hplain]
  exact carries_plain h headOnly content type

/-- A file whose type may stand in a header is carried by its answer. -/
theorem carries_file_of_type {type : String} (htype : isHeaderValue (Utf8.ofString type) = true)
    (h : Calendar.HttpDate.write? modified = some date) (headOnly : Bool) (content : Bytes) :
    (file (if headOnly then .empty else .streamed content) content.length type
      (some date)).response.Carries headOnly content modified := by
  rw [file_eq_plain htype h]
  exact carries_plain h headOnly content type

end Answer

namespace Site

variable {s : Site} {v : Visit} {o : Outcome} {a : Answer} {r : Response} {modified : Instant}
  {date : String}

/-- An answer about a file confirms or carries it, unless its type may not stand in a header. -/
theorem fileAnswer_cases (h : Calendar.HttpDate.write? modified = some date) (s : Site) (v : Visit)
    (path : Path) (content : Bytes) :
    let r := (s.fileAnswer v path content modified date).response
    r.Confirms modified ∨ r.Carries v.headOnly content modified ∨
      r = { status := .internalServerError } := by
  unfold fileAnswer
  split
  · exact .inl (Answer.confirms_notModified h)
  · exact .inr (Answer.carries_file h v.headOnly content _)

/-! ### The shapes of answers -/

/-- The page that lists rows for a request. -/
def listingAnswer (v : Visit) (rs : List ListingRow) : Answer :=
  .page (listingPage (Utf8.toStringLossy (Percent.decode v.path)) rs) v.headOnly

/-- What the response to a request looks like when its path has come to an outcome. -/
inductive Shape (v : Visit) : Outcome → Response → Prop
  | missing {o : Outcome} : Shape v o Answer.notFound.response
  | unlisted {directory : Path} {cause : Disk.Error} :
      Shape v (.unlisted directory cause) noPermission.response
  | moved : Shape v .moved (Answer.redirect (slashForm v)).response
  | listed {rs : List ListingRow} : Shape v (.listed rs) (listingAnswer v rs).response
  | confirmed {path : Path} {content : Bytes} {modified : Instant} {r : Response}
      (h : r.Confirms modified) : Shape v (.file path content modified) r
  | carried {path : Path} {content : Bytes} {modified : Instant} {r : Response}
      (h : r.Carries v.headOnly content modified) : Shape v (.file path content modified) r
  | bare {path : Path} {content : Bytes} {modified : Instant} :
      Shape v (.file path content modified) { status := .internalServerError }

/-- Every answer has one of the shapes. -/
theorem shape_of_answer (h : o.answer s v = .ok a) : Shape v o a.response := by
  cases o with
  | moved =>
    cases h
    exact .moved
  | listed rs =>
    cases h
    exact .listed
  | unlisted directory cause =>
    cases h
    exact .unlisted
  | file path content modified =>
    rw [answer_file] at h
    cases hdate : Calendar.HttpDate.write? modified with
    | none =>
      rw [hdate] at h
      cases h
    | some date =>
      rw [hdate] at h
      cases h
      rcases fileAnswer_cases hdate s v path content with hconfirms | hcarries | hbare
      · exact .confirmed hconfirms
      · exact .carried hcarries
      · rw [hbare]
        exact .bare
  | _ =>
    cases h
    exact .missing

/-- The answer of a site has the shape for the outcome of the path. -/
theorem shape_of_serve {d : Disk} (h : s.serve d v = .ok a) :
    ∃ o, s.Yields d v.path o ∧ Shape v o a.response := by
  obtain ⟨o, ho, hanswer⟩ := serve_answered s d v.path
  rw [hanswer v rfl] at h
  exact ⟨o, ho, shape_of_answer h⟩

end Site

end FileServer
