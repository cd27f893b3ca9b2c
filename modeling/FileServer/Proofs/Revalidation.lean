import FileServer.Proofs.Composition
import FileServer.Proofs.HttpDates

/-!
Asking again for a file. The date that came with a file is sent back with the next request and
compared, in whole seconds, with the time at which the file was changed last: a file that is not
newer is only confirmed, and a newer one is answered with as if no date had been sent.
-/

namespace FileServer

/-! ### Requests with a date -/

namespace Request

/-- The request with the date of the copy that the client has, in place of any other. -/
def since (q : Request) (date : Bytes) : Request :=
  { q with headers := q.headers.insert "if-modified-since" date }

/-- The request of a client that has no copy. -/
def afresh (q : Request) : Request :=
  { q with headers := q.headers.without "if-modified-since" }

variable {q : Request} {date : String} {t : Instant}

theorem visit_since (h : Calendar.HttpDate.write? t = some date) :
    (q.since (Utf8.ofString date)).visit = { q.visit with ifModifiedSince := some date } := by
  have hvisible : visibleText? (Utf8.ofString date) = some date := by
    rw [Utf8.ofString, visibleText?_encode (allPrintable_date h), String.ofList_toList]
  rw [visit, since, Headers.get?_insert, Option.bind_some, hvisible]
  rfl

theorem visit_afresh (q : Request) : q.afresh.visit = { q.visit with ifModifiedSince := none } := by
  rw [visit, afresh, Headers.get?_without]
  rfl

end Request

/-! ### Answers about files as they are sent -/

namespace Answer

variable {a : Answer} {headOnly : Bool} {content : Bytes} {modified : Instant}

theorem dates_issued (a : Answer) (serverName : String) :
    (a.issued serverName).response.dates = a.response.dates :=
  a.getAll_issued serverName (by decide) (by decide)

theorem lengths_issued (a : Answer) (serverName : String) :
    (a.issued serverName).response.lengths = a.response.lengths :=
  a.getAll_issued serverName (by decide) (by decide)

theorem confirms_issued (h : a.response.Confirms modified) (serverName : String) :
    (a.issued serverName).response.Confirms modified := by
  refine ⟨?_, ?_, ?_, ?_⟩
  · rw [status_issued, h.status]
  · rw [body_issued, h.body]
  · rw [lengths_issued, h.lengths]
  · rw [dates_issued]
    exact h.dates

theorem carries_issued (h : a.response.Carries headOnly content modified) (serverName : String) :
    (a.issued serverName).response.Carries headOnly content modified := by
  refine ⟨?_, ?_, ?_, ?_⟩
  · rw [status_issued, h.status]
  · rw [body_issued, h.body]
  · rw [lengths_issued, h.lengths]
  · rw [dates_issued]
    exact h.dates

end Answer

namespace Site

open Calendar

variable {s : Site} {d : Disk} {q : Request} {v : Visit} {path : Path} {content : Bytes}
  {modified t : Instant} {date : String}

/-! ### Comparing dates -/

theorem isCurrent_of_tells (h : HttpDate.Tells date t) (modified : Instant) :
    isCurrent (some date) modified = decide (modified.seconds ≤ t.seconds) := by
  rw [isCurrent, Option.bind_some, h.read]

/-- A date tells whether a file is newer, in whole seconds. -/
theorem isCurrent?_of_tells (h : HttpDate.Tells date t) (hmodified : inRange modified = true) :
    isCurrent? (some date) modified = some (decide (modified.seconds ≤ t.seconds)) := by
  rw [isCurrent?_of_read h.read, if_pos hmodified]

/-! ### Requests for a file -/

/-- A file that is chosen for the path of a request, and can be read, is answered with. -/
theorem serve_file (h : s.Yields d v.path (.file path content modified))
    (hdate : HttpDate.write? modified = some date) :
    s.serve d v = .ok (s.fileAnswer v path content modified date) := by
  rw [serve_of_file h, answer_file, hdate]

theorem answer_of_file (hmethod : q.method = "GET" ∨ q.method = "HEAD")
    (h : s.Yields d q.target.path (.file path content modified))
    (hdate : HttpDate.write? modified = some date) :
    s.answer d q =
      .ok ((s.fileAnswer q.visit path content modified date).issued s.serverName) :=
  answer_of_dispatch ((dispatch_of_method hmethod).trans (serve_file h hdate))

/-- The type of a file may stand in a header. -/
def CanCarry (s : Site) (path : Path) : Prop :=
  isHeaderValue (Utf8.ofString (s.mediaTypes.resolvePath path)) = true

instance (s : Site) (path : Path) : Decidable (s.CanCarry path) :=
  inferInstanceAs (Decidable (_ = true))

/-- Asking again with the date of an earlier time: a file that is not newer is confirmed, and a
newer one is answered with as if the client had no copy. -/
def Revalidates (s : Site) (d : Disk) (q : Request) (date : Bytes) (earlier : Instant) : Prop :=
  ∀ path content modified, s.Yields d q.target.path (.file path content modified) →
    inRange modified = true → ∃ a, s.answer d (q.since date) = .ok a ∧
      (modified.seconds ≤ earlier.seconds → a.response.Confirms modified) ∧
      (earlier.seconds < modified.seconds → s.answer d q.afresh = .ok a ∧
        (s.CanCarry path → a.response.Carries (q.method == "HEAD") content modified))

/-- A client whose copy is current gets only the date. -/
theorem confirms_fileAnswer (hdate : HttpDate.write? modified = some date)
    (hcurrent : isCurrent v.ifModifiedSince modified = true) (path : Path) (content : Bytes) :
    (s.fileAnswer v path content modified date).response.Confirms modified := by
  rw [fileAnswer, if_pos hcurrent]
  exact Answer.confirms_notModified hdate

/-- A client that has no current copy gets the file. -/
theorem carries_fileAnswer (htype : s.CanCarry path) (hdate : HttpDate.write? modified = some date)
    (hold : isCurrent v.ifModifiedSince modified = false) (content : Bytes) :
    (s.fileAnswer v path content modified date).response.Carries v.headOnly content modified := by
  rw [fileAnswer, hold]
  exact Answer.carries_file_of_type htype hdate v.headOnly content

/-- A copy that is not current is as good as none. -/
theorem fileAnswer_of_old (hold : isCurrent v.ifModifiedSince modified = false) :
    s.fileAnswer v path content modified date =
      s.fileAnswer { v with ifModifiedSince := none } path content modified date := by
  rw [fileAnswer, hold]
  rfl

theorem revalidates_of_tells (hmethod : q.method = "GET" ∨ q.method = "HEAD")
    (h : HttpDate.Tells date t) : s.Revalidates d q (Utf8.ofString date) t := by
  intro path content modified hfile hrange
  obtain ⟨now, hnow⟩ : ∃ now, HttpDate.write? modified = some now := ⟨_, if_pos hrange⟩
  have hsince := answer_of_file (q := q.since (Utf8.ofString date)) hmethod hfile hnow
  have hafresh := answer_of_file (q := q.afresh) hmethod hfile hnow
  rw [Request.visit_since h.written] at hsince
  rw [Request.visit_afresh] at hafresh
  generalize hv : { q.visit with ifModifiedSince := some date } = v at hsince
  have hheadOnly : v.headOnly = (q.method == "HEAD") := by rw [← hv]; rfl
  have hcompare : isCurrent v.ifModifiedSince modified = decide (modified.seconds ≤ t.seconds) := by
    rw [← hv]
    exact isCurrent_of_tells h modified
  refine ⟨_, hsince, fun hle => ?_, fun hlt => ?_⟩
  · have hcurrent := hcompare.trans (decide_eq_true hle)
    exact Answer.confirms_issued (confirms_fileAnswer hnow hcurrent path content) s.serverName
  · have hold := hcompare.trans (decide_eq_false (Int.not_le.2 hlt))
    refine ⟨?_, fun htype => ?_⟩
    · rw [hafresh, fileAnswer_of_old hold, ← hv]
    · rw [← hheadOnly]
      exact Answer.carries_issued (carries_fileAnswer htype hnow hold content) s.serverName

/-- A file has one date only. -/
theorem dates_eq {r : Response} (hdate : HttpDate.write? modified = some date)
    (h : ∃ date, HttpDate.write? modified = some date ∧ r.dates = [Utf8.ofString date]) :
    r.dates = [Utf8.ofString date] := by
  obtain ⟨date', hdate', hdates⟩ := h
  cases hdate.symm.trans hdate'
  exact hdates

/-- The date in an answer with a file is that of the file. -/
theorem dates_fileAnswer (hdate : HttpDate.write? modified = some date) (s : Site) (v : Visit)
    (path : Path) (content : Bytes) :
    (s.fileAnswer v path content modified date).response.dates ⊆ [Utf8.ofString date] := by
  rcases fileAnswer_cases hdate s v path content with hconfirms | hcarries | hbare
  · rw [dates_eq hdate hconfirms.dates]
    exact List.Subset.refl _
  · rw [dates_eq hdate hcarries.dates]
    exact List.Subset.refl _
  · rw [hbare]
    exact List.nil_subset _

/-- An answer with a file has its date, unless the type of the file may not stand in a header. -/
theorem dates_fileAnswer_of_type (htype : s.CanCarry path)
    (hdate : HttpDate.write? modified = some date) (v : Visit) (content : Bytes) :
    (s.fileAnswer v path content modified date).response.dates = [Utf8.ofString date] := by
  refine dates_eq hdate ?_
  cases hcurrent : isCurrent v.ifModifiedSince modified with
  | true => exact (confirms_fileAnswer hdate hcurrent path content).dates
  | false => exact (carries_fileAnswer htype hdate hcurrent content).dates

/-- Revalidation: the date of an instant in a year of four digits is read back as the whole second,
and by it tells which files are newer. A client that sends back the date that came with a file has
the file confirmed as long as it is not newer, and gets it again when it is. -/
theorem lastModified_revalidates (h : IsCommon t) :
    ∃ date, HttpDate.Tells date t ∧
      (∀ modified, inRange modified = true →
        isCurrent? (some date) modified = some (decide (modified.seconds ≤ t.seconds))) ∧
      ∀ {s : Site} {d : Disk} {q : Request} {path : Path} {content : Bytes},
        (q.method = "GET" ∨ q.method = "HEAD") →
        s.Yields d q.target.path (.file path content t) →
        ∃ a, s.answer d q = .ok a ∧ a.response.dates ⊆ [Utf8.ofString date] ∧
          (s.CanCarry path → a.response.dates = [Utf8.ofString date]) ∧
          ∀ d', s.Revalidates d' q (Utf8.ofString date) t := by
  obtain ⟨date, htells⟩ := HttpDate.exists_tells h
  refine ⟨date, htells, fun modified => isCurrent?_of_tells htells, ?_⟩
  intro s d q path content hmethod hfile
  refine ⟨_, answer_of_file hmethod hfile htells.written, ?_, fun htype => ?_, fun d' => ?_⟩
  · rw [Answer.dates_issued]
    exact dates_fileAnswer htells.written s q.visit path content
  · rw [Answer.dates_issued, dates_fileAnswer_of_type htype htells.written]
  · exact revalidates_of_tells hmethod htells

/-- The page of the small site, as it is found by its own name. -/
theorem yields_samplePage {d : Disk} {content : Bytes} {modified : Instant}
    (hplace : (d.canonical (Path.ofString "/srv/www/pages/50% off.html")).toOption =
      some (placeOf ["srv", "www", "pages", "50% off.html"]))
    (hnode : (d.stat (Path.ofString "/srv/www/pages/50% off.html")).toOption =
      some (.file content modified {}))
    (hread : (d.read (Path.ofString "/srv/www/pages/50% off.html")).toOption =
      some (content, modified)) :
    sampleSite.Yields d "/pages/50%25%20off.html"
      (.file (Path.ofString "/srv/www/pages/50% off.html") content modified) := by
  have htranslated : translate sampleSite.rootPath "/pages/50%25%20off.html" =
      some (Path.ofString "/srv/www/pages/50% off.html") := by decide +kernel
  have hinside : sampleSite.root <+: placeOf ["srv", "www", "pages", "50% off.html"] :=
    List.prefix_append _ (placeOf ["pages", "50% off.html"])
  exact .file (.path ⟨htranslated, ⟨_, eq_ok_of_toOption hplace, hinside⟩,
    eq_ok_of_toOption hnode⟩ rfl rfl) (eq_ok_of_toOption hread)

/-- A client has the page of the small site confirmed with the date that came with it, until the
page is written anew one second later. -/
theorem samplePage_revalidated :
    let page := Path.ofString "/srv/www/pages/50% off.html"
    let q : Request := { method := "GET", target := { path := "/pages/50%25%20off.html" } }
    let date := "Sun, 06 Nov 1994 08:49:37 GMT"
    let later := sampleDisk.put (placeOf ["srv", "www", "pages", "50% off.html"])
      (.file (Utf8.ofString "<p>ho</p>") ⟨784111778, 500⟩ {})
    IsCommon ⟨784111777, 0⟩ ∧ inRange ⟨784111778, 500⟩ = true ∧
      sampleSite.Yields sampleDisk q.target.path
        (.file page (Utf8.ofString "<p>hi</p>") ⟨784111777, 0⟩) ∧
      sampleSite.Yields later q.target.path
        (.file page (Utf8.ofString "<p>ho</p>") ⟨784111778, 500⟩) ∧
      ∃ a b c, sampleSite.answer sampleDisk q = .ok a ∧
        a.response.dates = [Utf8.ofString date] ∧
        sampleSite.answer sampleDisk (q.since (Utf8.ofString date)) = .ok b ∧
        b.response.Confirms ⟨784111777, 0⟩ ∧
        sampleSite.answer later (q.since (Utf8.ofString date)) = .ok c ∧
        c.response.Carries false (Utf8.ofString "<p>ho</p>") ⟨784111778, 500⟩ := by
  intro page q date later
  have hcommon : IsCommon ⟨784111777, 0⟩ := ⟨by decide, by decide +kernel⟩
  have hrange : inRange ⟨784111778, 500⟩ = true := by decide
  have hnow : sampleSite.Yields sampleDisk q.target.path
      (.file page (Utf8.ofString "<p>hi</p>") ⟨784111777, 0⟩) :=
    yields_samplePage (by decide +kernel) (by decide +kernel) (by decide +kernel)
  have hlater : sampleSite.Yields later q.target.path
      (.file page (Utf8.ofString "<p>ho</p>") ⟨784111778, 500⟩) :=
    yields_samplePage (by decide +kernel) (by decide +kernel) (by decide +kernel)
  have htype : sampleSite.CanCarry page := by decide +kernel
  have hwritten : HttpDate.write? ⟨784111777, 0⟩ = some date := by decide +kernel
  obtain ⟨date', htells, -, hanswers⟩ := lastModified_revalidates hcommon
  cases htells.written.symm.trans hwritten
  obtain ⟨a, ha, -, hdates, hrevalidates⟩ := hanswers (.inl rfl) hnow
  obtain ⟨b, hb, hconfirms, -⟩ := hrevalidates sampleDisk _ _ _ hnow (by decide)
  obtain ⟨c, hc, -, hcarries⟩ := hrevalidates later _ _ _ hlater hrange
  exact ⟨hcommon, hrange, hnow, hlater, a, b, c, ha, hdates htype, hb, hconfirms (by decide), hc,
    (hcarries (by decide)).2 htype⟩

end Site

end FileServer
