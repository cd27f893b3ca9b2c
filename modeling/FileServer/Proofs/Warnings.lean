import FileServer.Proofs.Framing

/-!
What the error log says about requests. A request adds one record to it at most. A path that is
refused and a path that leads out of the root are warned about, each in its own words and in no
other case, and a path that leads nowhere is passed over in silence:

    refused              404    [WARN] Rejected request path: …
    out of the root      404    [WARN] Path traversal attempt blocked: … -> …
    nowhere              404
    unreadable, or an answer that cannot be made      [ERROR] …
-/

namespace FileServer

/-- The records that a request adds to the error log; one that is given up adds none. -/
def Served.records : Served → List Journal.Record
  | .ok a => a.incidents.map (·.record)
  | .error _ => []

/-- A warning that begins with the given words is added to the error log. -/
def Served.Warns (r : Served) (words : String) : Prop :=
  ∃ record ∈ r.records, record.severity = .warning ∧ words.toList <+: record.text.toList

/-- The request is answered with 404, and these records and no others are added to the error log. -/
def Served.MissesWith (r : Served) (records : List Journal.Record) : Prop :=
  ∃ a, r = .ok a ∧ a.response.status = .notFound ∧ r.records = records

/-- The words of a warning about a path that is refused. -/
def rejectedWords : String := "Rejected request path"

/-- The words of a warning about a path that leads out of the root. -/
def leftWords : String := "Path traversal attempt blocked"

namespace Site

variable {s : Site} {d : Disk} {v : Visit} {q : Request} {u : String} {path : Path}
  {place : Location} {o : Outcome} {a : Answer} {r : Served}

/-! ### Records of answers -/

/-- An answer is recorded by one error at most. -/
def RecordsError (a : Answer) : Prop :=
  a.incidents.length ≤ 1 ∧ ∀ i ∈ a.incidents, i.record.severity = .error

theorem recordsError_plain (status : Status) (fields : List (String × String)) (body : Body) :
    RecordsError (.plain status fields body) := ⟨Nat.zero_le 1, nofun⟩

theorem recordsError_checked (status fallback : Status) (fields : List (String × String))
    (body : Body) : RecordsError (.checked status fallback fields body) := by
  unfold Answer.checked
  split
  · exact recordsError_plain status fields body
  · exact ⟨Nat.le_refl 1, by simp [Incident.record]⟩

/-- Only a path that is refused or leads out of the root is warned about. -/
theorem recordsError_of_answer (h : o.answer s v = .ok a) (hrejected : o ≠ .rejected)
    (hleft : ∀ place, o ≠ .left place) : RecordsError a := by
  cases o with
  | rejected => exact absurd rfl hrejected
  | left place => exact absurd rfl (hleft place)
  | nothing | listed =>
    cases h
    exact recordsError_plain _ _ _
  | moved =>
    cases h
    exact recordsError_checked _ _ _ _
  | locked | unlisted =>
    cases h
    exact ⟨Nat.le_refl 1, by simp [Answer.after, Answer.notFound, noPermission, Answer.problem,
      Answer.plain, Incident.record]⟩
  | file path content modified =>
    rw [answer_file] at h
    split at h
    · cases h
    · cases h
      unfold fileAnswer
      split <;> exact recordsError_checked _ _ _ _

/-- What a request for something on the site adds to the error log: one of the two warnings, or one
error at most. -/
theorem records_serve (s : Site) (d : Disk) (v : Visit) :
    (translate s.rootPath v.path = none ∧
      (s.serve d v).records = [(Incident.pathRejected v.path).record]) ∨
    (∃ path place, s.Tries d v.path path ∧ d.canonical path = .ok place ∧ ¬s.root <+: place ∧
      (s.serve d v).records = [(Incident.rootLeft v.path place).record]) ∨
    (s.serve d v).records.length ≤ 1 ∧
      ∀ record ∈ (s.serve d v).records, record.severity = .error := by
  obtain ⟨o, ho, hanswer⟩ := serve_answered s d v.path
  rw [hanswer v rfl]
  by_cases hrejected : o = .rejected
  · subst hrejected
    cases ho with
    | rejected ht => exact .inl ⟨ht, rfl⟩
  by_cases hleft : ∃ place, o = .left place
  · obtain ⟨place, rfl⟩ := hleft
    cases ho with
    | left h hc hout => exact .inr (.inl ⟨_, place, h, hc, hout, rfl⟩)
  refine .inr (.inr ?_)
  cases hserved : o.answer s v with
  | error u => exact ⟨Nat.zero_le 1, nofun⟩
  | ok a =>
    obtain ⟨hlength, herror⟩ := recordsError_of_answer hserved hrejected (not_exists.1 hleft)
    refine ⟨by rwa [Served.records, List.length_map], fun record hrecord => ?_⟩
    obtain ⟨i, hi, rfl⟩ := List.mem_map.1 hrecord
    exact herror i hi

/-! ### The two warnings -/

theorem warns_singleton {i : Incident} {words : String} (h : r.records = [i.record]) :
    r.Warns words ↔ i.record.severity = .warning ∧ words.toList <+: i.record.text.toList := by
  rw [Served.Warns, h]
  simp

theorem not_warns {words : String} (h : ∀ record ∈ r.records, record.severity = .error) :
    ¬r.Warns words := by
  rintro ⟨record, hrecord, hwarning, -⟩
  rw [h record hrecord] at hwarning
  cases hwarning

/-- A warning about a path that is refused begins with the words for that and no others. -/
theorem pathRejected_begins (u : String) :
    rejectedWords.toList <+: (Incident.pathRejected u).record.text.toList ∧
      ¬leftWords.toList <+: (Incident.pathRejected u).record.text.toList := by
  rw [Incident.record, String.toList_append]
  refine ⟨List.prefix_append_of_prefix (by decide), fun h => ?_⟩
  exact absurd (List.cons_prefix_cons.1 h).1 (by decide)

/-- A warning about a path that leads out of the root begins with the words for that and no
others. -/
theorem rootLeft_begins (u : String) (place : Location) :
    leftWords.toList <+: (Incident.rootLeft u place).record.text.toList ∧
      ¬rejectedWords.toList <+: (Incident.rootLeft u place).record.text.toList := by
  rw [Incident.record, String.toList_append, String.toList_append, String.toList_append,
    List.append_assoc, List.append_assoc]
  refine ⟨List.prefix_append_of_prefix (by decide), fun h => ?_⟩
  exact absurd (List.cons_prefix_cons.1 h).1 (by decide)

/-! ### What is missing -/

theorem missesWith_of_eq (incidents : List Incident)
    (h : r = .ok (Answer.notFound.after incidents)) :
    r.MissesWith (incidents.map (·.record)) := by
  refine ⟨_, h, rfl, ?_⟩
  rw [h, Served.records, Answer.after]
  exact congrArg _ (List.append_nil incidents)

theorem missesWith_of_rejected (ht : translate s.rootPath v.path = none) :
    (s.serve d v).MissesWith [(Incident.pathRejected v.path).record] := by
  refine missesWith_of_eq [.pathRejected v.path] ?_
  rw [serve, ht]
  rfl

theorem missesWith_of_left (h : s.Tries d v.path path) (hc : d.canonical path = .ok place)
    (hout : ¬s.root <+: place) :
    (s.serve d v).MissesWith [(Incident.rootLeft v.path place).record] := by
  refine missesWith_of_eq [.rootLeft v.path place] ?_
  cases h with
  | path ht =>
    rw [serve, ht]
    dsimp only
    rw [admits_of_left hc hout]
    rfl
  | index hdir hi =>
    obtain ⟨node, hreaches, hnode, hslash⟩ := hdir
    rw [serve_of_reaches hreaches rfl, if_pos hnode, serveDirectory_of_some hslash hi,
      serveAdmitted, admits_of_left hc hout]
    rfl

theorem missesWith_of_unresolved {cause : Disk.Error}
    (ht : translate s.rootPath v.path = some path) (hc : d.canonical path = .error cause) :
    (s.serve d v).MissesWith [] := by
  refine missesWith_of_eq [] ?_
  rw [serve, ht]
  dsimp only
  rw [admits_of_error hc]
  rfl

/-- A path is warned about as refused exactly if it stands for nothing on disk. -/
theorem warns_rejected_iff :
    (s.serve d v).Warns rejectedWords ↔ translate s.rootPath v.path = none := by
  constructor
  · intro hwarns
    rcases records_serve s d v with ⟨ht, -⟩ | ⟨path, place, -, -, -, h⟩ | ⟨-, herror⟩
    · exact ht
    · exact absurd ((warns_singleton h).1 hwarns).2 (rootLeft_begins v.path place).2
    · exact absurd hwarns (not_warns herror)
  · intro ht
    obtain ⟨a, -, -, h⟩ := missesWith_of_rejected (d := d) ht
    exact (warns_singleton h).2 ⟨rfl, (pathRejected_begins v.path).1⟩

/-- A path is warned about as leading out of the root exactly if it does, itself or by an index
file. -/
theorem warns_left_iff : (s.serve d v).Warns leftWords ↔
    ∃ path place, s.Tries d v.path path ∧ d.canonical path = .ok place ∧ ¬s.root <+: place := by
  constructor
  · intro hwarns
    rcases records_serve s d v with ⟨-, h⟩ | ⟨path, place, htries, hc, hout, -⟩ | ⟨-, herror⟩
    · exact absurd ((warns_singleton h).1 hwarns).2 (pathRejected_begins v.path).2
    · exact ⟨path, place, htries, hc, hout⟩
    · exact absurd hwarns (not_warns herror)
  · rintro ⟨path, place, htries, hc, hout⟩
    obtain ⟨a, -, -, h⟩ := missesWith_of_left htries hc hout
    exact (warns_singleton h).2 ⟨rfl, (rootLeft_begins v.path place).1⟩

/-! ### Requests -/

/-- The name of the server adds no record. -/
theorem records_handle (s : Site) (d : Disk) (q : Request) :
    (s.handle d q).records = (s.dispatch d q).records := by
  rw [handle]
  cases s.dispatch d q with
  | error u => rfl
  | ok a => exact congrArg (List.map (·.record)) (a.incidents_signed s.serverName)

/-- The name of the server makes no page of one that is missing. -/
theorem missesWith_handle {records : List Journal.Record}
    (h : (s.dispatch d q).MissesWith records) : (s.handle d q).MissesWith records := by
  obtain ⟨a, ha, hstatus, hrecords⟩ := h
  refine ⟨a.signed s.serverName, ?_, ?_, ?_⟩
  · rw [handle, ha]
    rfl
  · rw [Answer.status_signed, hstatus]
  · rw [records_handle, hrecords]

/-- No request adds more than one record to the error log. -/
theorem length_records_handle (s : Site) (d : Disk) (q : Request) :
    (s.handle d q).records.length ≤ 1 := by
  rw [records_handle]
  rcases dispatch_cases s d q with ⟨-, heq⟩ | ⟨-, heq⟩ | ⟨-, heq⟩
  · rw [heq]
    rcases records_serve s d q.visit with ⟨-, h⟩ | ⟨path, place, -, -, -, h⟩ | ⟨h, -⟩
    · rw [h]
      exact Nat.le_refl 1
    · rw [h]
      exact Nat.le_refl 1
    · exact h
  · rw [heq]
    exact Nat.zero_le 1
  · rw [heq]
    exact Nat.le_refl 1

/-- The audit trail of requests, for every tree of files: no request adds more than one record to
the error log. Of requests for something on the site exactly those are warned about whose path is
refused, or leads out of the root, itself or by the index file of the directory it leads to; both
are answered with 404. A path that leads nowhere is answered with 404 and not recorded. -/
theorem handle_audited (s : Site) (d : Disk) (q : Request) :
    (s.handle d q).records.length ≤ 1 ∧
    (q.method = "GET" ∨ q.method = "HEAD" →
      let u := q.target.path
      ((s.handle d q).Warns rejectedWords ↔ translate s.rootPath u = none) ∧
      ((s.handle d q).Warns leftWords ↔ ∃ path place, s.Tries d u path ∧
        d.canonical path = .ok place ∧ ¬s.root <+: place) ∧
      (translate s.rootPath u = none →
        (s.handle d q).MissesWith [(Incident.pathRejected u).record]) ∧
      (∀ path place, s.Tries d u path → d.canonical path = .ok place → ¬s.root <+: place →
        (s.handle d q).MissesWith [(Incident.rootLeft u place).record]) ∧
      ∀ path cause, translate s.rootPath u = some path → d.canonical path = .error cause →
        (s.handle d q).MissesWith []) := by
  refine ⟨length_records_handle s d q, fun hmethod => ?_⟩
  have hdispatch : s.dispatch d q = s.serve d q.visit := dispatch_of_method hmethod
  have hwarns : ∀ words, (s.handle d q).Warns words ↔ (s.serve d q.visit).Warns words := by
    intro words
    rw [Served.Warns, Served.Warns, records_handle, hdispatch]
  have hmisses : ∀ records, (s.serve d q.visit).MissesWith records →
      (s.handle d q).MissesWith records := by
    intro records h
    exact missesWith_handle (hdispatch ▸ h)
  refine ⟨(hwarns _).trans warns_rejected_iff, (hwarns _).trans warns_left_iff, ?_, ?_, ?_⟩
  · intro ht
    exact hmisses _ (missesWith_of_rejected (v := q.visit) ht)
  · intro path place htries hc hout
    exact hmisses _ (missesWith_of_left (v := q.visit) htries hc hout)
  · intro path cause ht hc
    exact hmisses _ (missesWith_of_unresolved (v := q.visit) ht hc)

/-- The small directory with two more links: one that leads out of the root and one that leads
nowhere, being its own target. -/
def trapDisk : Disk :=
  (sampleDisk.put (placeOf ["srv", "www", "out"]) (.link (.ofString "../www-secret"))).put
    (placeOf ["srv", "www", "loop"]) (.link (.ofString "loop"))

/-- A climb and the link out of the root are warned about, and the link that leads nowhere is passed
over. -/
theorem handle_audited_traps :
    let get (path : String) := sampleSite.handle trapDisk { method := "GET", target := { path } }
    (get "/%2e%2e/key").MissesWith [⟨.warning, "Rejected request path: /%2e%2e/key"⟩] ∧
      (get "/out/key").MissesWith
        [⟨.warning, "Path traversal attempt blocked: /out/key -> /srv/www-secret/key"⟩] ∧
      (get "/loop/x").MissesWith [] := by
  intro get
  have hclimb : translate sampleSite.rootPath "/%2e%2e/key" = none := by decide +kernel
  have hout : translate sampleSite.rootPath "/out/key" = some (.ofString "/srv/www/out/key") := by
    decide +kernel
  have hloop : translate sampleSite.rootPath "/loop/x" = some (.ofString "/srv/www/loop/x") := by
    decide +kernel
  have hkey : trapDisk.canonical (.ofString "/srv/www/out/key") =
      .ok (placeOf ["srv", "www-secret", "key"]) := eq_ok_of_toOption (by decide +kernel)
  have hnowhere : trapDisk.canonical (.ofString "/srv/www/loop/x") = .error .tooManyLinks := rfl
  have hrecord : (Incident.rootLeft "/out/key" (placeOf ["srv", "www-secret", "key"])).record =
      ⟨.warning, "Path traversal attempt blocked: /out/key -> /srv/www-secret/key"⟩ := by
    decide +kernel
  have haudit := fun path : String =>
    (handle_audited sampleSite trapDisk { method := "GET", target := { path } }).2 (.inl rfl)
  obtain ⟨-, -, hrejected, -, -⟩ := haudit "/%2e%2e/key"
  obtain ⟨-, -, -, hleft, -⟩ := haudit "/out/key"
  obtain ⟨-, -, -, -, hpassed⟩ := haudit "/loop/x"
  refine ⟨hrejected hclimb, ?_, hpassed _ _ hloop hnowhere⟩
  rw [← hrecord]
  exact hleft _ _ (.path hout) hkey (by decide +kernel)

end Site

end FileServer
