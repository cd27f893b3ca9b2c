import FileServer.Proofs.Containment
import FileServer.Proofs.Framing
import FileServer.Proofs.Lines
import FileServer.Proofs.RequestTexts

/-!
No client breaks the records of the logs into lines. What a client sends comes into a record in one
of three ways, and none of them brings a line end along:

    as it came ──▶ the classes of bytes of methods, targets and visible headers have no line ends
    decoded    ──▶ a path is recorded only if something stands at its end, so it is made of names
                   that are on disk
    resolved   ──▶ the place that a path leads to is made of names that are on disk

An escape for a line end is decoded, but what it then names has to be there to be recorded.
-/

namespace FileServer

/-- Every name on disk stays on one line. -/
def Disk.IsOneLine (d : Disk) : Prop := ∀ e ∈ d.entries, ∀ name ∈ e.1, OneLineBytes name

instance (d : Disk) : Decidable d.IsOneLine := inferInstanceAs (Decidable (∀ e ∈ d.entries, _))

/-- The record of an incident is one line. -/
def Incident.IsOneLine (i : Incident) : Prop := OneLine i.record.line.toList

variable {s : Site} {d : Disk} {v : Visit} {q : Request} {u : String} {p : Path} {name : Name}
  {place : Location} {node : Node} {a : Answer} {o : Site.Outcome}

/-! ### Names on disk -/

namespace Disk

theorem IsOneLine.of_node? (hd : d.IsOneLine) (h : d.node? place = some node) :
    ∀ name ∈ place, OneLineBytes name := by
  unfold node? at h
  split at h
  case isTrue hnil =>
    rw [List.isEmpty_iff.1 hnil]
    exact nofun
  case isFalse => exact hd _ (mem_of_lookup h)

theorem IsOneLine.of_knows (hd : d.IsOneLine) (h : d.Knows name) : OneLineBytes name := by
  rcases h with rfl | rfl | ⟨place, node, hnode⟩
  · decide
  · decide
  · exact hd.of_node? hnode name (List.mem_append_right _ (List.mem_singleton.2 rfl))

/-- A path at whose end something stands is recorded on one line. -/
theorem IsOneLine.of_locate (hd : d.IsOneLine) (h : d.locate p = .ok (place, node)) :
    OneLine p.display.toList :=
  Path.oneLine_display (fun _ => Path.exists_name_of_mem) fun name hname =>
    hd.of_knows (knows_of_locate h name hname)

theorem Error.oneLine_message (e : Error) : OneLine e.message.toList := by
  cases e <;> decide +kernel

end Disk

theorem MessageError.oneLine_message (e : MessageError) : OneLine e.message.toList := by
  cases e with
  | target e => cases e <;> decide
  | _ => decide

/-! ### The records of an answer -/

namespace Incident

/-- A record is one line if its text is. -/
theorem isOneLine_iff {i : Incident} : i.IsOneLine ↔ OneLine i.record.text.toList := by
  have htag : ∀ severity : Journal.Severity, OneLine severity.tag.toList := by
    intro severity
    cases severity <;> decide
  simp only [IsOneLine, Journal.Record.line, String.toList_append, oneLine_append]
  exact ⟨fun h => h.2, fun h => ⟨⟨htag _, by decide⟩, h⟩⟩

theorem isOneLine_pathRejected (h : OneLine u.toList) : (pathRejected u).IsOneLine := by
  simp only [isOneLine_iff, record, String.toList_append, oneLine_append]
  exact ⟨by decide, h⟩

theorem isOneLine_rootLeft (h : OneLine u.toList) (hplace : ∀ name ∈ place, OneLineBytes name) :
    (rootLeft u place).IsOneLine := by
  simp only [isOneLine_iff, record, String.toList_append, oneLine_append]
  exact ⟨⟨⟨by decide, h⟩, by decide⟩,
    Path.oneLine_display (fun _ => Path.exists_name_of_mem_absolute) hplace⟩

theorem isOneLine_methodRefused (h : OneLine u.toList) : (methodRefused u).IsOneLine := by
  simp only [isOneLine_iff, record, String.toList_append, oneLine_append]
  exact ⟨by decide, h⟩

theorem isOneLine_fileNotOpened (h : OneLine p.display.toList) (cause : Disk.Error) :
    (fileNotOpened p cause).IsOneLine := by
  simp only [isOneLine_iff, record, String.toList_append, oneLine_append]
  exact ⟨⟨⟨by decide, h⟩, by decide⟩, cause.oneLine_message⟩

theorem isOneLine_directoryNotListed (h : OneLine p.display.toList) (cause : Disk.Error) :
    (directoryNotListed p cause).IsOneLine := by
  simp only [isOneLine_iff, record, String.toList_append, oneLine_append]
  exact ⟨⟨⟨by decide, h⟩, by decide⟩, cause.oneLine_message⟩

theorem isOneLine_responseNotBuilt (code : Nat) (cause : MessageError) :
    (responseNotBuilt code cause).IsOneLine := by
  simp only [isOneLine_iff, record, String.toList_append, oneLine_append]
  exact ⟨⟨⟨by decide, oneLine_toString code⟩, by decide⟩, cause.oneLine_message⟩

end Incident

/-- Everything that is recorded with an answer is one line. -/
def Answer.RecordsLines (a : Answer) : Prop := ∀ i ∈ a.incidents, i.IsOneLine

namespace Answer

theorem recordsLines_plain (status : Status) (fields : List (String × String)) (body : Body) :
    (plain status fields body).RecordsLines := nofun

theorem recordsLines_checked (status fallback : Status) (fields : List (String × String))
    (body : Body) : (checked status fallback fields body).RecordsLines := by
  unfold checked
  split
  · exact recordsLines_plain status fields body
  · exact List.forall_mem_singleton.2 (Incident.isOneLine_responseNotBuilt _ _)

theorem RecordsLines.after {i : Incident} (h : a.RecordsLines) (hi : i.IsOneLine) :
    (a.after [i]).RecordsLines := List.forall_mem_cons.2 ⟨hi, h⟩

end Answer

namespace Site

/-- A path into the root is recorded on one line. -/
theorem LeadsInside.oneLine (hd : d.IsOneLine) (h : s.LeadsInside d p) :
    OneLine p.display.toList := by
  obtain ⟨place, hcanonical, -⟩ := h
  obtain ⟨node, hlocate⟩ := Disk.canonical_eq_ok_iff.1 hcanonical
  exact hd.of_locate hlocate

theorem Tries.isAbsolute (h : s.Tries d u p) : p.isAbsolute = true := by
  cases h with
  | path ht => exact isAbsolute_of_translate ht
  | index hdir hi => exact isAbsolute_of_indexFile hdir.isAbsolute hi

/-- A place that is tried is made of names on disk. -/
theorem Tries.oneLine_place (hd : d.IsOneLine) (h : s.Tries d u p)
    (hcanonical : d.canonical p = .ok place) : ∀ name ∈ place, OneLineBytes name := by
  have hstart : d.IsReal (Disk.start p d.current) := by
    rw [Disk.start, if_pos h.isAbsolute]
    exact Disk.isReal_nil d
  obtain ⟨node, hlocate⟩ := Disk.canonical_eq_ok_iff.1 hcanonical
  exact hd.of_node? (Disk.isReal_of_locate hstart hlocate).2

/-- What the answer to an outcome records stays on its lines, one case for each outcome. -/
theorem Yields.recordsLines (hd : d.IsOneLine) (hu : OneLine v.path.toList)
    (ho : s.Yields d v.path o) (h : o.answer s v = .ok a) : a.RecordsLines := by
  have hmissing : Answer.notFound.RecordsLines := Answer.recordsLines_plain _ _ _
  cases ho with
  | rejected =>
    cases h
    exact hmissing.after (Incident.isOneLine_pathRejected hu)
  | unresolved | unseen | slashed | hidden =>
    cases h
    exact hmissing
  | left htries hcanonical =>
    cases h
    exact hmissing.after (Incident.isOneLine_rootLeft hu (htries.oneLine_place hd hcanonical))
  | moved =>
    cases h
    exact Answer.recordsLines_checked _ _ _ _
  | file =>
    rw [answer_file] at h
    split at h
    · cases h
    · cases h
      unfold fileAnswer
      split <;> exact Answer.recordsLines_checked _ _ _ _
  | locked hchosen =>
    cases h
    exact hmissing.after (Incident.isOneLine_fileNotOpened (hchosen.inside.oneLine hd) _)
  | listed =>
    cases h
    exact Answer.recordsLines_plain _ _ _
  | unlisted hdir =>
    cases h
    obtain ⟨node, hreaches, -, -⟩ := hdir
    exact (Answer.recordsLines_plain _ _ _ : noPermission.RecordsLines).after
      (Incident.isOneLine_directoryNotListed (hreaches.inside.oneLine hd) _)

/-- What is recorded about a request whose method and path are on one line stays on its lines. -/
theorem handle_recordsLines (hd : d.IsOneLine) (hmethod : OneLine q.method.toList)
    (hpath : OneLine q.target.path.toList) (h : s.handle d q = .ok a) : a.RecordsLines := by
  obtain ⟨b, hb, hsigned⟩ := bind_eq_ok_iff.1 h
  cases hsigned
  rw [Answer.RecordsLines, Answer.incidents_signed]
  rcases dispatch_cases s d q with ⟨-, heq⟩ | ⟨-, heq⟩ | ⟨-, heq⟩
  · obtain ⟨o, ho, hanswer⟩ := serve_answered s d q.target.path
    exact ho.recordsLines hd hpath ((hanswer q.visit rfl).symm.trans (heq.symm.trans hb))
  · cases heq.symm.trans hb
    exact Answer.recordsLines_plain _ _ _
  · cases heq.symm.trans hb
    have hrefusal : (Answer.methodNotAllowed q.method).RecordsLines := by rintro i ⟨⟩
    exact hrefusal.after (Incident.isOneLine_methodRefused hmethod)

end Site

/-! ### Requests -/

namespace Request

variable {method target : Bytes} {version : Version} {fields : List (Bytes × Bytes)}

theorem oneLine_method (h : make method target version fields = .ok q) :
    OneLine q.method.toList :=
  oneLine_iff.2 ⟨notMem_method h (by decide) (by decide), notMem_method h (by decide) (by decide)⟩

theorem oneLine_path (h : make method target version fields = .ok q) :
    OneLine q.target.path.toList :=
  oneLine_iff.2 ⟨notMem_path h (by decide) (by decide), notMem_path h (by decide) (by decide)⟩

theorem oneLine_query (h : make method target version fields = .ok q) :
    ∀ query, q.target.query = some query → OneLine query.toList := fun query hquery =>
  oneLine_iff.2 ⟨notMem_query h (by decide) (by decide) query hquery,
    notMem_query h (by decide) (by decide) query hquery⟩

theorem oneLine_header {name : String} :
    ∀ text, (q.headers.get? name).bind visibleText? = some text → OneLine text.toList := by
  intro text h
  obtain ⟨value, -, hvalue⟩ := Option.bind_eq_some_iff.1 h
  exact oneLine_visibleText? hvalue

/-- The side of the entry that is known of a request stays on one line. -/
theorem isOneLine_entry (h : make method target version fields = .ok q) (peer : IpAddress) :
    (LogEntry.ofRequest peer.text q).IsOneLine where
  remoteAddress := (allPlain_address peer).oneLine
  method := oneLine_method h
  path := oneLine_path h
  query := oneLine_query h
  version := (allPlain_version q.version).oneLine
  referer := oneLine_header
  userAgent := oneLine_header

end Request

namespace Site

/-- Every request that is accepted is recorded in lines: its entry in the access log, in every form
and with whatever is put down about the answer, and all that is recorded about it in the error log.
No name on disk and no pattern may hold the end of a line itself. -/
theorem request_recordedInLines {method target : Bytes} {version : Version}
    {fields : List (Bytes × Bytes)} {form : String} (hd : d.IsOneLine)
    (hform : OneLine form.toList) (h : Request.make method target version fields = .ok q) :
    (∀ (peer : IpAddress) (time : Instant) (offset : Int) (status bodyBytes micros : Nat),
      OneLine (({ LogEntry.ofRequest peer.text q with
        time, offset, status, bodyBytes, micros } : LogEntry).format form).toList) ∧
      ∀ a, s.handle d q = .ok a → ∀ i ∈ a.incidents, OneLine i.record.line.toList := by
  refine ⟨fun peer time offset status bodyBytes micros => ?_, fun a ha => ?_⟩
  · have hentry := Request.isOneLine_entry h peer
    exact LogEntry.IsOneLine.format ⟨hentry.remoteAddress, hentry.method, hentry.path,
      hentry.query, hentry.version, hentry.referer, hentry.userAgent⟩ hform
  · exact handle_recordsLines hd (Request.oneLine_method h) (Request.oneLine_path h) ha

/-- A line end that is escaped in a request for the small site comes into the access log as it was
sent. -/
theorem samplePage_recordedInLines :
    let q : Request := { method := "GET", target := { path := "/%0apages" } }
    let e := LogEntry.ofRequest (IpAddress.v4 127 0 0 1).text q
    sampleDisk.IsOneLine ∧ OneLine "$request $status".toList ∧
      Request.make (Utf8.ofString "GET") (Utf8.ofString "/%0apages") .v11 [] = .ok q ∧
      e.format "$request $status" = "GET /%0apages HTTP/1.1 200" ∧
      OneLine (e.format "$request $status").toList := by
  intro q e
  have hd : sampleDisk.IsOneLine := by decide +kernel
  have hform : OneLine "$request $status".toList := by decide
  have hq : Request.make (Utf8.ofString "GET") (Utf8.ofString "/%0apages") .v11 [] = .ok q :=
    eq_ok_of_toOption (by decide +kernel)
  have hlines := request_recordedInLines (s := sampleSite) hd hform hq
  exact ⟨hd, hform, hq, by decide +kernel, hlines.1 (.v4 127 0 0 1) ⟨0, 0⟩ 0 200 0 0⟩

end Site

end FileServer
