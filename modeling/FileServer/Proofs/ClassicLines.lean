import FileServer.Proofs.Numerals
import FileServer.Proofs.PlainTexts
import FileServer.Proofs.Redirects
import FileServer.Proofs.RequestTexts

/-!
What can be read out of the classic lines of the access log, which are put together without escapes:

    address - - [clock zone] "method uri HTTP/version" status bytes        cut at the blanks
    ····· "request line" ······· "referer" · "user agent"                  cut at the quotes

No word of the common form holds a blank, and no path holds a question mark, so a common line tells
all that it was made of. Quotation marks are left out of methods and queries, but not of paths and
the headers that are shown: a combined line falls into one more piece for each of those.
-/

namespace FileServer

namespace LogEntry

open Text

variable {e e' : LogEntry} {clock zone : List Char}

/-! ### The common form, cut at its blanks -/

/-- No word of the common form holds a blank, and the path no question mark. -/
structure IsSpaced (e : LogEntry) : Prop where
  remoteAddress : ' ' ∉ e.remoteAddress.toList
  method : ' ' ∉ e.method.toList
  uri : ' ' ∉ e.uri.toList
  version : ' ' ∉ e.version.toList
  path : '?' ∉ e.path.toList

/-- The words of the common form, the time being shown as a clock and a zone. -/
def commonWords (e : LogEntry) (clock zone : List Char) : List (List Char) :=
  [e.remoteAddress.toList, ['-'], ['-'], '[' :: clock, zone ++ [']'], '"' :: e.method.toList,
    e.uri.toList, "HTTP/".toList ++ e.version.toList ++ ['"'], (toString e.status).toList,
    (toString e.bodyBytes).toList]

/-- A common line is its words with blanks between them. -/
theorem common_eq_words (h : e.classicTime.toList = clock ++ ' ' :: zone) :
    e.common.toList = List.intercalate [' '] (e.commonWords clock zone) := by
  simp [common, requestLine, commonWords, String.toList_append, h, List.intercalate_cons_cons]

theorem IsSpaced.blank_notMem_commonWords (h : e.IsSpaced) (hclock : AllPlain clock)
    (hzone : AllPlain zone) : ∀ word ∈ e.commonWords clock zone, ' ' ∉ word := by
  have hblank : ¬IsPlain ' ' := by decide
  have hclock' : ' ' ∉ clock := hclock.notMem hblank
  have hzone' : ' ' ∉ zone := hzone.notMem hblank
  simp only [commonWords, List.forall_mem_cons]
  refine ⟨h.remoteAddress, by decide, by decide, ?_, ?_, ?_, h.uri, ?_, ?_, ?_, nofun⟩
  · simp [hclock']
  · simp [hzone']
  · simp [h.method]
  · simp [h.version]
  · exact (allPlain_toString _).notMem hblank
  · exact (allPlain_toString _).notMem hblank

/-- Cut at its blanks, a common line falls into its words. -/
theorem IsSpaced.splitOn_common (h : e.IsSpaced) : ∃ clock zone,
    e.classicTime.toList = clock ++ ' ' :: zone ∧
      e.common.toList.splitOn ' ' = e.commonWords clock zone := by
  obtain ⟨clock, zone, htime, hclock, hzone⟩ := e.exists_classicTime
  refine ⟨clock, zone, htime, ?_⟩
  rw [common_eq_words htime]
  exact List.splitOn_intercalate ' ' (h.blank_notMem_commonWords hclock hzone)
    (List.cons_ne_nil _ _)

theorem uri_eq (e : LogEntry) : e.uri = e.path ++ (e.query.map ("?" ++ ·)).getD "" := by
  unfold LogEntry.uri
  cases e.query with
  | none => exact String.append_empty.symm
  | some query => exact String.append_assoc

/-- Path and query are told apart by the first question mark. -/
theorem IsSpaced.cutAtQuery_uri (h : e.IsSpaced) :
    Site.cutAtQuery e.uri = (e.path, e.query) := by
  rw [uri_eq]
  exact Site.cutAtQuery_append h.path e.query

/-- What a common line tells of an entry. -/
structure TellsSame (e e' : LogEntry) : Prop where
  remoteAddress : e.remoteAddress = e'.remoteAddress
  time : e.classicTime = e'.classicTime
  method : e.method = e'.method
  path : e.path = e'.path
  query : e.query = e'.query
  version : e.version = e'.version
  status : e.status = e'.status
  bodyBytes : e.bodyBytes = e'.bodyBytes

/-- A number is told by its numeral. -/
theorem eq_of_toString_eq {m n : Nat} (h : (toString m).toList = (toString n).toList) : m = n := by
  simp only [Nat.toString_eq_ofList_toDigits, String.toList_ofList] at h
  rw [← ofDigits_toDigits m, h, ofDigits_toDigits]

/-- Lines whose words hold no blanks are equal only if they tell the same. -/
theorem IsSpaced.tellsSame (h : e.IsSpaced) (h' : e'.IsSpaced) (hline : e.common = e'.common) :
    e.TellsSame e' := by
  obtain ⟨clock, zone, htime, hwords⟩ := h.splitOn_common
  obtain ⟨clock', zone', htime', hwords'⟩ := h'.splitOn_common
  have hsame : e.commonWords clock zone = e'.commonWords clock' zone' := by
    rw [← hwords, ← hwords', hline]
  simp only [commonWords, List.cons.injEq, List.append_cancel_left_eq, List.append_cancel_right_eq,
    true_and, and_true] at hsame
  obtain ⟨haddress, hclock, hzone, hmethod, huri, hversion, hstatus, hbytes⟩ := hsame
  rw [String.toList_inj] at haddress hmethod huri hversion
  have hcut : (e.path, e.query) = (e'.path, e'.query) := by
    rw [← h.cutAtQuery_uri, ← h'.cutAtQuery_uri, huri]
  obtain ⟨hpath, hquery⟩ := Prod.mk.inj hcut
  exact {
    remoteAddress := haddress
    time := by rw [← String.toList_inj, htime, htime', hclock, hzone]
    method := hmethod
    path := hpath
    query := hquery
    version := hversion
    status := eq_of_toString_eq hstatus
    bodyBytes := eq_of_toString_eq hbytes }

/-! ### The combined form, cut at its quotation marks -/

/-- Cutting gives one piece more than there are marks. -/
theorem length_splitOn (c : Char) (cs : List Char) : (cs.splitOn c).length = cs.count c + 1 := by
  induction cs with
  | nil => rfl
  | cons x cs ih =>
    rw [List.splitOn_cons_eq_if_modifyHead, List.count_cons]
    split
    · rw [List.length_cons, ih]
    · rw [List.length_modifyHead, ih, Nat.add_zero]

/-- What stands in front of the first quotation mark of a classic line. -/
def lineFront (e : LogEntry) : List Char :=
  e.remoteAddress.toList ++ " - - [".toList ++ e.classicTime.toList ++ "] ".toList

/-- What stands between the request and the referer. -/
def lineAccount (e : LogEntry) : List Char :=
  ' ' :: (toString e.status).toList ++ ' ' :: (toString e.bodyBytes).toList ++ [' ']

/-- A combined line as a text that goes on behind each of its six quotation marks. -/
theorem combined_eq_quoted (e : LogEntry) :
    e.combined.toList = e.lineFront ++ '"' :: (e.requestLine.toList ++ '"' :: (e.lineAccount ++
      '"' :: ((e.referer.getD "-").toList ++ '"' :: ([' '] ++ '"' ::
        ((e.userAgent.getD "-").toList ++ '"' :: []))))) := by
  simp [combined, common, lineFront, lineAccount, String.toList_append]

/-- Cut at its quotation marks, a combined line falls into the pieces of its parts. -/
theorem splitOn_combined (haddress : '"' ∉ e.remoteAddress.toList) :
    e.combined.toList.splitOn '"' = [e.lineFront] ++ e.requestLine.toList.splitOn '"' ++
      [e.lineAccount] ++ (e.referer.getD "-").toList.splitOn '"' ++ [[' ']] ++
        (e.userAgent.getD "-").toList.splitOn '"' ++ [[]] := by
  have hmark : ¬IsPlain '"' := by decide
  have hfront : '"' ∉ e.lineFront := by
    have htime := e.notMem_classicTime hmark (by decide)
    simp [lineFront, haddress, htime]
  have haccount : '"' ∉ e.lineAccount := by
    have hstatus := (allPlain_toString e.status).notMem hmark
    have hbytes := (allPlain_toString e.bodyBytes).notMem hmark
    simp only [lineAccount, List.mem_append, List.mem_cons, List.not_mem_nil, or_false, not_or]
    exact ⟨⟨⟨by decide, hstatus⟩, by decide, hbytes⟩, by decide⟩
  rw [combined_eq_quoted]
  simp only [List.splitOn_append_cons_self]
  rw [List.splitOn_eq_singleton hfront, List.splitOn_eq_singleton haccount,
    List.splitOn_eq_singleton (show '"' ∉ [' '] by decide), List.splitOn_nil]
  simp only [List.append_assoc]

/-- What the client sends in front of the headers holds no quotation mark but in the path. -/
structure IsQuotable (e : LogEntry) : Prop where
  remoteAddress : '"' ∉ e.remoteAddress.toList
  method : '"' ∉ e.method.toList
  query : ∀ query, e.query = some query → '"' ∉ query.toList
  version : '"' ∉ e.version.toList

/-- The quotation marks of a request line are those of the path. -/
theorem IsQuotable.count_requestLine (h : e.IsQuotable) :
    e.requestLine.toList.count '"' = e.path.toList.count '"' := by
  have hmethod : e.method.toList.count '"' = 0 := List.count_eq_zero.2 h.method
  have hversion : e.version.toList.count '"' = 0 := List.count_eq_zero.2 h.version
  have huri : e.uri.toList.count '"' = e.path.toList.count '"' := count_uri (by decide) h.query
  simp [requestLine, String.toList_append, List.count_append, hmethod, hversion, huri]

/-- A combined line has seven pieces, and one more for every quotation mark in the path and in the
two headers. -/
theorem IsQuotable.length_splitOn_combined (h : e.IsQuotable) :
    (e.combined.toList.splitOn '"').length = 7 + (e.path.toList.count '"' +
      (e.referer.getD "-").toList.count '"' + (e.userAgent.getD "-").toList.count '"') := by
  rw [splitOn_combined h.remoteAddress]
  simp only [List.length_append, length_splitOn, List.length_singleton, h.count_requestLine]
  omega

/-- The pieces of a combined line are its parts exactly if there are no other quotation marks. -/
theorem IsQuotable.splitOn_combined_eq_iff (h : e.IsQuotable) :
    e.combined.toList.splitOn '"' = [e.lineFront, e.requestLine.toList, e.lineAccount,
        (e.referer.getD "-").toList, [' '], (e.userAgent.getD "-").toList, []] ↔
      '"' ∉ e.path.toList ∧ '"' ∉ (e.referer.getD "-").toList ∧
        '"' ∉ (e.userAgent.getD "-").toList := by
  constructor
  · intro hpieces
    have hlength := h.length_splitOn_combined
    rw [hpieces] at hlength
    simp only [List.length_cons, List.length_nil] at hlength
    refine ⟨List.count_eq_zero.1 ?_, List.count_eq_zero.1 ?_, List.count_eq_zero.1 ?_⟩ <;> omega
  · rintro ⟨hpath, hreferer, huserAgent⟩
    have hline : '"' ∉ e.requestLine.toList := by
      rw [← List.count_eq_zero, h.count_requestLine]
      exact List.count_eq_zero.2 hpath
    rw [splitOn_combined h.remoteAddress, List.splitOn_eq_singleton hline,
      List.splitOn_eq_singleton hreferer, List.splitOn_eq_singleton huserAgent]
    rfl

/-- An entry of which only what is put down about the answer may differ from another. -/
def Completes (e start : LogEntry) : Prop :=
  e = { start with
    time := e.time, offset := e.offset, status := e.status, bodyBytes := e.bodyBytes
    micros := e.micros }

theorem Completes.isSpaced (h : e.Completes e') (hspaced : e'.IsSpaced) : e.IsSpaced := by
  rw [h]
  exact ⟨hspaced.remoteAddress, hspaced.method, hspaced.uri, hspaced.version, hspaced.path⟩

theorem Completes.isQuotable (h : e.Completes e') (hquotable : e'.IsQuotable) :
    e.IsQuotable := by
  rw [h]
  exact ⟨hquotable.remoteAddress, hquotable.method, hquotable.query, hquotable.version⟩

end LogEntry

namespace Request

open LogEntry

variable {q q' : Request} {method method' target target' : Bytes} {version version' : Version}
  {fields fields' : List (Bytes × Bytes)} {peer peer' : IpAddress} {e e' : LogEntry}

/-- The words of a request that is accepted hold no blanks. -/
theorem isSpaced_entry (h : make method target version fields = .ok q) (peer : IpAddress) :
    (ofRequest peer.text q).IsSpaced where
  remoteAddress := (allPlain_address peer).notMem (by decide)
  method := notMem_method h (by decide) (by decide)
  uri := notMem_uri (by decide) (notMem_path h (by decide) (by decide))
    (notMem_query h (by decide) (by decide))
  version := (allPlain_version q.version).notMem (by decide)
  path := notMem_path h (by decide) (by decide)

/-- Of a request that is accepted only the path may hold quotation marks, headers apart. -/
theorem isQuotable_entry (h : make method target version fields = .ok q) (peer : IpAddress) :
    (ofRequest peer.text q).IsQuotable where
  remoteAddress := (allPlain_address peer).notMem (by decide)
  method := notMem_method h (by decide) (by decide)
  query := notMem_query h (by decide) (by decide)
  version := (allPlain_version q.version).notMem (by decide)

/-- Common lines are uniquely decodable. If the lines of two requests that were accepted are equal,
whatever was put down about the answers, then so is all that they tell. -/
theorem common_decodable (hq : make method target version fields = .ok q)
    (hq' : make method' target' version' fields' = .ok q')
    (he : e.Completes (ofRequest peer.text q)) (he' : e'.Completes (ofRequest peer'.text q'))
    (hline : e.format "common" = e'.format "common") : e.TellsSame e' :=
  (he.isSpaced (isSpaced_entry hq peer)).tellsSame (he'.isSpaced (isSpaced_entry hq' peer')) hline

/-- A request for a page, by its path alone. -/
def pageByPath : Request := { method := "GET", target := { path := "/a", query := some "b" } }

/-- A request for the same page by an address, from a client that gives its name. -/
def pageByAddress : Request :=
  { pageByPath with headers := ({} : Headers).append "user-agent" (Utf8.ofString "curl") }

/-- What a common line does not tell may differ. -/
theorem common_decodable_samplePages :
    let e := { ofRequest (IpAddress.v4 127 0 0 1).text pageByPath with status := 404 }
    let e' :=
      { ofRequest (IpAddress.v4 127 0 0 1).text pageByAddress with status := 404, micros := 7 }
    make (Utf8.ofString "GET") (Utf8.ofString "/a?b") .v11 [] = .ok pageByPath ∧
      make (Utf8.ofString "GET") (Utf8.ofString "http://h/a?b") .v11
        [(Utf8.ofString "User-Agent", Utf8.ofString "curl")] = .ok pageByAddress ∧
      e.format "common" = e'.format "common" ∧ e ≠ e' ∧ e.TellsSame e' := by
  intro e e'
  have hpath : make (Utf8.ofString "GET") (Utf8.ofString "/a?b") .v11 [] = .ok pageByPath :=
    eq_ok_of_toOption (by decide +kernel)
  have haddress : make (Utf8.ofString "GET") (Utf8.ofString "http://h/a?b") .v11
      [(Utf8.ofString "User-Agent", Utf8.ofString "curl")] = .ok pageByAddress :=
    eq_ok_of_toOption (by decide +kernel)
  have he : e.Completes (ofRequest (IpAddress.v4 127 0 0 1).text pageByPath) := rfl
  have he' : e'.Completes (ofRequest (IpAddress.v4 127 0 0 1).text pageByAddress) := rfl
  have hline : e.format "common" = e'.format "common" := by decide +kernel
  have hne : e ≠ e' := by decide +kernel
  exact ⟨hpath, haddress, hline, hne, common_decodable hpath haddress he he' hline⟩

/-- What a client can do to the quotes of a combined line. Cut at its quotation marks, the line has
seven pieces and one more for every mark in the path, the referer and the user agent. The second,
the fourth and the sixth of seven are the request line, the referer and the user agent exactly if
none of the three holds such a mark; the method and the query never do. -/
theorem combined_cut (hq : make method target version fields = .ok q)
    (he : e.Completes (ofRequest peer.text q)) :
    let pieces := (e.format "combined").toList.splitOn '"'
    let referer := (e.referer.getD "-").toList
    let userAgent := (e.userAgent.getD "-").toList
    pieces.length = 7 + (e.path.toList.count '"' + referer.count '"' + userAgent.count '"') ∧
      (pieces = [e.lineFront, e.requestLine.toList, e.lineAccount, referer, [' '], userAgent, []] ↔
        '"' ∉ e.path.toList ∧ '"' ∉ referer ∧ '"' ∉ userAgent) := by
  intro pieces referer userAgent
  have hquotable := he.isQuotable (isQuotable_entry hq peer)
  exact ⟨hquotable.length_splitOn_combined, hquotable.splitOn_combined_eq_iff⟩

theorem combined_cut_pageByAddress :
    let e := ofRequest (IpAddress.v4 127 0 0 1).text pageByAddress
    make (Utf8.ofString "GET") (Utf8.ofString "http://h/a?b") .v11
        [(Utf8.ofString "User-Agent", Utf8.ofString "curl")] = .ok pageByAddress ∧
      (e.format "combined").toList.splitOn '"' = [e.lineFront, "GET /a?b HTTP/1.1".toList,
        " 200 0 ".toList, ['-'], [' '], "curl".toList, []] := by
  intro e
  have haddress : make (Utf8.ofString "GET") (Utf8.ofString "http://h/a?b") .v11
      [(Utf8.ofString "User-Agent", Utf8.ofString "curl")] = .ok pageByAddress :=
    eq_ok_of_toOption (by decide +kernel)
  have he : e.Completes (ofRequest (IpAddress.v4 127 0 0 1).text pageByAddress) := rfl
  obtain ⟨-, hcut⟩ := combined_cut haddress he
  refine ⟨haddress, ?_⟩
  rw [hcut.2 (by decide +kernel)]
  decide +kernel

/-- A user agent with a quotation mark closes its quotes. -/
theorem userAgent_closes_quotes :
    let q : Request := { method := "GET", target := { path := "/" }
                         headers := ({} : Headers).append "user-agent" (Utf8.ofString "a\"b") }
    let e := ofRequest (IpAddress.v4 127 0 0 1).text q
    make (Utf8.ofString "GET") (Utf8.ofString "/") .v11
        [(Utf8.ofString "User-Agent", Utf8.ofString "a\"b")] = .ok q ∧
      e.format "combined" =
        "127.0.0.1 - - [01/Jan/1970:00:00:00 +0000] \"GET / HTTP/1.1\" 200 0 \"-\" \"a\"b\"" ∧
      ((e.format "combined").toList.splitOn '"').length = 8 ∧ e.userAgent = some "a\"b" := by
  intro q e
  exact ⟨eq_ok_of_toOption (by decide +kernel), by decide +kernel, by decide +kernel,
    by decide +kernel⟩

end Request

end FileServer
