import FileServer.Proofs.Containment
import FileServer.Proofs.Framing
import FileServer.Proofs.Numerals
import FileServer.Wire.Connection

/-!
What the access log says about the size of an answer. The bytes that are put to the account are
those of the body that the answer holds, and they are the bytes that are sent, with one exception:
the page that says that something is missing is held, and put to the account, even if only the head
was asked for and nothing of the page is sent.
-/

namespace FileServer

/-- The size of every file has at most 64 bits. -/
def Disk.IsMeasurable (d : Disk) : Prop :=
  d.EveryFile fun content _ => content.length ≤ Wide.greatestNatural

/-- The account is the number of bytes that are sent behind the head. -/
def Response.AccountsSent (r : Response) (method : String) : Prop :=
  r.accountedBytes = (Wire.sentBody method r).length

/-- The account is right, but for the heads of what is missing. -/
def Response.Accounts (r : Response) (method : String) : Prop :=
  r.AccountsSent method ↔ ¬(method = "HEAD" ∧ r.status = .notFound)

namespace Response

variable {r : Response} {method : String} {n : Nat}

/-- A length that is announced once is read back. -/
theorem declaredLength?_of_lengths (h : r.lengths = [decimal n]) (hn : n ≤ Wide.greatestNatural) :
    r.declaredLength? = some n := by
  have htext : visibleText? (decimal n) = some (toString n) := by
    rw [decimal, Nat.toString_eq_ofList_toDigits, Utf8.ofString_ofList,
      visibleText?_encode (allPrintable_decimal n)]
  rw [declaredLength?, Headers.get?_eq_head?, ← lengths, h, List.head?_cons, Option.bind_some,
    htext]
  exact Text.readNat?_toString hn

/-- The bytes of a body in memory are put to the account. -/
theorem accountedBytes_of_held {bytes : Bytes} (h : r.body = .held bytes) :
    r.accountedBytes = r.body.bytes.length := by
  rw [accountedBytes, h]
  rfl

/-- A length that is announced is put to the account, if it is that of the body. -/
theorem accountedBytes_of_lengths (h : r.lengths = [decimal r.body.bytes.length])
    (hsize : r.body.bytes.length ≤ Wide.greatestNatural) :
    r.accountedBytes = r.body.bytes.length := by
  cases hbody : r.body with
  | held bytes => rw [accountedBytes_of_held hbody, hbody]
  | streamed content =>
    rw [hbody] at h hsize
    rw [accountedBytes, hbody, declaredLength?_of_lengths h hsize]
    rfl

/-- Without a body nothing is sent and nothing put to the account. -/
theorem accountsSent_of_empty (h : r.body = .empty) : r.AccountsSent method := by
  rw [AccountsSent, accountedBytes_of_held h, Wire.sentBody, h]
  split <;> rfl

/-- A body that is put to the account is sent where there may be one. -/
theorem accountsSent_of_mayHaveBody (h : r.accountedBytes = r.body.bytes.length)
    (hmay : Wire.mayHaveBody method r.status = true) : r.AccountsSent method := by
  rw [AccountsSent, h, Wire.sentBody, if_pos hmay]

/-- Where something is found the account has to be right. -/
theorem accounts_of_found (h : r.AccountsSent method) (hstatus : r.status ≠ .notFound) :
    r.Accounts method := iff_of_true h fun hhead => hstatus hhead.2

end Response

namespace Answer

variable {method : String}

theorem accountedBytes_signed (a : Answer) (serverName : String) :
    (a.signed serverName).response.accountedBytes = a.response.accountedBytes := by
  unfold Response.accountedBytes Response.declaredLength?
  rw [body_signed, Headers.get?_eq_head?, Headers.get?_eq_head?,
    getAll_signed a serverName (by decide)]

/-- The name of the server does not count. -/
theorem accounts_signed {a : Answer} (h : a.response.Accounts method) (serverName : String) :
    (a.signed serverName).response.Accounts method := by
  have hsent : Wire.sentBody method (a.signed serverName).response =
      Wire.sentBody method a.response := by
    rw [Wire.sentBody, Wire.sentBody, status_signed, body_signed]
  rw [Response.Accounts, Response.AccountsSent, accountedBytes_signed, hsent, status_signed]
  exact h

theorem body_problem (status : Status) (message : String) :
    (problem status message).response.body =
      .held (Utf8.ofString (problemPage status message)) := by
  unfold problem plain
  rfl

/-- The page about a problem is not empty. -/
theorem bytes_problem_ne_nil (status : Status) (message : String) :
    (problem status message).response.body.bytes ≠ [] := by
  obtain ⟨front, hpage⟩ :
      ∃ front, problemPage status message = front ++ ".</p>\n</body>\n</html>\n" := ⟨_, rfl⟩
  have hbytes : ∀ bytes : Bytes, (Body.held bytes).bytes = bytes := fun _ => rfl
  rw [body_problem, hbytes, hpage, Utf8.ofString_append]
  exact List.append_ne_nil_of_right_ne_nil _ (by decide)

/-- The page about what is missing is put to the account, whether it is sent or not. -/
theorem accounts_missing (message : String) (hmethod : method = "GET" ∨ method = "HEAD") :
    (problem .notFound message).response.Accounts method := by
  have hstatus : (problem .notFound message).response.status = .notFound := rfl
  rcases hmethod with rfl | rfl
  · refine iff_of_true ?_ (fun hhead => absurd hhead.1 (by decide))
    exact Response.accountsSent_of_mayHaveBody
      (Response.accountedBytes_of_held (body_problem _ _)) (by rw [hstatus]; rfl)
  · refine iff_of_false (fun hsent => ?_) (fun h => h ⟨rfl, hstatus⟩)
    have hnone : Wire.sentBody "HEAD" (problem .notFound message).response = [] := by
      rw [Wire.sentBody, hstatus]
      rfl
    rw [Response.AccountsSent, Response.accountedBytes_of_held (body_problem _ _), hnone,
      List.length_nil, List.length_eq_zero_iff] at hsent
    exact bytes_problem_ne_nil _ _ hsent

theorem accounts_options (method : String) : options.response.Accounts method := by
  have hbody : options.response.body = .empty := rfl
  have hstatus : options.response.status = .noContent := rfl
  refine Response.accounts_of_found (Response.accountsSent_of_empty hbody) ?_
  rw [hstatus]
  decide

theorem accounts_methodNotAllowed (hmethod : method ≠ "HEAD") (message : String) :
    (methodNotAllowed message).response.Accounts method := by
  have hstatus : (methodNotAllowed message).response.status = .methodNotAllowed := rfl
  have hmay : Wire.mayHaveBody method .methodNotAllowed = true := by
    simp [Wire.mayHaveBody, hmethod, Status.methodNotAllowed]
  refine Response.accounts_of_found (Response.accountsSent_of_mayHaveBody ?_ ?_) ?_
  · exact Response.accountedBytes_of_held (body_problem _ _)
  · rw [hstatus, hmay]
  · rw [hstatus]
    decide

end Answer

namespace Site

variable {s : Site} {d : Disk} {v : Visit} {o : Outcome} {r : Response} {method : String}

/-- The account of what is shown for an outcome, if the size of a file can be accounted. -/
theorem Shape.accounts (h : Shape v o r) (hmethod : method = "GET" ∨ method = "HEAD")
    (hv : v.headOnly = (method == "HEAD"))
    (hsize : ∀ path content modified, o = .file path content modified →
      content.length ≤ Wide.greatestNatural) : r.Accounts method := by
  cases h with
  | missing => exact Answer.accounts_missing _ hmethod
  | unlisted => exact Answer.accounts_missing _ hmethod
  | moved =>
    refine Response.accounts_of_found (Response.accountsSent_of_empty ?_) ?_
    · exact Answer.body_checked_empty
    · rw [Answer.status_redirect]
      decide
  | bare => exact Response.accounts_of_found (Response.accountsSent_of_empty rfl) (by decide)
  | confirmed h =>
    refine Response.accounts_of_found (Response.accountsSent_of_empty h.body) ?_
    rw [h.status]
    decide
  | @listed rs =>
    have hstatus : (listingAnswer v rs).response.status = .ok := rfl
    refine Response.accounts_of_found ?_ (by rw [hstatus]; decide)
    have hbody : (listingAnswer v rs).response.body =
        if v.headOnly then .empty else .held _ := rfl
    rw [hv] at hbody
    rcases hmethod with rfl | rfl
    · exact Response.accountsSent_of_mayHaveBody (Response.accountedBytes_of_held hbody)
        (by rw [hstatus]; rfl)
    · exact Response.accountsSent_of_empty hbody
  | @carried path content modified _ h =>
    have hbody := h.body
    refine Response.accounts_of_found ?_ (by rw [h.status]; decide)
    rw [hv] at hbody
    rcases hmethod with rfl | rfl
    · have hstreamed : r.body = .streamed content := hbody
      refine Response.accountsSent_of_mayHaveBody ?_ (by rw [h.status]; rfl)
      refine Response.accountedBytes_of_lengths ?_ ?_
      · rw [hstreamed]
        exact h.lengths
      · rw [hstreamed]
        exact hsize path content modified rfl
    · exact Response.accountsSent_of_empty hbody

theorem dispatch_accounts {q : Request} {a : Answer} (hd : d.IsMeasurable)
    (h : s.dispatch d q = .ok a) : a.response.Accounts q.method := by
  rcases dispatch_cases s d q with ⟨hmethod, heq⟩ | ⟨-, heq⟩ | ⟨hmethod, heq⟩
  · obtain ⟨o, ho, hshape⟩ := shape_of_serve (heq.symm.trans h)
    refine hshape.accounts hmethod rfl fun path content modified hfile => ?_
    cases hfile
    cases ho with
    | file hchosen hr => exact hchosen.everyFile hd hr
  · cases heq.symm.trans h
    exact Answer.accounts_options q.method
  · cases heq.symm.trans h
    exact Answer.accounts_methodNotAllowed (fun heq => hmethod (by simp [heq])) _

/-- What is answered to a request is put to the account as it is sent, but for the head of what is
missing. -/
theorem handle_accounts {q : Request} {a : Answer} (hd : d.IsMeasurable)
    (h : s.handle d q = .ok a) : a.response.Accounts q.method := by
  obtain ⟨b, hb, hsigned⟩ := bind_eq_ok_iff.1 h
  cases hsigned
  exact Answer.accounts_signed (dispatch_accounts hd hb) s.serverName

end Site

namespace Wire.Connection

/-- The account of every answer on a connection: when requests are logged, an answered request has
an entry, and the size in it is that of the body that is sent behind the head, unless only the head
was asked for and nothing was found. -/
theorem answer_accounts {c : Connection} {settings : Settings} {s : Site} {d : Disk} {q : Request}
    {f : Framing} {rest : Bytes} {m : Moment} {a : Answer} (hd : d.IsMeasurable)
    (hlog : settings.logging.accessLog = true) (h : s.handle d q = .ok a) :
    ∃ turn next entry client, c.answer settings s d q f rest m = .ok (turn, next) ∧
      turn.entry = some entry ∧
      turn.sent = headBytes client m.time a.response.allowAnyOrigin ++
        sentBody q.method a.response ∧
      (entry.bodyBytes = (sentBody q.method a.response).length ↔
        ¬(q.method = "HEAD" ∧ a.response.status = .notFound)) := by
  rw [Connection.answer, h]
  exact ⟨_, _, _, _, rfl, if_pos hlog, rfl, Site.handle_accounts hd h⟩

/-- The page of the small site is put to the account with its nine bytes, and they are sent. -/
theorem answer_accounts_samplePage :
    let c : Connection := { peer := "[::1]:9" }
    let q : Request := { method := "GET", target := { path := "/" } }
    Site.sampleDisk.IsMeasurable ∧ ({} : Settings).logging.accessLog = true ∧
      ∃ a turn next entry, Site.sampleSite.handle Site.sampleDisk q = .ok a ∧
        (sentBody q.method a.response).length = 9 ∧
        c.answer {} Site.sampleSite Site.sampleDisk q { staysOpen := true } [] {} =
          .ok (turn, next) ∧
        turn.entry = some entry ∧ entry.bodyBytes = 9 := by
  intro c q
  have hd : Site.sampleDisk.IsMeasurable := Disk.everyFile_of_all (by decide +kernel)
  have hnine : (Site.sampleSite.handle Site.sampleDisk q).toOption.map
      (fun a => (sentBody q.method a.response).length) = some 9 := by decide +kernel
  obtain ⟨a, ha, hlength⟩ := Option.map_eq_some_iff.1 hnine
  have hhandle := eq_ok_of_toOption ha
  obtain ⟨turn, next, entry, -, hanswer, hentry, -, haccount⟩ :=
    @answer_accounts c {} Site.sampleSite Site.sampleDisk q { staysOpen := true } [] {} a hd rfl
      hhandle
  have hbytes := haccount.2 fun hhead => absurd hhead.1 (by decide)
  exact ⟨hd, rfl, a, turn, next, entry, hhandle, hlength, hanswer, hentry, hbytes.trans hlength⟩

/-- The page about a missing file is put to the account when only its head was asked for, and no
byte of it is sent. -/
theorem missing_head_overcounted :
    let c : Connection := { peer := "[::1]:9" }
    let q : Request := { method := "HEAD", target := { path := "/missing" } }
    ∃ a turn next entry, Site.sampleSite.handle Site.sampleDisk q = .ok a ∧
      sentBody q.method a.response = [] ∧
      c.answer {} Site.sampleSite Site.sampleDisk q { staysOpen := true } [] {} =
        .ok (turn, next) ∧
      turn.entry = some entry ∧ entry.bodyBytes ≠ 0 := by
  intro c q
  have hmissing : (Site.sampleSite.handle Site.sampleDisk q).toOption.map
      (fun a => (sentBody q.method a.response, a.response.status)) = some ([], .notFound) := by
    decide +kernel
  obtain ⟨a, ha, hpair⟩ := Option.map_eq_some_iff.1 hmissing
  obtain ⟨hsent, hstatus⟩ := Prod.mk.inj hpair
  have hhandle := eq_ok_of_toOption ha
  have haccounts : a.response.Accounts q.method :=
    Site.handle_accounts (Disk.everyFile_of_all (by decide +kernel)) hhandle
  have hbytes : a.response.accountedBytes ≠ 0 := fun hzero =>
    haccounts.1 (hzero.trans (congrArg List.length hsent).symm) ⟨rfl, hstatus⟩
  have hanswer : ∃ turn next entry,
      c.answer {} Site.sampleSite Site.sampleDisk q { staysOpen := true } [] {} =
        .ok (turn, next) ∧
      turn.entry = some entry ∧ entry.bodyBytes = a.response.accountedBytes := by
    rw [Connection.answer, hhandle]
    exact ⟨_, _, _, rfl, rfl, rfl⟩
  obtain ⟨turn, next, entry, hanswer, hentry, haccount⟩ := hanswer
  exact ⟨a, turn, next, entry, hhandle, hsent, hanswer, hentry, haccount ▸ hbytes⟩

end Wire.Connection

end FileServer
